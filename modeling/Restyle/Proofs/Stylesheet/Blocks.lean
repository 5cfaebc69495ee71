import Mathlib
import Restyle.Proofs.Stylesheet.Comments
import Restyle.Stylesheet.Sheet

/-!
# Restyle.Proofs.Stylesheet.Blocks

A block of a sheet and the declarations in it.

* `nextBlock?_block`: a head and a body that close what they open are found as one block, whatever
  follows. What the search does along a text is told by the state it comes to (`Place.past?`,
  `bracesPast?`).
* `parse_block_iff`: a rule declares what its block does as the text of a `style` attribute, unless
  text joins where a comment is removed; the comments of a sheet are removed from the sheet and
  again from each block.
-/

namespace Restyle
namespace Stylesheet

variable {q : Quote} {c target : Char} {cs rest head body kept : List Char}

/-! ## Heads -/

/-- Where a reader stands: in a string or not, and how many parentheses and brackets are open. -/
structure Place where
  quote : Quote := {}
  parens : Nat := 0
  brackets : Nat := 0
  deriving DecidableEq

namespace Place

variable {p p' : Place}

/-- Outside strings, parentheses and brackets. -/
def isTop (p : Place) : Bool := p.quote.mark.isNone && p.parens == 0 && p.brackets == 0

/-- The place past one more character. Nothing is closed that is not open. -/
def next (p : Place) (c : Char) : Place :=
  if (p.quote.feed c).2 then { p with quote := (p.quote.feed c).1 }
  else if c == '(' then { p with parens := p.parens + 1 }
  else if c == ')' then { p with parens := p.parens - 1 }
  else if c == '[' then { p with brackets := p.brackets + 1 }
  else if c == ']' then { p with brackets := p.brackets - 1 }
  else p

/-- The place past a text, if the target does not stand at its top. -/
def past? (target : Char) (p : Place) (cs : List Char) : Option Place :=
  cs.foldlM (fun p c => if c == target && p.isTop then none else some (p.next c)) p

theorem past?_cons : past? target p (c :: cs) =
    if (c == target && p.isTop) = true then none else past? target (p.next c) cs := by
  rw [past?, List.foldlM_cons]
  split <;> rfl

theorem past?_append (h : past? target p cs = some p') :
    past? target p (cs ++ rest) = past? target p' rest := by
  rw [past?, List.foldlM_append]
  exact congrArg (· >>= _) h

theorem next_quote (p : Place) (c : Char) : (p.next c).quote = (p.quote.feed c).1 := by
  unfold next
  cases hin : (p.quote.feed c).2 with
  | true => rfl
  | false =>
    rw [Quote.feed_fst_of_snd hin]
    simp only [Bool.false_eq_true, if_false]
    repeat' split
    all_goals rfl

/-- The search follows strings as every reader does. -/
theorem past?_quote (h : past? target p cs = some p') : p'.quote = p.quote.past cs := by
  induction cs generalizing p with
  | nil =>
    obtain rfl := Option.some.inj h
    rfl
  | cons c cs ih =>
    rw [past?_cons] at h
    split at h
    · cases h
    · rw [ih h, next_quote, Quote.past_cons]

end Place

/-- The search goes on behind a character that is not the target, or not at the top. -/
theorem cutTopFrom_cons {p : Place}
    (h : ¬ (c == target && p.isTop) = true) :
    cutTopFrom target p.quote p.parens p.brackets (c :: cs) =
      (cutTopFrom target (p.next c).quote (p.next c).parens (p.next c).brackets cs).map
        fun x => (c :: x.1, x.2) := by
  rw [cutTopFrom, Place.next]
  rcases hfeed : p.quote.feed c with ⟨q', inside⟩
  cases inside with
  | true => rfl
  | false =>
    obtain rfl := Quote.eq_of_feed hfeed
    have hout : p.quote.mark = none ∧ _ := Quote.feed_snd_eq_false_iff.mp (by rw [hfeed])
    have hnot : (c == target && p.parens == 0 && p.brackets == 0) = false := by
      simpa [Place.isTop, hout.1, and_assoc] using h
    simp only [Bool.false_eq_true, if_false, hnot]
    repeat' split
    all_goals rfl

theorem cutTopFrom_append {p p' : Place} (h : p.past? target cs = some p') :
    cutTopFrom target p.quote p.parens p.brackets (cs ++ rest) =
      (cutTopFrom target p'.quote p'.parens p'.brackets rest).map fun x => (cs ++ x.1, x.2) := by
  induction cs generalizing p with
  | nil =>
    obtain rfl := Option.some.inj h
    simp
  | cons c cs ih =>
    rw [Place.past?_cons] at h
    split at h
    · cases h
    · rename_i hc
      rw [List.cons_append, cutTopFrom_cons hc, ih h, Option.map_map]
      rfl

/-- A text without the target at its top that comes back to the top is cut at the target behind
it. -/
theorem cutTop_append_cons (ht : target ∉ ['\'', '"', '(', ')', '[', ']'])
    (h : Place.past? target {} cs = some {}) :
    cutTop target (cs ++ target :: rest) = some (cs, rest) := by
  have hhere : cutTop target (target :: rest) = some ([], rest) := by
    simp only [List.mem_cons, not_or] at ht
    rw [cutTop, cutTopFrom, Quote.feed_of_outside rfl ⟨ht.1, ht.2.1⟩]
    simp [ht]
  rw [cutTop, cutTopFrom_append h, ← cutTop, hhere, Option.map_some, List.append_nil]

/-! ## Bodies -/

/-- The state of strings and the number of open braces past one more character. No brace is closed
that is not open. -/
def bracesNext? (state : Quote × Nat) (c : Char) : Option (Quote × Nat) :=
  let (q, depth) := state
  if (q.feed c).2 then some ((q.feed c).1, depth)
  else if c == '{' then some (q, depth + 1)
  else if c == '}' then
    match depth with
    | 0 => none
    | depth + 1 => some (q, depth)
  else some (q, depth)

def bracesPast? (state : Quote × Nat) (cs : List Char) : Option (Quote × Nat) :=
  cs.foldlM bracesNext? state

theorem cutBlock_cons {state state' : Quote × Nat} (h : bracesNext? state c = some state') :
    cutBlock state.1 state.2 (c :: cs) =
      (cutBlock state'.1 state'.2 cs).map fun x => (c :: x.1, x.2) := by
  obtain ⟨q, depth⟩ := state
  rw [cutBlock]
  unfold bracesNext? at h
  rcases hfeed : q.feed c with ⟨q', inside⟩
  simp only [hfeed] at h ⊢
  cases inside with
  | true =>
    obtain rfl := Option.some.inj h
    rfl
  | false =>
    obtain rfl := Quote.eq_of_feed hfeed
    simp only [Bool.false_eq_true, if_false] at h ⊢
    by_cases hopen : (c == '{') = true
    · rw [if_pos hopen] at h ⊢
      obtain rfl := Option.some.inj h
      rfl
    · rw [if_neg hopen] at h ⊢
      by_cases hclose : (c == '}') = true
      · rw [if_pos hclose] at h ⊢
        cases depth with
        | zero => cases h
        | succ depth =>
          obtain rfl := Option.some.inj h
          rfl
      · rw [if_neg hclose] at h ⊢
        obtain rfl := Option.some.inj h
        rfl

theorem cutBlock_append {state state' : Quote × Nat} (h : bracesPast? state cs = some state') :
    cutBlock state.1 state.2 (cs ++ rest) =
      (cutBlock state'.1 state'.2 rest).map fun x => (cs ++ x.1, x.2) := by
  induction cs generalizing state with
  | nil =>
    obtain rfl := Option.some.inj h
    simp
  | cons c cs ih =>
    rw [bracesPast?, List.foldlM_cons] at h
    obtain ⟨next, hnext, h⟩ := Option.bind_eq_some_iff.mp h
    rw [List.cons_append, cutBlock_cons hnext, ih h, Option.map_map]
    rfl

/-- Text without braces leaves their number as it is. -/
theorem bracesPast?_of_not_mem (hopen : '{' ∉ cs) (hclose : '}' ∉ cs) (q : Quote) (depth : Nat) :
    bracesPast? (q, depth) cs = some (q.past cs, depth) := by
  induction cs generalizing q with
  | nil => rfl
  | cons c cs ih =>
    rw [List.mem_cons, not_or] at hopen hclose
    have hnext : bracesNext? (q, depth) c = some ((q.feed c).1, depth) := by
      cases hin : (q.feed c).2 with
      | true => simp only [bracesNext?, hin, if_true]
      | false =>
        simp [bracesNext?, hin, Ne.symm hopen.1, Ne.symm hclose.1, Quote.feed_fst_of_snd hin]
    rw [bracesPast?, List.foldlM_cons, hnext]
    exact ih hopen.2 hclose.2 _

theorem bracesNext?_quote {state state' : Quote × Nat} (h : bracesNext? state c = some state') :
    state'.1 = (state.1.feed c).1 := by
  obtain ⟨q, depth⟩ := state
  unfold bracesNext? at h
  cases hin : (q.feed c).2 with
  | true =>
    simp only [hin, if_true, Option.some.injEq] at h
    rw [← h]
  | false =>
    rw [Quote.feed_fst_of_snd hin]
    simp only [hin, Bool.false_eq_true, if_false] at h
    repeat' split at h
    all_goals cases h
    all_goals rfl

theorem bracesPast?_quote {state state' : Quote × Nat} (h : bracesPast? state cs = some state') :
    state'.1 = state.1.past cs := by
  induction cs generalizing state with
  | nil =>
    obtain rfl := Option.some.inj h
    rfl
  | cons c cs ih =>
    rw [bracesPast?, List.foldlM_cons] at h
    obtain ⟨next, hnext, h⟩ := Option.bind_eq_some_iff.mp h
    rw [ih h, bracesNext?_quote hnext, Quote.past_cons]

/-! ## Blocks -/

/-- What may stand before the brace of a block: no such brace stands at its top, and it closes what
it opens. -/
structure IsHead (head : List Char) : Prop where
  starts : ∀ c ∈ head.head?, isRuleSeparator c = false
  closes : Place.past? '{' {} head = some {}

/-- What may stand between the braces of a block. -/
def IsBody (body : List Char) : Prop := bracesPast? ({}, 0) body = some ({}, 0)

theorem dropWhile_eq_self_of_head? {p : Char → Bool} (h : ∀ c ∈ cs.head?, p c = false) :
    cs.dropWhile p = cs := by
  cases cs with
  | nil => rfl
  | cons c cs => rw [List.dropWhile_cons_of_neg (by simp [h c rfl])]

/-- **A head and a body are found as one block**, whatever follows. -/
theorem nextBlock?_block (hh : IsHead head) (hb : IsBody body) (rest : List Char) :
    nextBlock? (head ++ '{' :: (body ++ '}' :: rest)) = some (head, body, rest) := by
  have hstarts : ∀ c ∈ (head ++ '{' :: (body ++ '}' :: rest)).head?, isRuleSeparator c = false := by
    cases hhead : head with
    | nil =>
      rintro c hc
      cases hc
      decide
    | cons d head =>
      intro c hc
      exact hh.starts c (by rw [hhead]; exact hc)
  have hclose : cutBlock {} 0 ('}' :: rest) = some ([], rest) := rfl
  have hcut : cutBlock {} 0 (body ++ '}' :: rest) =
      (cutBlock {} 0 ('}' :: rest)).map fun x => (body ++ x.1, x.2) := cutBlock_append hb
  rw [nextBlock?, dropWhile_eq_self_of_head? hstarts, cutTop_append_cons (by decide) hh.closes]
  dsimp only
  rw [hcut, hclose]
  simp

/-- The rules that a block stands for. -/
def blockRules (head body : List Char) : List Rule :=
  let head := Text.squeeze (String.ofList head)
  if head.isEmpty then []
  else if isGroup head then parseRules body
  else if head.front == '@' then []
  else rulesOf head body

theorem parseRules_eq (cs : List Char) : parseRules cs =
    match nextBlock? cs with
    | none => []
    | some (head, body, rest) => blockRules head body ++ parseRules rest := by
  rw [parseRules]
  split
  · rename_i heq
    rw [heq]
  · rename_i heq
    rw [heq]
    rfl

/-! ## A block and a style attribute -/

/-- The rule for paragraphs with these declarations, if there are any. -/
def paragraphRules : List Declaration → List Rule
  | [] => []
  | declarations => [⟨{ subject := { tag := some "p" } }, declarations⟩]

theorem paragraphRules_eq_iff {ds ds' : List Declaration} (hne : ds' ≠ []) :
    paragraphRules ds = [⟨{ subject := { tag := some "p" } }, ds'⟩] ↔ ds = ds' := by
  cases ds with
  | nil => simp [paragraphRules, hne.symm]
  | cons d ds => simp [paragraphRules]

/-- In a sheet the comments of a block are removed twice. -/
theorem parse_paragraph {block : String} (hopen : '{' ∉ block.toList) (hclose : '}' ∉ block.toList)
    (hclosed : ClosesAll block.toList) : Sheet.parse ("p \x7b" ++ block ++ "\x7d") =
      ⟨paragraphRules (parseDeclarations (String.ofList (stripComments {} block.toList)))⟩ := by
  obtain ⟨kept, hu, hmark⟩ := hclosed
  have hkept : stripComments {} block.toList = kept := hu.stripComments_eq
  have hstrip : stripComments {} ("p \x7b" ++ block ++ "\x7d").toList =
      ['p', ' '] ++ '{' :: (kept ++ ['}']) := by
    have hfront : ∀ c ∈ ['p', ' ', '{'], IsPlain '}' c := by simp [IsPlain]
    have hend : stripComments (Quote.past {} kept) ['}'] = ['}'] := by
      rw [Quote.past_eq_of_mark hmark]
      decide +kernel
    have h := stripComments_append hfront (block.toList ++ ['}'])
    rw [hu.stripComments_append (.inr (by decide)), hend] at h
    simpa using h
  have hhead : IsHead ['p', ' '] := ⟨by rintro c ⟨⟩; decide, by decide⟩
  have hbody : IsBody kept := by
    have h := bracesPast?_of_not_mem (fun hc => hopen (hu.sublist.subset hc))
      (fun hc => hclose (hu.sublist.subset hc)) {} 0
    rwa [Quote.past_eq_of_mark hmark] at h
  have hrules : blockRules ['p', ' '] kept =
      paragraphRules (parseDeclarations (String.ofList kept)) := by
    have hlist : splitTop ',' "p".toList = [['p']] := by decide +kernel
    have hselector : Selector.parse? ['p'] = some { subject := { tag := some "p" } } := by
      decide +kernel
    rw [blockRules, show Text.squeeze (String.ofList ['p', ' ']) = "p" by decide]
    show rulesOf "p" kept = _
    rw [rulesOf, hlist]
    cases parseDeclarations (String.ofList kept) with
    | nil => rfl
    | cons e es => simp [hselector, paragraphRules]
  rw [Sheet.parse, hstrip, parseRules_eq, nextBlock?_block hhead hbody, hkept]
  dsimp only
  rw [hrules, parseRules_eq]
  simp [nextBlock?, cutTop, cutTopFrom]

/-- **A block declares in a rule what it does in a `style` attribute**, unless text joins where one
of its comments is removed. Removing comments is idempotent just on the texts that do not join, and
the rule has the declarations of the block just if they are also those of the block without
comments. -/
theorem parse_block_iff (block : String) :
    (stripComments {} (stripComments {} block.toList) = stripComments {} block.toList ↔
      ¬ Joins block.toList) ∧
    ('{' ∉ block.toList → '}' ∉ block.toList → ClosesAll block.toList →
      parseDeclarations block ≠ [] →
      let rule : Rule := ⟨{ subject := { tag := some "p" } }, parseDeclarations block⟩
      ((Sheet.parse ("p \x7b" ++ block ++ "\x7d")).rules = [rule] ↔
        parseDeclarations (String.ofList (stripComments {} block.toList)) =
          parseDeclarations block) ∧
      (¬ Joins block.toList → (Sheet.parse ("p \x7b" ++ block ++ "\x7d")).rules = [rule])) := by
  refine ⟨stripComments_stripComments_iff _, ?_⟩
  intro hopen hclose hclosed hne rule
  rw [parse_paragraph hopen hclose hclosed, paragraphRules_eq_iff hne]
  refine ⟨Iff.rfl, fun hjoins => ?_⟩
  rw [parseDeclarations, String.toList_ofList, (stripComments_stripComments_iff _).mpr hjoins,
    parseDeclarations]

/-- Two declarations, with a semicolon in a string and a comment between them. -/
theorem parse_block_iff_font :
    let block := "Font: 'a; b'; /* wide */ margin : 1px  2px"
    ClosesAll block.toList ∧ ¬ Joins block.toList ∧
      parseDeclarations block = [⟨"font", "'a; b'"⟩, ⟨"margin", "1px 2px"⟩] ∧
      (Sheet.parse ("p \x7b" ++ block ++ "\x7d")).rules =
        [⟨{ subject := { tag := some "p" } }, parseDeclarations block⟩] := by
  intro block
  have hclosed : ClosesAll block.toList := by
    have hfront : Uncommented {} "Font: 'a; b'; ".toList "Font: 'a; b'; ".toList :=
      uncommented_self (by decide +kernel)
    have hcomment : IsComment "/* wide */".toList := ⟨" wide ".toList, rfl, by decide⟩
    have hback : Uncommented {} " margin : 1px  2px".toList " margin : 1px  2px".toList :=
      uncommented_self (by decide +kernel)
    have hu := hfront.append (.inl (by decide)) (.comment (by decide) hcomment hback)
    have htext : block.toList = "Font: 'a; b'; ".toList ++
        ("/* wide */".toList ++ " margin : 1px  2px".toList) := by decide
    rw [htext]
    exact ⟨_, hu, by decide⟩
  have hjoins : ¬ Joins block.toList :=
    (parse_block_iff block).1.mp (by decide +kernel)
  have hdeclarations : parseDeclarations block = [⟨"font", "'a; b'"⟩, ⟨"margin", "1px 2px"⟩] := by
    decide +kernel
  refine ⟨hclosed, hjoins, hdeclarations, ?_⟩
  refine ((parse_block_iff block).2 (by decide) (by decide) hclosed ?_).2 hjoins
  rw [hdeclarations]
  simp

/-- A slash and a star on the two sides of a comment become a comment of their own in a rule, and
what stands behind them is lost. -/
theorem joined_comment_loses :
    let block := "a: x//**/*y; c: d"
    '{' ∉ block.toList ∧ '}' ∉ block.toList ∧ ClosesAll block.toList ∧
      parseDeclarations block = [⟨"a", "x/*y"⟩, ⟨"c", "d"⟩] ∧
      (Sheet.parse ("p \x7b" ++ block ++ "\x7d")).rules =
        [⟨{ subject := { tag := some "p" } }, [⟨"a", "x"⟩]⟩] ∧
      stripComments {} (stripComments {} block.toList) ≠ stripComments {} block.toList := by
  intro block
  refine ⟨by decide, by decide, ?_, by decide +kernel, by decide +kernel, by decide +kernel⟩
  have hfront : Uncommented {} "a: x/".toList "a: x/".toList := uncommented_self (by decide +kernel)
  have hcomment : IsComment "/**/".toList := ⟨[], rfl, by decide⟩
  have hback : Uncommented {} "*y; c: d".toList "*y; c: d".toList :=
    uncommented_self (by decide +kernel)
  have hu := hfront.append (.inr (by decide)) (.comment (by decide) hcomment hback)
  have htext : block.toList = "a: x/".toList ++ ("/**/".toList ++ "*y; c: d".toList) := by decide
  rw [htext]
  exact ⟨_, hu, by decide⟩

end Stylesheet
end Restyle
