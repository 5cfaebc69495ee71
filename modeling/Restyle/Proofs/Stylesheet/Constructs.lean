import Mathlib
import Restyle.Proofs.Stylesheet.Blocks

/-!
# Restyle.Proofs.Stylesheet.Constructs

What the rules of a sheet have to do with the text before them.

A sheet is a sequence of `Construct`s: blocks with their heads, statements such as `@import 'x';`,
and white space. The reader knows blocks only and takes a statement for the beginning of the next
head.

* `parse_append_iff`: so a sequence that ends with a block has no bearing on what follows it. Behind
  statements the first block is read as one of theirs: its rules are lost, or if the statement
  begins like a group its body is read as the body of the group.

The statements that no block has followed yet (`waiting`) are the state of the induction.
-/

namespace Restyle

/-! ## Words -/

namespace Text

/-- The first piece goes up to the first mark. -/
theorem splitBy_eq (p : Char → Bool) (cs : List Char) :
    splitBy p cs = cs.takeWhile (!p ·) :: (splitBy p cs).tail := by
  induction cs with
  | nil => rfl
  | cons c cs ih =>
    rw [splitBy]
    cases hc : p c with
    | true => simp [hc]
    | false =>
      rw [ih]
      simp [hc]

theorem isSome_after?_iff {front cs : List Char} :
    (after? front cs).isSome = true ↔ front <+: cs := by
  induction front generalizing cs with
  | nil => simp [after?]
  | cons f front ih =>
    cases cs with
    | nil => simp [after?]
    | cons c cs =>
      rw [after?, List.cons_prefix_cons]
      by_cases hf : f = c
      · simp [hf, ih]
      · simp [hf]

end Text

namespace Stylesheet

variable {c : Char} {cs rest head body waiting : List Char}

/-! ## Groups -/

/-- What follows a text that has a character outside the name does not matter. -/
theorem prefix_append_iff {name front back : List Char} (hc : c ∈ front) (hn : c ∉ name) :
    name <+: front ++ back ↔ name <+: front := by
  constructor
  · intro h
    obtain h | h := List.prefix_or_prefix_of_prefix h (List.prefix_append front back)
    · exact h
    · exact absurd (h.subset hc) hn
  · exact fun h => h.trans (List.prefix_append front back)

/-- The first word of a text that begins with no blank. -/
def firstWord (cs : List Char) : List Char := cs.takeWhile (!Text.isBlank ·)

theorem exists_squeeze (hc : Text.isBlank c = false) (cs : List Char) : ∃ more,
    (Text.squeeze (String.ofList (c :: cs))).toList = firstWord (c :: cs) ++ more ∧
      ∀ x ∈ more.head?, x = ' ' := by
  have hwords : Text.words (String.ofList (c :: cs)) = String.ofList (firstWord (c :: cs)) ::
      ((Text.splitBy Text.isBlank (c :: cs)).tail.filter (!·.isEmpty)).map String.ofList := by
    rw [Text.words, Text.piecesBy, String.toList_ofList, Text.splitBy_eq]
    simp [firstWord, hc]
  rw [Text.squeeze, hwords]
  cases ((Text.splitBy Text.isBlank (c :: cs)).tail.filter (!·.isEmpty)).map String.ofList with
  | nil => exact ⟨[], by simp, by simp⟩
  | cons word words =>
    rw [String.intercalate_cons_cons, String.toList_append, String.toList_append,
      String.toList_ofList, List.append_assoc]
    exact ⟨_, rfl, by simp⟩

/-- Whether a head begins a group is told by its first word. -/
theorem isGroup_squeeze (hc : Text.isBlank c = false) (cs : List Char) :
    isGroup (Text.squeeze (String.ofList (c :: cs))) =
      ["@media", "@supports", "@layer"].any fun name =>
        name.toList.isPrefixOf ((firstWord (c :: cs)).map Char.toLower) := by
  obtain ⟨more, hsqueeze, hmore⟩ := exists_squeeze hc cs
  have hname : ∀ name : List Char, ' ' ∉ name →
      (Text.after? name ((firstWord (c :: cs) ++ more).map Char.toLower)).isSome =
        name.isPrefixOf ((firstWord (c :: cs)).map Char.toLower) := by
    intro name hn
    rw [Bool.eq_iff_iff, Text.isSome_after?_iff, List.isPrefixOf_iff_prefix, List.map_append]
    cases more with
    | nil => simp
    | cons x more =>
      obtain rfl := hmore x rfl
      rw [List.map_cons, List.append_cons, prefix_append_iff (c := ' ') (by simp) hn,
        List.prefix_concat_iff]
      refine or_iff_right fun h => hn ?_
      rw [h]
      simp
  rw [isGroup, Text.lower, hsqueeze, String.toList_ofList]
  simp only [List.any_cons, List.any_nil, hname _ (show ' ' ∉ "@media".toList by decide),
    hname _ (show ' ' ∉ "@supports".toList by decide),
    hname _ (show ' ' ∉ "@layer".toList by decide)]

/-- A semicolon ends the word that tells. -/
theorem isGroup_append (hc : Text.isBlank c = false) (hend : ';' ∈ c :: cs) (more : List Char) :
    isGroup (Text.squeeze (String.ofList (c :: cs ++ more))) =
      isGroup (Text.squeeze (String.ofList (c :: cs))) := by
  rw [List.cons_append, isGroup_squeeze hc, isGroup_squeeze hc, ← List.cons_append]
  have hname : ∀ name : List Char, ';' ∉ name →
      name.isPrefixOf ((firstWord (c :: cs ++ more)).map Char.toLower) =
        name.isPrefixOf ((firstWord (c :: cs)).map Char.toLower) := by
    intro name hn
    rw [Bool.eq_iff_iff, List.isPrefixOf_iff_prefix, List.isPrefixOf_iff_prefix, firstWord,
      firstWord, List.takeWhile_append]
    split
    · -- no blank: the semicolon stands in the first word
      rename_i hall
      have htake := (List.takeWhile_prefix (!Text.isBlank ·)).eq_of_length hall
      rw [List.map_append, htake]
      exact prefix_append_iff (c := ';') (List.mem_map.mpr ⟨';', hend, rfl⟩) hn
    · rfl
  simp only [List.any_cons, List.any_nil, hname _ (show ';' ∉ "@media".toList by decide),
    hname _ (show ';' ∉ "@supports".toList by decide),
    hname _ (show ';' ∉ "@layer".toList by decide)]

/-! ## Statements that wait for a block -/

/-- Separators are nothing to a reader of heads. -/
theorem past?_separators (hs : ∀ c ∈ cs, isRuleSeparator c = true) :
    Place.past? '{' {} cs = some {} := by
  induction cs with
  | nil => rfl
  | cons c cs ih =>
    have hplain : c ∉ ['{', '\'', '"', '(', ')', '[', ']'] := by
      intro hmem
      have hc := hs c List.mem_cons_self
      fin_cases hmem <;> exact absurd hc (by decide)
    simp only [List.mem_cons, not_or, List.not_mem_nil, not_false_eq_true, and_true] at hplain
    have hnext : Place.next {} c = {} := by
      rw [Place.next, Quote.feed_of_outside rfl ⟨hplain.2.1, hplain.2.2.1⟩]
      simp [hplain]
    rw [Place.past?_cons, hnext, if_neg (by simp [hplain.1])]
    exact ih fun d hd => hs d (List.mem_cons_of_mem _ hd)

/-- Statements, and what stands between them, that no block has followed yet. -/
structure IsWaiting (waiting : List Char) : Prop where
  starts : waiting.head? = some '@'
  ends : ';' ∈ waiting
  closes : Place.past? '{' {} waiting = some {}

namespace IsWaiting

theorem ne_nil (hw : IsWaiting waiting) : waiting ≠ [] := by
  rintro rfl
  cases hw.starts

/-- More text that closes what it opens waits as well. -/
theorem append (hw : IsWaiting waiting) {more : List Char}
    (hm : Place.past? '{' {} more = some {}) : IsWaiting (waiting ++ more) where
  starts := by rw [List.head?_append, hw.starts, Option.some_or]
  ends := List.mem_append_left more hw.ends
  closes := by rw [Place.past?_append hw.closes, hm]

/-- The next block is found behind them, and they are a part of its head. -/
theorem nextBlock? (hw : IsWaiting waiting) (rest : List Char) :
    nextBlock? (waiting ++ rest) = (Stylesheet.nextBlock? rest).map fun x =>
      (waiting ++ (rest.takeWhile isRuleSeparator ++ x.1), x.2) := by
  have hstarts : ∀ c ∈ (waiting ++ rest).head?, isRuleSeparator c = false := by
    rw [List.head?_append, hw.starts]
    rintro c ⟨⟩
    decide
  have hcut : cutTop '{' (waiting ++ rest) = (cutTop '{' (rest.dropWhile isRuleSeparator)).map
      fun x => (waiting ++ (rest.takeWhile isRuleSeparator ++ x.1), x.2) := by
    have hpast := (hw.append (past?_separators
      fun c hc => List.mem_takeWhile_imp (l := rest) (p := isRuleSeparator) hc)).closes
    conv_lhs => rw [← List.takeWhile_append_dropWhile (p := isRuleSeparator) (l := rest)]
    rw [← List.append_assoc, cutTop, cutTopFrom_append hpast]
    simp only [List.append_assoc]
    rfl
  rw [Stylesheet.nextBlock?, Stylesheet.nextBlock?, dropWhile_eq_self_of_head? hstarts, hcut]
  cases cutTop '{' (rest.dropWhile isRuleSeparator) with
  | none => rfl
  | some x =>
    simp only [Option.map_some, Option.map_map]
    rfl

end IsWaiting

/-- The rules of the first block behind statements that wait for one: it is theirs. -/
def takenRules (waiting body : List Char) : List Rule :=
  if isGroup (Text.squeeze (String.ofList waiting)) then parseRules body else []

theorem IsWaiting.blockRules (hw : IsWaiting waiting) (more body : List Char) :
    blockRules (waiting ++ more) body = takenRules waiting body := by
  obtain ⟨cs, rfl⟩ := List.head?_eq_some_iff.mp hw.starts
  have hgroup := isGroup_append (c := '@') (by decide) hw.ends more
  obtain ⟨words, hsqueeze, -⟩ := exists_squeeze (c := '@') (by decide) (cs ++ more)
  rw [firstWord, List.takeWhile_cons_of_pos (by decide), ← List.cons_append] at hsqueeze
  have hempty : (Text.squeeze (String.ofList ('@' :: cs ++ more))).isEmpty = false := by
    rw [Bool.eq_false_iff]
    intro h
    rw [String.isEmpty_iff.mp h] at hsqueeze
    cases hsqueeze
  have hfront : (Text.squeeze (String.ofList ('@' :: cs ++ more))).front = '@' := by
    rw [String.front_eq, String.front?_eq, hsqueeze]
    rfl
  rw [Stylesheet.blockRules, takenRules, hgroup, hempty, hfront]
  simp

theorem IsWaiting.parseRules (hw : IsWaiting waiting) (rest : List Char) :
    parseRules (waiting ++ rest) = match Stylesheet.nextBlock? rest with
      | none => []
      | some (_, body, rest) => takenRules waiting body ++ Stylesheet.parseRules rest := by
  rw [parseRules_eq, hw.nextBlock?]
  cases Stylesheet.nextBlock? rest with
  | none => rfl
  | some x =>
    simp only [Option.map_some, hw.blockRules]

/-! ## Sequences of constructs -/

/-- The parts of a sheet: blocks with their heads, statements with the semicolons that end them, and
what may stand between these. -/
inductive Construct where
  | gap (c : Char)
  | block (head body : List Char)
  | statement (text : List Char)

namespace Construct

def chars : Construct → List Char
  | gap c => [c]
  | block head body => head ++ '{' :: (body ++ ['}'])
  | statement text => text ++ [';']

/-- Each construct closes what it opens. -/
def IsWritten : Construct → Prop
  | gap c => isRuleSeparator c = true
  | block head body => IsHead head ∧ IsBody body
  | statement text => text.head? = some '@' ∧ Place.past? '{' {} text = some {}

/-- The statements that wait for a block behind one more construct. -/
def waitingNext (waiting : List Char) : Construct → List Char
  | gap c => if waiting = [] then [] else waiting ++ [c]
  | block _ _ => []
  | statement text => waiting ++ (text ++ [';'])

/-- The rules of a construct behind statements that wait for a block. -/
def rulesBehind (waiting : List Char) : Construct → List Rule
  | block head body => if waiting = [] then blockRules head body else takenRules waiting body
  | _ => []

variable {k : Construct}

/-- **One construct is read up to its end.** -/
theorem parseRules_step (hk : k.IsWritten) (hw : waiting = [] ∨ IsWaiting waiting) :
    (k.waitingNext waiting = [] ∨ IsWaiting (k.waitingNext waiting)) ∧ ∀ rest,
      parseRules (waiting ++ (k.chars ++ rest)) =
        k.rulesBehind waiting ++ parseRules (k.waitingNext waiting ++ rest) := by
  cases k with
  | gap c =>
    -- a separator is skipped before a head, and is a part of it behind a statement
    obtain rfl | hw := hw
    · refine ⟨.inl rfl, fun rest => ?_⟩
      have hnext : nextBlock? (c :: rest) = nextBlock? rest := by
        rw [nextBlock?, List.dropWhile_cons_of_pos hk, ← nextBlock?]
      show parseRules (c :: rest) = parseRules rest
      rw [parseRules_eq, parseRules_eq, hnext]
    · have hne : waiting ≠ [] := hw.ne_nil
      simp only [waitingNext, rulesBehind, chars, if_neg hne]
      refine ⟨.inr (hw.append (past?_separators (by simpa [IsWritten] using hk))), fun rest => ?_⟩
      rw [List.append_assoc, List.nil_append]
  | block head body =>
    have hblock := fun rest => nextBlock?_block hk.1 hk.2 rest
    have hchars : ∀ rest,
        (block head body).chars ++ rest = head ++ '{' :: (body ++ '}' :: rest) := by simp [chars]
    refine ⟨.inl rfl, fun rest => ?_⟩
    obtain rfl | hw := hw
    · rw [List.nil_append, hchars, parseRules_eq, hblock, rulesBehind, if_pos rfl]
      rfl
    · rw [hchars, hw.parseRules, hblock]
      simp only [rulesBehind, if_neg hw.ne_nil]
      rfl
  | statement text =>
    have htext : IsWaiting (text ++ [';']) := by
      refine ⟨?_, by simp, ?_⟩
      · rw [List.head?_append, hk.1, Option.some_or]
      · rw [Place.past?_append hk.2, past?_separators (by simp [isRuleSeparator])]
    refine ⟨.inr ?_, fun rest => by simp [waitingNext, rulesBehind, chars]⟩
    obtain rfl | hw := hw
    · exact htext
    · exact hw.append htext.closes

/-! ### A whole sequence -/

/-- The statements that wait for a block behind a sequence of constructs. -/
def waitingPast (waiting : List Char) (ks : List Construct) : List Char :=
  ks.foldl waitingNext waiting

/-- The rules of a sequence of constructs behind statements that wait for a block. -/
def rulesPast (waiting : List Char) : List Construct → List Rule
  | [] => []
  | k :: ks => k.rulesBehind waiting ++ rulesPast (k.waitingNext waiting) ks

variable {ks : List Construct}

theorem parseRules_run (hks : ∀ k ∈ ks, k.IsWritten) (hw : waiting = [] ∨ IsWaiting waiting) :
    (waitingPast waiting ks = [] ∨ IsWaiting (waitingPast waiting ks)) ∧ ∀ rest,
      parseRules (waiting ++ (ks.flatMap chars ++ rest)) =
        rulesPast waiting ks ++ parseRules (waitingPast waiting ks ++ rest) := by
  induction ks generalizing waiting with
  | nil => exact ⟨hw, fun _ => rfl⟩
  | cons k ks ih =>
    obtain ⟨hnext, hstep⟩ := parseRules_step (hks k List.mem_cons_self) hw
    obtain ⟨hlast, hrun⟩ := ih (fun j hj => hks j (List.mem_cons_of_mem _ hj)) hnext
    refine ⟨hlast, fun rest => ?_⟩
    rw [List.flatMap_cons, List.append_assoc, hstep, hrun, rulesPast, List.append_assoc]
    rfl

/-- A construct ends outside strings. -/
theorem past_chars (hk : k.IsWritten) : Quote.past {} k.chars = {} := by
  cases k with
  | gap c =>
    have hpast : Place.past? '{' {} [c] = some {} :=
      past?_separators (by simpa [IsWritten] using hk)
    exact (Place.past?_quote hpast).symm
  | block head body =>
    have hhead : Quote.past {} head = {} := (Place.past?_quote hk.1.closes).symm
    have hbody : Quote.past {} body = {} := (bracesPast?_quote hk.2).symm
    rw [chars, Quote.past_append, hhead, Quote.past_cons]
    show Quote.past {} (body ++ ['}']) = {}
    rw [Quote.past_append, hbody]
    rfl
  | statement text =>
    rw [chars, Quote.past_append, ← (Place.past?_quote hk.2 : _ = Quote.past {} text)]
    rfl

theorem past_flatMap (hks : ∀ k ∈ ks, k.IsWritten) : Quote.past {} (ks.flatMap chars) = {} := by
  induction ks with
  | nil => rfl
  | cons k ks ih =>
    rw [List.flatMap_cons, Quote.past_append, past_chars (hks k List.mem_cons_self)]
    exact ih fun j hj => hks j (List.mem_cons_of_mem _ hj)

theorem getLast?_chars (hk : k.IsWritten) : ∃ c ∈ k.chars.getLast?, c ≠ '/' := by
  cases k with
  | gap c =>
    refine ⟨c, rfl, ?_⟩
    rintro rfl
    exact absurd hk (by simp [IsWritten, isRuleSeparator, Text.isSpace])
  | block head body =>
    refine ⟨'}', ?_, by decide⟩
    rw [chars, ← List.cons_append, ← List.append_assoc, List.getLast?_concat]
    rfl
  | statement text => exact ⟨';', by simp [chars], by decide⟩

theorem getLast?_flatMap_ne (hks : ∀ k ∈ ks, k.IsWritten) :
    (ks.flatMap chars).getLast? ≠ some '/' := by
  induction ks with
  | nil => simp
  | cons k ks ih =>
    have hks' := fun j hj => hks j (List.mem_cons_of_mem k hj)
    obtain ⟨c, hc, hne⟩ := getLast?_chars (hks k List.mem_cons_self)
    rw [List.flatMap_cons, List.getLast?_append, hc]
    cases h : (ks.flatMap chars).getLast? with
    | none => simpa using hne
    | some d =>
      rw [Option.some_or, ← h]
      exact ih hks'

end Construct

open Construct

/-- The first block of a text is read behind statements as on its own. -/
theorem IsWaiting.parseRules_append_iff (hw : IsWaiting waiting) (rest : List Char) :
    Stylesheet.parseRules (waiting ++ rest) = Stylesheet.parseRules rest ↔
      ∀ head body rest', Stylesheet.nextBlock? rest = some (head, body, rest') →
        takenRules waiting body = Stylesheet.blockRules head body := by
  rw [hw.parseRules, parseRules_eq rest]
  cases Stylesheet.nextBlock? rest with
  | none => simp
  | some x =>
    obtain ⟨head, body, rest'⟩ := x
    simp

/-- **Behind a sequence of constructs a text is read as it is on its own**, unless statements end
the sequence: then its first block is taken for theirs, and the two readings agree just if that
block stands for the rules that it has as theirs. Within the sequence it is the same for each
block. -/
theorem parse_append_iff {front : String} {ks : List Construct}
    (hu : Uncommented {} front.toList (ks.flatMap chars)) (hks : ∀ k ∈ ks, k.IsWritten)
    (back : String) :
    (Sheet.parse front).rules = rulesPast [] ks ∧
    ((Sheet.parse (front ++ back)).rules = (Sheet.parse front).rules ++ (Sheet.parse back).rules ↔
      waitingPast [] ks = [] ∨
        ∀ head body rest, nextBlock? (stripComments {} back.toList) = some (head, body, rest) →
          takenRules (waitingPast [] ks) body = blockRules head body) := by
  obtain ⟨hw, hrun⟩ := parseRules_run hks (.inl rfl)
  have hboth : (Sheet.parse (front ++ back)).rules =
      rulesPast [] ks ++ parseRules (waitingPast [] ks ++ stripComments {} back.toList) := by
    rw [Sheet.parse, String.toList_append, hu.stripComments_append (.inl (getLast?_flatMap_ne hks)),
      past_flatMap hks]
    exact hrun _
  have hfront : (Sheet.parse front).rules = rulesPast [] ks := by
    have hnone : parseRules (waitingPast [] ks ++ []) = [] := by
      obtain hw | hw := hw
      · rw [hw, List.nil_append, parseRules_eq]
        rfl
      · rw [hw.parseRules]
        rfl
    have h := hrun []
    rw [List.nil_append, List.append_nil, hnone, List.append_nil] at h
    rw [Sheet.parse, hu.stripComments_eq, h]
  refine ⟨hfront, ?_⟩
  rw [hboth, hfront, Sheet.parse, List.append_cancel_left_eq]
  obtain hw | hw := hw
  · simp [hw]
  · rw [hw.parseRules_append_iff, or_iff_right hw.ne_nil]

/-- A statement, a rule, a comment, and a group. -/
theorem parse_append_iff_media :
    let front := "@import 'x;'; i \x7ba: b\x7d /* \x7b */@media \x7bp \x7bc: d\x7d\x7d "
    let ks := [statement "@import 'x;'".toList, gap ' ', block "i ".toList "a: b".toList, gap ' ',
      block "@media ".toList "p \x7bc: d\x7d".toList, gap ' ']
    let back := "@layer base \x7b em \x7b e: f \x7d \x7d"
    Uncommented {} front.toList (ks.flatMap chars) ∧ (∀ k ∈ ks, k.IsWritten) ∧
      (Sheet.parse front).rules = rulesPast [] ks ∧ (rulesPast [] ks).length = 1 ∧
      (Sheet.parse (front ++ back)).rules = (Sheet.parse front).rules ++ (Sheet.parse back).rules ∧
      (Sheet.parse back).rules = [⟨{ subject := { tag := some "em" } }, [⟨"e", "f"⟩]⟩] := by
  intro front ks back
  have hu : Uncommented {} front.toList (ks.flatMap chars) := by
    let before := "@import 'x;'; i \x7ba: b\x7d ".toList
    let behind := "@media \x7bp \x7bc: d\x7d\x7d ".toList
    have hbefore : Uncommented {} before before := uncommented_self (by decide +kernel)
    have hcomment : IsComment "/* \x7b */".toList := ⟨" \x7b ".toList, rfl, by decide⟩
    have hbehind : Uncommented {} behind behind := uncommented_self (by decide +kernel)
    have h := hbefore.append (.inl (by decide)) (.comment (by decide +kernel) hcomment hbehind)
    have hkept : ks.flatMap chars = before ++ behind := by decide +kernel
    have hfront : front.toList = before ++ ("/* \x7b */".toList ++ behind) := by decide +kernel
    rwa [hkept, hfront]
  have hks : ∀ k ∈ ks, k.IsWritten := by
    simp only [ks, List.forall_mem_cons]
    have hhead : IsHead "i ".toList := ⟨by rintro c ⟨⟩; decide, by decide⟩
    have hgroup : IsHead "@media ".toList := ⟨by rintro c ⟨⟩; decide, by decide⟩
    exact ⟨⟨rfl, by decide⟩, rfl, ⟨hhead, rfl⟩, rfl, ⟨hgroup, rfl⟩, rfl, by simp⟩
  obtain ⟨hrules, hiff⟩ := parse_append_iff hu hks back
  exact ⟨hu, hks, hrules, by decide +kernel, hiff.mpr (.inl rfl), by decide +kernel⟩

/-- The rule behind an import is lost. -/
theorem import_takes_rule :
    let front := "@import \"x\"; "
    let ks := [statement "@import \"x\"".toList, gap ' ']
    let back := "p \x7b color: red \x7d"
    Uncommented {} front.toList (ks.flatMap chars) ∧ (∀ k ∈ ks, k.IsWritten) ∧
      (Sheet.parse (front ++ back)).rules = [] ∧
      (Sheet.parse back).rules = [⟨{ subject := { tag := some "p" } }, [⟨"color", "red"⟩]⟩] := by
  intro front ks back
  have hfront : front.toList = ks.flatMap chars := by decide +kernel
  have hu : Uncommented {} front.toList (ks.flatMap chars) := by
    rw [hfront]
    exact uncommented_self (by decide +kernel)
  have hks : ∀ k ∈ ks, k.IsWritten := by
    simp only [ks, List.forall_mem_cons]
    exact ⟨⟨rfl, by decide⟩, rfl, by simp⟩
  exact ⟨hu, hks, by decide +kernel, by decide +kernel⟩

-- behind a layer list the steps of an animation are read as rules
example : (Sheet.parse "@keyframes k \x7b to \x7b c: d \x7d \x7d").rules = [] ∧
    (Sheet.parse "@layer a, b; @keyframes k \x7b to \x7b c: d \x7d \x7d").rules.length = 1 := by
  decide +kernel

end Stylesheet
end Restyle
