import Restyle.Source.Patch
import Restyle.Source.StyleLiteral

/-!
# Restyle.Proofs.Source.Nested

The occurrence at which a tag is looked for counts text, not structure: a tag is found exactly when
as many openings of its name stand before it (`findSite?_eq_some_iff`), wherever they stand.

Text whose brackets match, each by its own kind, and whose strings and templates are closed.

The readers of the patcher do not match brackets: one counts braces, one counts all brackets alike,
and one counts braces inside a tag. On nested text they all come out where they went in
(`cutBraced_nested`, `splitPieces_nested`, `cutTagEnd_nested`).
-/

namespace Restyle
namespace Source

variable {name : List Char} {c : Char} {cs before after rest : List Char} {k : Nat} {s : TagSite}

/-! ## Counting -/

/-- The number of places in a text, followed by another, where a tag of the name opens. -/
def openings (name : List Char) : List Char → List Char → Nat
  | [], _ => 0
  | c :: cs, after =>
    (if (opens? name c (cs ++ after)).isSome then 1 else 0) + openings name cs after

/-- The sum of what is counted for the members of a list. -/
def total {α : Type} (count : α → Nat) : List α → Nat
  | [] => 0
  | a :: as => count a + total count as

theorem total_append {α : Type} (count : α → Nat) (as bs : List α) :
    total count (as ++ bs) = total count as + total count bs := by
  induction as with
  | nil => simp [total]
  | cons a as ih =>
    simp only [List.cons_append, total, ih]
    omega

theorem openings_append (a b : List Char) :
    openings name (a ++ b) after = openings name a (b ++ after) + openings name b after := by
  induction a with
  | nil => simp [openings]
  | cons c a ih =>
    simp only [List.cons_append, openings, ih, List.append_assoc]
    omega

theorem opens?_of_ne (h : c ≠ '<') : opens? name c cs = none := by
  unfold opens?
  rw [if_neg (by simpa using h)]

/-- No tag opens in a text without `<`. -/
theorem openings_of_not_mem (h : '<' ∉ cs) : openings name cs after = 0 := by
  induction cs with
  | nil => rfl
  | cons c cs ih =>
    have hc : c ≠ '<' := fun hc => h (hc ▸ List.mem_cons_self ..)
    have hcs : '<' ∉ cs := fun hcs => h (List.mem_cons_of_mem _ hcs)
    simp [openings, opens?_of_ne hc, ih hcs]

/-! ## Looking for a tag -/

theorem after?_eq_some_iff {ps cs rest : List Char} :
    Text.after? ps cs = some rest ↔ cs = ps ++ rest := by
  induction ps generalizing cs with
  | nil => simp [Text.after?, eq_comm]
  | cons p ps ih =>
    cases cs with
    | nil => simp [Text.after?]
    | cons c cs =>
      unfold Text.after?
      by_cases hp : p = c
      · simp [hp, ih]
      · simp [hp, Ne.symm hp]

theorem opens?_eq_some_iff : opens? name c cs = some rest ↔
    c = '<' ∧ cs = name ++ rest ∧ ∃ d tail, rest = d :: tail ∧ endsName d = true := by
  unfold opens?
  by_cases hc : c = '<'
  · rw [if_pos (by simpa using hc)]
    constructor
    · intro h
      split at h
      · rename_i d tail hafter
        split at h
        · rename_i hends
          cases h
          exact ⟨hc, after?_eq_some_iff.mp hafter, d, tail, rfl, hends⟩
        · cases h
      · cases h
    · rintro ⟨-, rfl, d, tail, rfl, hends⟩
      rw [after?_eq_some_iff.mpr rfl]
      simp [hends]
  · rw [if_neg (by simpa using hc)]
    constructor
    · intro h; cases h
    · intro h; exact absurd h.1 hc

/-- The site with more text before it. -/
def TagSite.behind (before : List Char) (s : TagSite) : TagSite :=
  { s with before := before ++ s.before }

theorem findSite?_zero (h : opens? name c cs = some rest) :
    findSite? name 0 (c :: cs) = siteOf? name rest := by
  simp only [findSite?, h]

/-- One character is passed over, as an occurrence if a tag opens there. -/
theorem findSite?_cons (c : Char) (cs : List Char) (k : Nat) :
    findSite? name ((if (opens? name c cs).isSome then 1 else 0) + k) (c :: cs) =
      (findSite? name k cs).map (.behind [c]) := by
  cases h : opens? name c cs with
  | none =>
    simp only [Option.isSome_none, Bool.false_eq_true, if_false, Nat.zero_add, findSite?, h]
    rfl
  | some rest =>
    simp only [Option.isSome_some, if_true, Nat.add_comm 1 k, findSite?, h]
    rfl

/-- Text before a tag is passed over, one occurrence for each opening in it. -/
theorem findSite?_append (before : List Char) (k : Nat) :
    findSite? name (openings name before after + k) (before ++ after) =
      (findSite? name k after).map (.behind before) := by
  induction before with
  | nil =>
    rw [openings, Nat.zero_add, List.nil_append]
    cases findSite? name k after <;> rfl
  | cons c before ih =>
    rw [List.cons_append, openings, Nat.add_assoc, findSite?_cons, ih, Option.map_map]
    rfl

/-! ## The tag that is found -/

/-- A text is cut, not changed. -/
theorem eq_of_cutTagEnd {n : Nesting} {inside : List Char}
    (h : cutTagEnd n cs = some (inside, after)) : cs = inside ++ '>' :: after := by
  induction cs generalizing n inside with
  | nil => cases h
  | cons c cs ih =>
    unfold cutTagEnd at h
    split at h
    · rename_i hend
      simp only [Bool.and_eq_true, beq_iff_eq] at hend
      cases h
      rw [hend.2]
      rfl
    · obtain ⟨⟨inside', after'⟩, hcut, heq⟩ := Option.map_eq_some_iff.mp h
      cases heq
      rw [ih hcut]
      rfl

theorem exists_trimEndBy (p : Char → Bool) (cs : List Char) :
    ∃ trail, (∀ c ∈ trail, p c = true) ∧ cs = Text.trimEndBy p cs ++ trail := by
  refine ⟨(cs.reverse.takeWhile p).reverse, fun c hc => ?_, ?_⟩
  · exact List.all_eq_true.mp List.all_takeWhile c (List.mem_reverse.mp hc)
  unfold Text.trimEndBy
  rw [← List.reverse_append, List.takeWhile_append_dropWhile, List.reverse_reverse]

/-- Text that ends with a slash before white space. -/
theorem exists_slash {inside : List Char}
    (h : ((Text.trimEndBy Text.isSpace inside).getLast? == some '/') = true) :
    ∃ init spaces, (∀ c ∈ spaces, Text.isSpace c = true) ∧
      Text.trimEndBy Text.isSpace inside = init ++ ['/'] ∧ inside = init ++ '/' :: spaces := by
  obtain ⟨spaces, hspaces, hinside⟩ := exists_trimEndBy Text.isSpace inside
  generalize Text.trimEndBy Text.isSpace inside = kept at h hinside
  have hne : kept ≠ [] := by rintro rfl; cases h
  rw [beq_iff_eq, List.getLast?_eq_some_getLast hne, Option.some.injEq] at h
  obtain ⟨init, rfl⟩ : ∃ init, kept = init ++ ['/'] :=
    ⟨kept.dropLast, by rw [← h, List.dropLast_concat_getLast hne]⟩
  exact ⟨init, spaces, hspaces, rfl, by rw [hinside, List.append_assoc]; rfl⟩

/-- A site found behind a name begins with it, and its pieces are the text. -/
theorem siteOf?_spec (h : siteOf? name rest = some s) :
    s.before = [] ∧ s.name = name ∧ rest = s.attributes ++ (s.closing ++ s.after) := by
  obtain ⟨⟨inside, after⟩, hcut, heq⟩ := Option.map_eq_some_iff.mp h
  have hrest := eq_of_cutTagEnd hcut
  dsimp only at heq
  split at heq
  · rename_i hslash
    subst heq
    refine ⟨rfl, rfl, ?_⟩
    obtain ⟨init, spaces, -, hkept, hinside⟩ := exists_slash hslash
    rw [hrest, hkept, hinside]
    simp
  · subst heq
    exact ⟨rfl, rfl, by simpa using hrest⟩

/-- A found tag is cut where it opens, with as many openings of its name before as asked for. -/
theorem exists_siteOf?_of_findSite? (h : findSite? name k cs = some s) :
    ∃ before rest own, cs = before ++ '<' :: (name ++ rest) ∧
      opens? name '<' (name ++ rest) = some rest ∧ siteOf? name rest = some own ∧
      s = own.behind before ∧ openings name before ('<' :: (name ++ rest)) = k := by
  induction cs generalizing k s with
  | nil => cases h
  | cons c cs ih =>
    by_cases hfound : (opens? name c cs).isSome = true ∧ k = 0
    · obtain ⟨hopen, rfl⟩ := hfound
      obtain ⟨rest, hopen⟩ := Option.isSome_iff_exists.mp hopen
      rw [findSite?_zero hopen] at h
      obtain ⟨rfl, rfl, -⟩ := opens?_eq_some_iff.mp hopen
      exact ⟨[], rest, s, rfl, hopen, h, rfl, rfl⟩
    · -- the character is passed over
      obtain ⟨n, rfl⟩ : ∃ n, k = (if (opens? name c cs).isSome then 1 else 0) + n := by
        split
        · rename_i hopen
          have hk : k ≠ 0 := fun hk => hfound ⟨hopen, hk⟩
          exact ⟨k - 1, by omega⟩
        · exact ⟨k, by omega⟩
      rw [findSite?_cons] at h
      obtain ⟨s', hs', rfl⟩ := Option.map_eq_some_iff.mp h
      obtain ⟨before, rest, own, hcs, hopen, hown, rfl, hcount⟩ := ih hs'
      refine ⟨c :: before, rest, own, congrArg (c :: ·) hcs, hopen, hown, rfl, ?_⟩
      rw [openings, ← hcs, hcount]

/-- **What is found** is a tag of the name, with as many openings of it before as asked for. -/
theorem findSite?_spec (h : findSite? name k cs = some s) :
    s.name = name ∧ s.source = cs ∧
      ∃ rest, cs = s.before ++ rest ∧ openings name s.before rest = k := by
  obtain ⟨before, rest, own, hcs, -, hown, rfl, hcount⟩ := exists_siteOf?_of_findSite? h
  obtain ⟨hbefore, hname, hrest⟩ := siteOf?_spec hown
  have hown : (own.behind before).before = before := by simp [TagSite.behind, hbefore]
  refine ⟨hname, ?_, _, by rw [hown]; exact hcs, by rw [hown]; exact hcount⟩
  rw [hcs, hrest, TagSite.source, TagSite.withAttributes, hown]
  simp [TagSite.behind, hname]

/-- A tag is found exactly at the occurrence that counts the openings before it. -/
theorem findSite?_eq_some_iff {own : TagSite} (hown : findSite? name 0 after = some own)
    (hbefore : own.before = []) :
    findSite? name k (before ++ after) = some (own.behind before) ↔
      openings name before after = k := by
  constructor
  · intro h
    obtain ⟨-, -, rest, hcs, hcount⟩ := findSite?_spec h
    have hb : (own.behind before).before = before := by simp [TagSite.behind, hbefore]
    rw [hb] at hcs hcount
    rwa [List.append_cancel_left hcs]
  · rintro rfl
    have h : findSite? name (openings name before after + 0) (before ++ after) = _ :=
      findSite?_append before 0
    rwa [Nat.add_zero, hown] at h

end Source

/-! ## Matching brackets -/

namespace Source

/-- Where a reader stands that matches brackets: the mark of the string it is in, with a backslash
before the next character or not, and the brackets that have to be closed, innermost first. -/
structure Matching where
  string : Option (Char × Bool) := none
  awaited : List Char := []
  deriving Repr, BEq, DecidableEq

/-- The bracket that closes one. -/
def closingOf? (c : Char) : Option Char :=
  if c == '(' then some ')' else if c == '[' then some ']' else if c == '{' then some '}' else none

namespace Matching

/-- Outside strings and brackets. -/
def isTop (m : Matching) : Bool := m.string.isNone && m.awaited.isEmpty

theorem eq_of_isTop {m : Matching} (h : m.isTop = true) : m = {} := by
  obtain ⟨string, awaited⟩ := m
  simp only [isTop, Bool.and_eq_true, Option.isNone_iff_eq_none, List.isEmpty_iff] at h
  obtain ⟨rfl, rfl⟩ := h
  rfl

/-- One more character; nothing, if it closes a bracket that is not open. -/
def step (m : Matching) (c : Char) : Option Matching :=
  match m.string with
  | some (mark, true) => some { m with string := some (mark, false) }
  | some (mark, false) =>
    if c == '\\' then some { m with string := some (mark, true) }
    else if c == mark then some { m with string := none }
    else some m
  | none =>
    if Nesting.isQuote c then some { m with string := some (c, false) }
    else
      match closingOf? c with
      | some d => some { m with awaited := d :: m.awaited }
      | none =>
        if c == ')' || c == ']' || c == '}' then
          match m.awaited with
          | d :: rest => if d == c then some { m with awaited := rest } else none
          | [] => none
        else some m

/-- Reads a text that has none of some characters outside strings and brackets. -/
def read (stop : Char → Bool) : Matching → List Char → Option Matching
  | m, [] => some m
  | m, c :: cs => if m.isTop && stop c then none else (m.step c).bind fun m' => read stop m' cs

end Matching

/-- The brackets of the text match and its strings are closed. Outside both it has none of some
characters. -/
def Nested (stop : Char → Bool) (cs : List Char) : Prop := Matching.read stop {} cs = some {}

instance (stop : Char → Bool) (cs : List Char) : Decidable (Nested stop cs) :=
  inferInstanceAs (Decidable (_ = _))

/-- A brace group. -/
def inBraces (cs : List Char) : List Char := '{' :: (cs ++ ['}'])

/-- No characters are left out. -/
def anywhere (_ : Char) : Bool := false

variable {stop stop' : Char → Bool} {m m' : Matching} {c mark : Char} {cs ds tail : List Char} {d : Nat}

namespace Matching

/-- A bracket that closes is the one awaited. -/
theorem awaited_of_step (hq : m.string = none) (hc : (c == ')' || c == ']' || c == '}') = true)
    (h : m.step c = some m') : m.awaited = c :: m'.awaited := by
  have hclass : Nesting.isQuote c = false ∧ closingOf? c = none := by
    simp only [Bool.or_eq_true, beq_iff_eq] at hc
    rcases hc with (rfl | rfl) | rfl <;> decide
  unfold step at h
  rw [hq, hclass.1, hclass.2] at h
  simp only [Bool.false_eq_true, if_false, hc, if_true] at h
  split at h
  · rename_i rest hrest
    split at h
    · rename_i hsame
      cases h
      rw [hrest, eq_of_beq hsame]
    · cases h
  · cases h

theorem read_append (cs ds : List Char) :
    read stop m (cs ++ ds) = (read stop m cs).bind fun m' => read stop m' ds := by
  induction cs generalizing m with
  | nil => rfl
  | cons c cs ih =>
    simp only [List.cons_append, read]
    split
    · rfl
    · cases m.step c with
      | none => rfl
      | some m' => exact ih

theorem read_cons_eq_some_iff :
    read stop m (c :: cs) = some m' ↔
      (m.isTop && stop c) = false ∧ ∃ m₁, m.step c = some m₁ ∧ read stop m₁ cs = some m' := by
  rw [read]
  cases hstop : m.isTop && stop c with
  | true => simp
  | false => simp [Option.bind_eq_some_iff]

/-- A text may have characters that it does not have. -/
theorem read_mono (hstop : ∀ c, stop' c = true → stop c = true) (h : read stop m cs = some m') :
    read stop' m cs = some m' := by
  induction cs generalizing m with
  | nil => exact h
  | cons c cs ih =>
    obtain ⟨hgo, m₁, hstep, hread⟩ := read_cons_eq_some_iff.mp h
    refine read_cons_eq_some_iff.mpr ⟨?_, m₁, hstep, ih hread⟩
    rw [Bool.and_eq_false_iff] at hgo ⊢
    exact hgo.imp_right fun hc => by
      rw [Bool.eq_false_iff] at hc ⊢
      exact fun h => hc (hstop c h)

/-- The marks of strings and the brackets. -/
def marks : List Char := ['"', '\'', '\x60', '(', '[', '{', ')', ']', '}']

/-- Characters that are no mark of a string and no bracket. -/
def isInert (c : Char) : Bool := !marks.contains c

theorem step_inert (hq : m.string = none) (hc : isInert c = true) : m.step c = some m := by
  simp only [isInert, marks, List.contains_cons, Bool.not_eq_true', Bool.or_eq_false_iff] at hc
  simp [step, Nesting.isQuote, closingOf?, hq, hc]

theorem isInert_of_isQuote (h : Nesting.isQuote c = true) : isInert c = false := by
  simp only [Nesting.isQuote, Bool.or_eq_true, beq_iff_eq] at h
  rcases h with (rfl | rfl) | rfl <;> rfl

/-- The marks of strings are those that open them. -/
theorem isQuote_of_read (hm : ∀ q, m.string = some q → Nesting.isQuote q.1 = true)
    (h : read stop m cs = some m') : ∀ q, m'.string = some q → Nesting.isQuote q.1 = true := by
  induction cs generalizing m with
  | nil => cases h; exact hm
  | cons c cs ih =>
    obtain ⟨-, m₁, hstep, hread⟩ := read_cons_eq_some_iff.mp h
    refine ih ?_ hread
    unfold step at hstep
    grind

/-- A step with more brackets around. -/
theorem step_within (h : m.step c = some m') :
    ({ m with awaited := m.awaited ++ ds } : Matching).step c =
      some { m' with awaited := m'.awaited ++ ds } := by
  obtain ⟨string, awaited⟩ := m
  unfold step at h ⊢
  match string with
  | some (mark, true) => cases h; rfl
  | some (mark, false) => grind
  | none =>
    simp only at h ⊢
    cases hc : closingOf? c with
    | some d => simp only [hc] at h ⊢; grind
    | none => cases awaited <;> simp only [hc, List.cons_append] at h ⊢ <;> grind

/-! ## The readers of the patcher beside it -/

/-- The reader that counts braces, with `d` more of them around. -/
def braces (d : Nat) (m : Matching) : Nesting :=
  { quote := m.string.map (·.1), escaped := (m.string.map (·.2)).getD false
    depth := d + m.awaited.count '}' }

/-- The reader that counts brackets. -/
def brackets (m : Matching) : Nesting :=
  { quote := m.string.map (·.1), escaped := (m.string.map (·.2)).getD false
    depth := m.awaited.length }

theorem isTop_brackets : m.brackets.isTop = m.isTop := by
  unfold Nesting.isTop isTop brackets
  cases m.awaited <;> simp

theorem brace_of_step (h : m.step c = some m') : (m.braces d).brace c = m'.braces d := by
  unfold step at h
  unfold braces Nesting.brace Nesting.inString
  unfold closingOf? at h
  grind [Nesting.isQuote]

theorem bracket_of_step (h : m.step c = some m') : m.brackets.bracket c = m'.brackets := by
  unfold step at h
  unfold brackets Nesting.bracket Nesting.inString
  unfold closingOf? at h
  grind [Nesting.isQuote]

end Matching

/-- Inside braces the reader of a tag counts as the reader of braces does. -/
theorem Nesting.tag_eq_brace {n : Nesting} (h : 0 < n.depth) (c : Char) : n.tag c = n.brace c := by
  unfold Nesting.tag Nesting.brace
  cases n.quote with
  | some mark => simp [h]
  | none => grind [Nesting.isQuote]

/-! ## Nested text -/

namespace Nested

theorem nil : Nested stop [] := rfl

theorem append (h : Nested stop cs) (h' : Nested stop ds) : Nested stop (cs ++ ds) := by
  unfold Nested at *
  rw [Matching.read_append, h]
  exact h'

theorem mono (h : Nested stop cs) (hstop : ∀ c, stop' c = true → stop c = true) :
    Nested stop' cs := Matching.read_mono hstop h

theorem anywhere (h : Nested stop cs) : Nested anywhere cs :=
  h.mono fun _ hc => by cases hc

theorem single (hc : Matching.isInert c = true) (hstop : stop c = false) : Nested stop [c] :=
  Matching.read_cons_eq_some_iff.mpr ⟨by simp [hstop], _, Matching.step_inert rfl hc, rfl⟩

theorem of_forall (h : ∀ c ∈ cs, Matching.isInert c = true ∧ stop c = false) : Nested stop cs := by
  induction cs with
  | nil => exact nil
  | cons c cs ih =>
    obtain ⟨hc, hcs⟩ := List.forall_mem_cons.mp h
    exact append (single hc.1 hc.2) (ih hcs)

/-- More brackets around: then nothing is at top. -/
theorem read_within (hds : ds ≠ []) (h : Matching.read stop m cs = some m') :
    Matching.read stop' { m with awaited := m.awaited ++ ds } cs =
      some { m' with awaited := m'.awaited ++ ds } := by
  induction cs generalizing m with
  | nil => cases h; rfl
  | cons c cs ih =>
    obtain ⟨-, m₁, hstep, hread⟩ := Matching.read_cons_eq_some_iff.mp h
    refine Matching.read_cons_eq_some_iff.mpr ⟨?_, _, ?_, ih hread⟩
    · simp [Matching.isTop, hds]
    · exact Matching.step_within hstep

/-- A brace group is nested. -/
theorem braced (h : Nested stop cs) (hstop : stop' '{' = false) :
    Nested stop' (inBraces cs) := by
  have hinside : Matching.read stop' { awaited := ['}'] } cs = some { awaited := ['}'] } :=
    read_within (by simp) h
  refine Matching.read_cons_eq_some_iff.mpr ⟨by simp [hstop], { awaited := ['}'] }, rfl, ?_⟩
  rw [Matching.read_append, hinside]
  rfl

/-- An inert character before a nested text. -/
theorem of_cons (hc : Matching.isInert c = true) (h : Nested stop (c :: cs)) : Nested stop cs := by
  obtain ⟨-, m₁, hstep, hread⟩ := Matching.read_cons_eq_some_iff.mp h
  rw [Matching.step_inert rfl hc] at hstep
  cases hstep
  exact hread

/-- An inert character after a nested text. -/
theorem of_concat (hc : Matching.isInert c = true) (h : Nested stop (cs ++ [c])) :
    Nested stop cs := by
  unfold Nested at h ⊢
  rw [Matching.read_append, Option.bind_eq_some_iff] at h
  obtain ⟨m, hm, hlast⟩ := h
  obtain ⟨-, m₁, hstep, hread⟩ := Matching.read_cons_eq_some_iff.mp hlast
  cases hread
  -- a string does not end at an inert character
  cases hq : m.string with
  | none =>
    rw [Matching.step_inert hq hc] at hstep
    rw [hm, hstep]
  | some string =>
    obtain ⟨mark, escaped⟩ := string
    have hmark := Matching.isQuote_of_read (by simp) hm _ hq
    have hne : c ≠ mark := by
      rintro rfl
      rw [Matching.isInert_of_isQuote hmark] at hc
      cases hc
    unfold Matching.step at hstep
    grind

end Nested

/-! ## What the readers do on nested text -/

/-- A text put before what was cut off. -/
def before (cs : List Char) (p : List Char × List Char) : List Char × List Char := (cs ++ p.1, p.2)

open Matching in
theorem cutBraced_read (hd : 0 < d) (h : read stop m cs = some m') (tail : List Char) :
    cutBraced (m.braces d) (cs ++ tail) = before cs (cutBraced (m'.braces d) tail) := by
  induction cs generalizing m with
  | nil => cases h; rfl
  | cons c cs ih =>
    obtain ⟨-, m₁, hstep, hread⟩ := read_cons_eq_some_iff.mp h
    have hgo : ((m.braces d).quote.isNone && c == '}' && decide ((m.braces d).depth ≤ 1)) = false := by
      -- a brace that closes here is awaited, so at least two are open
      rw [Bool.and_eq_false_iff, Bool.and_eq_false_iff]
      cases hq : m.string with
      | some mark => simp [braces, hq]
      | none =>
        by_cases hc : c = '}'
        · have hopen := awaited_of_step hq (by simp [hc]) hstep
          right
          simp only [braces, hopen, hc, List.count_cons_self, decide_eq_false_iff_not]
          omega
        · simp [hc]
    rw [List.cons_append, cutBraced, if_neg (by simp [hgo]), brace_of_step hstep, ih hread]
    rfl

/-- A brace group is cut at its end. -/
theorem cutBraced_nested (h : Nested stop cs) (tail : List Char) :
    cutBraced {} (inBraces cs ++ tail) = (inBraces cs, tail) := by
  have hinside := cutBraced_read (d := 1) (by decide) h ('}' :: tail)
  have hstart : Nesting.brace {} '{' = Matching.braces 1 {} := rfl
  rw [inBraces, List.cons_append, List.append_assoc, List.singleton_append, cutBraced,
    if_neg (by decide), hstart, hinside]
  rfl

open Matching in
theorem cutTagEnd_read (hd : 0 < d) (h : read stop m cs = some m') (tail : List Char) :
    cutTagEnd (m.braces d) (cs ++ tail) = (cutTagEnd (m'.braces d) tail).map (before cs) := by
  induction cs generalizing m with
  | nil => cases h; cases h : cutTagEnd (m'.braces d) tail <;> simp [before, h]
  | cons c cs ih =>
    obtain ⟨-, m₁, hstep, hread⟩ := read_cons_eq_some_iff.mp h
    have hdepth : 0 < (m.braces d).depth := Nat.lt_of_lt_of_le hd (Nat.le_add_right ..)
    have hgo : ((m.braces d).isTop && c == '>') = false := by
      rw [Nesting.isTop, beq_eq_false_iff_ne.mpr (Nat.pos_iff_ne_zero.mp hdepth)]
      simp
    rw [List.cons_append, cutTagEnd, hgo, if_neg (by decide), Nesting.tag_eq_brace hdepth,
      brace_of_step hstep, ih hread, Option.map_map]
    rfl

/-- The end of a tag is not in a brace group. -/
theorem cutTagEnd_nested (h : Nested stop cs) (tail : List Char) :
    cutTagEnd {} (inBraces cs ++ tail) = (cutTagEnd {} tail).map (before (inBraces cs)) := by
  have hinside := cutTagEnd_read (d := 1) (by decide) h ('}' :: tail)
  have hstart : Nesting.tag {} '{' = Matching.braces 1 {} := rfl
  have hlast : cutTagEnd (Matching.braces 1 {}) ('}' :: tail) =
      (cutTagEnd {} tail).map (before ['}']) := rfl
  rw [inBraces, List.cons_append, List.append_assoc, List.singleton_append, cutTagEnd,
    if_neg (by decide), hstart, hinside, hlast, Option.map_map, Option.map_map]
  congr 1
  funext p
  simp [before]

/-! ## Splitting -/

/-- A text put before the first of some pieces. -/
def beforeFirst (cs : List Char) : List (List Char) → List (List Char)
  | [] => [cs]
  | piece :: pieces => (cs ++ piece) :: pieces

theorem splitPieces_ne_nil (mark : Char) (n : Nesting) (cs : List Char) :
    splitPieces mark n cs ≠ [] := by
  cases cs with
  | nil => simp [splitPieces]
  | cons c cs => grind [splitPieces]

theorem splitPieces_cons_of_not {n : Nesting} (h : (n.isTop && c == mark) = false) :
    splitPieces mark n (c :: cs) = beforeFirst [c] (splitPieces mark (n.bracket c) cs) := by
  rw [splitPieces, h, if_neg (by decide)]
  cases splitPieces mark (n.bracket c) cs <;> rfl

open Matching in
/-- Text without the mark at top goes into the first piece. -/
theorem splitPieces_read (hmark : stop mark = true) (h : read stop m cs = some m') :
    splitPieces mark m.brackets (cs ++ tail) =
      beforeFirst cs (splitPieces mark m'.brackets tail) := by
  induction cs generalizing m with
  | nil =>
    cases h
    cases hsplit : splitPieces mark m'.brackets tail with
    | nil => exact (splitPieces_ne_nil _ _ _ hsplit).elim
    | cons piece pieces => simp [beforeFirst, hsplit]
  | cons c cs ih =>
    obtain ⟨hstop, m₁, hstep, hread⟩ := read_cons_eq_some_iff.mp h
    have hgo : (m.brackets.isTop && c == mark) = false := by
      rw [isTop_brackets]
      cases htop : m.isTop with
      | false => rfl
      | true =>
        rw [htop, Bool.true_and] at hstop
        rw [Bool.true_and, beq_eq_false_iff_ne]
        rintro rfl
        rw [hmark] at hstop
        cases hstop
    rw [List.cons_append, splitPieces_cons_of_not hgo, bracket_of_step hstep, ih hread]
    cases splitPieces mark m'.brackets tail <;> rfl

theorem splitPieces_nested (mark : Char) (hmark : stop mark = true) (h : Nested stop cs)
    (tail : List Char) :
    splitPieces mark {} (cs ++ tail) = beforeFirst cs (splitPieces mark {} tail) :=
  splitPieces_read hmark h

/-- The pieces of a nested text are nested and have no mark at top. -/
theorem nested_of_mem_splitPieces (mark : Char) (hmark : Matching.isInert mark = true)
    (h : Nested anywhere cs) :
    ∀ piece ∈ splitPieces mark {} cs, Nested (· == mark) piece := by
  suffices hpieces : ∀ m, Matching.read anywhere m cs = some {} → ∃ piece pieces,
      splitPieces mark m.brackets cs = piece :: pieces ∧
      Matching.read (· == mark) m piece = some {} ∧ ∀ p ∈ pieces, Nested (· == mark) p by
    obtain ⟨piece, pieces, hsplit, hpiece, hothers⟩ := hpieces {} h
    intro p hp
    rw [show ({} : Nesting) = Matching.brackets {} from rfl, hsplit] at hp
    rcases List.mem_cons.mp hp with rfl | hp
    · exact hpiece
    · exact hothers p hp
  clear h
  induction cs with
  | nil =>
    intro m h
    cases h
    exact ⟨[], [], rfl, rfl, by simp⟩
  | cons c cs ih =>
    intro m h
    obtain ⟨-, m₁, hstep, hread⟩ := Matching.read_cons_eq_some_iff.mp h
    obtain ⟨piece, pieces, hsplit, hpiece, hothers⟩ := ih m₁ hread
    cases hcut : m.isTop && c == mark with
    | true =>
      obtain ⟨htop, hc⟩ := Bool.and_eq_true_iff.mp hcut
      obtain rfl := Matching.eq_of_isTop htop
      rw [eq_of_beq hc, Matching.step_inert rfl hmark] at hstep
      cases hstep
      refine ⟨[], piece :: pieces, ?_, rfl, List.forall_mem_cons.mpr ⟨hpiece, hothers⟩⟩
      rw [splitPieces, if_pos (by rw [Matching.isTop_brackets]; exact hcut)]
      exact congrArg _ hsplit
    | false =>
      refine ⟨c :: piece, pieces, ?_, ?_, hothers⟩
      · rw [splitPieces_cons_of_not (by rwa [Matching.isTop_brackets]),
          Matching.bracket_of_step hstep, hsplit]
        rfl
      · exact Matching.read_cons_eq_some_iff.mpr ⟨hcut, m₁, hstep, hpiece⟩

end Source
end Restyle
