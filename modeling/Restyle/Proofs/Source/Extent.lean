import Restyle.Source.Lowering

/-!
# Restyle.Proofs.Source.Extent

Looking ahead goes forward: every search in source text finds a position at or after its start, and
the cursor copies or skips a construct from its place on.
-/

namespace Restyle
namespace Source

variable {cs : Chars} {i j k start close fuel : Nat} {p : Char → Bool} {c : Char}

/-! ## Classes of characters -/

theorem ne_of_class {p : Char → Bool} {a c : Char} (ha : p a = false) (hc : p c = true) :
    c ≠ a := by
  rintro rfl
  rw [hc] at ha
  cases ha

theorem beq_eq_false_of_class {p : Char → Bool} {a c : Char} (ha : p a = false)
    (hc : p c = true) : (c == a) = false :=
  beq_eq_false_iff_ne.mpr (ne_of_class ha hc)

theorem not_mem_of_class {p : Char → Bool} {l : List Char} (hl : l.all (!p ·) = true)
    (hc : p c = true) : c ∉ l := by
  intro hmem
  have := List.all_eq_true.mp hl c hmem
  rw [hc] at this
  cases this

theorem isSpace_of_class {p : Char → Bool}
    (hp : [' ', '\t', '\n', '\x0c', '\r'].all (!p ·) = true) (hc : p c = true) :
    Text.isSpace c = false := by
  have hnot := not_mem_of_class hp hc
  simpa [Text.isSpace, and_assoc] using hnot

theorem isNamePart_of_isNameStart (h : isNameStart c = true) : isNamePart c = true := by
  simp only [isNameStart, Bool.or_eq_true] at h
  simp only [isNamePart, Char.isAlphanum, Bool.or_eq_true]
  exact h.imp_left (Or.imp_left .inl)

theorem isNameStart_of_isDigit (h : c.isDigit = true) : isNameStart c = false := by
  have hunder : (c == '_') = false := beq_eq_false_of_class rfl h
  have hdollar : (c == '$') = false := beq_eq_false_of_class rfl h
  have hdigit : c.val ≤ '9'.val := of_decide_eq_true (Bool.and_eq_true_iff.mp h).2
  have hupper : c.isUpper = false := decide_eq_false fun hc =>
    absurd (UInt32.le_trans hc.1 hdigit) (by decide)
  have hlower : c.isLower = false := Bool.and_eq_false_iff.mpr (.inl (decide_eq_false fun hc =>
    absurd (UInt32.le_trans hc hdigit) (by decide)))
  have halpha : c.isAlpha = false := Bool.or_eq_false_iff.mpr ⟨hupper, hlower⟩
  simp [isNameStart, hunder, hdollar, halpha]

namespace Scan

/-! ## Looking ahead -/

theorem le_skip (p : Char → Bool) (cs : Chars) (i : Nat) : i ≤ skip p cs i := by
  fun_induction skip p cs i with
  | case1 _ _ _ ih => omega
  | case2 => exact Nat.le_refl _
  | case3 => exact Nat.le_refl _

theorem le_skipSpaces (cs : Chars) (i : Nat) : i ≤ skipSpaces cs i := le_skip ..

theorem le_nameEnd (cs : Chars) (i : Nat) : i ≤ nameEnd cs i := le_skip ..

theorem le_find? (h : find? c cs i = some j) : i ≤ j := by
  fun_induction find? c cs i with
  | case1 => cases h; exact Nat.le_refl _
  | case2 _ _ _ ih => have := ih h; omega
  | case3 => cases h

theorem lt_commentEnd? (h : commentEnd? cs i = some j) : i < j := by
  fun_induction commentEnd? cs i with
  | case1 => cases h; omega
  | case2 _ _ _ ih => have := ih h; omega
  | case3 => cases h

theorem le_lineEnd (h : i ≤ cs.size) : i ≤ lineEnd cs i := by
  unfold lineEnd
  cases hfind : find? '\n' cs i with
  | none => exact h
  | some j => exact le_find? hfind

theorem le_closeFrom? {depth : Nat} (h : closeFrom? cs depth i = some j) : i ≤ j := by
  fun_induction closeFrom? cs depth i with
  | case1 _ _ _ _ _ hstring ih => have := lt_of_stringEnd? hstring; have := ih h; omega
  | case2 => cases h
  | case3 _ _ _ _ _ ih => have := ih h; omega
  | case4 => cases h
  | case5 => cases h; exact Nat.le_refl _
  | case6 _ _ _ _ _ _ ih => have := ih h; omega
  | case7 _ _ _ _ _ _ ih => have := ih h; omega
  | case8 => cases h

theorem le_close? (h : close? cs i = some j) : i ≤ j := le_closeFrom? h

theorem le_angleFrom? {depth : Nat} (h : angleFrom? cs depth i = some j) : i ≤ j := by
  fun_induction angleFrom? cs depth i with
  | case1 _ _ _ _ _ hstring ih => have := lt_of_stringEnd? hstring; have := ih h; omega
  | case2 => cases h
  | case3 => cases h
  | case4 _ _ _ _ _ _ ih => have := ih h; omega
  | case5 => cases h
  | case6 => cases h; exact Nat.le_refl _
  | case7 _ _ _ _ _ _ _ ih => have := ih h; omega
  | case8 _ _ _ _ _ _ _ ih => have := ih h; omega
  | case9 => cases h

theorem le_angle? (h : angle? cs i = some j) : i ≤ j := le_angleFrom? h

/-! ## Types -/

/-- A step of reading a type goes forward. -/
structure TypeStep.From (i : Nat) (step : TypeStep) : Prop where
  next : i ≤ step.next
  stop : ∀ j, step.stop = some j → i ≤ j

/-- A step that ends the type where it goes on. -/
theorem TypeStep.From.done {wantsOperand : Bool} (h : i ≤ j) :
    TypeStep.From i { next := j, stop := some j, wantsOperand } :=
  ⟨h, by rintro _ ⟨⟩; exact h⟩

/-- A step that only goes on. -/
theorem TypeStep.From.on (h : i ≤ j) : TypeStep.From i { next := j, wantsOperand := true } :=
  ⟨h, nofun⟩

theorem TypeStep.From.of_map {found : Option Nat} {f : Nat → TypeStep} {step : TypeStep}
    (h : found.map f = some step) (hf : ∀ j, found = some j → (f j).From i) : step.From i := by
  obtain ⟨j, hj, rfl⟩ := Option.map_eq_some_iff.mp h
  exact hf j hj

/-- An operand that is a word. -/
theorem operand?_of_isNameStart (cs : Chars) (i : Nat) (hc : isNameStart c = true) :
    operand? cs i c = some
      (if typeOperators.contains (String.ofList (slice cs i (nameEnd cs i))) then
        { next := nameEnd cs i, wantsOperand := true }
      else { next := nameEnd cs i, stop := some (nameEnd cs i), wantsOperand := false }) := by
  have hdigit : c.isDigit = false := Bool.eq_false_iff.mpr fun h => by
    rw [isNameStart_of_isDigit h] at hc
    cases hc
  have hmark {a : Char} (ha : isNameStart a = false) : (c == a) = false :=
    beq_eq_false_of_class ha hc
  simp only [operand?, isQuoteMark, hdigit, hmark (a := '|') rfl, hmark (a := '&') rfl,
    hmark (a := '{') rfl, hmark (a := '[') rfl, hmark (a := '(') rfl, hmark (a := '<') rfl,
    hmark (a := '\'') rfl, hmark (a := '"') rfl, hmark (a := '\x60') rfl, hmark (a := '-') rfl,
    Bool.or_false, Bool.false_eq_true, if_false, hc, if_true]
  split <;> rfl

/-- Of suffixes only `is` is a word. -/
theorem suffix?_of_isNameStart (cs : Chars) (i : Nat) (hc : isNameStart c = true) :
    suffix? cs i c =
      if slice cs i (nameEnd cs i) == ['i', 's'] then
        some { next := nameEnd cs i, wantsOperand := true }
      else none := by
  have hmark {a : Char} (ha : isNameStart a = false) : (c == a) = false :=
    beq_eq_false_of_class ha hc
  simp only [suffix?, hmark (a := '.') rfl, hmark (a := '<') rfl, hmark (a := '[') rfl,
    hmark (a := '|') rfl, hmark (a := '&') rfl, Bool.or_false, Bool.false_and,
    Bool.false_eq_true, if_false, hc, Bool.true_and]

theorem operand?_from {step : TypeStep} (h : operand? cs i c = some step) : step.From i := by
  unfold operand? at h
  dsimp only at h
  repeat' split at h
  · cases h; exact .on (Nat.le_succ i)
  · exact .of_map h fun j hj => .done (Nat.le_succ_of_le (le_close? hj))
  · refine .of_map h fun j hj => ?_
    have hclose := le_close? hj
    have hspace := le_skipSpaces cs (j + 1)
    split
    · exact ⟨by dsimp only; omega, by rintro _ ⟨⟩; omega⟩
    · exact .done (by omega)
  · exact .of_map h fun j hj => .on (Nat.le_succ_of_le (le_angle? hj))
  · exact .of_map h fun j hj => .done (Nat.le_of_lt (lt_of_stringEnd? hj))
  · cases h; exact .done (Nat.le_trans (Nat.le_succ i) (le_skip ..))
  · cases h; exact .on (le_nameEnd ..)
  · cases h; exact .done (le_nameEnd ..)
  · cases h

theorem suffix?_from {step : TypeStep} (h : suffix? cs i c = some step) : step.From i := by
  unfold suffix? at h
  dsimp only at h
  repeat' split at h
  · cases h; exact .done (Nat.le_trans (Nat.le_succ i) (le_nameEnd ..))
  · exact .of_map h fun j hj => .done (Nat.le_succ_of_le (le_angle? hj))
  · exact .of_map h fun j hj => .done (Nat.le_succ_of_le (le_close? hj))
  · cases h; exact .on (Nat.le_succ i)
  · cases h; exact .on (le_nameEnd ..)
  · cases h

theorem le_typeEndFrom {stop : Nat} {wantsOperand : Bool} (hi : k ≤ i) (hstop : k ≤ stop) :
    k ≤ typeEndFrom cs fuel i stop wantsOperand := by
  induction fuel generalizing i stop wantsOperand with
  | zero => exact hstop
  | succ fuel ih =>
    rw [typeEndFrom]
    have hi := Nat.le_trans hi (le_skipSpaces cs i)
    generalize skipSpaces cs i = i at hi
    split
    · exact hstop
    · split
      · exact hstop
      · rename_i step hstep
        have hfrom : step.From i := by
          split at hstep
          · exact operand?_from hstep
          · exact suffix?_from hstep
        refine ih (Nat.le_trans hi hfrom.next) ?_
        cases hs : step.stop with
        | none => exact hstop
        | some j => exact Nat.le_trans hi (hfrom.stop j hs)

theorem le_typeEnd (cs : Chars) (i : Nat) : i ≤ typeEnd cs i :=
  le_typeEndFrom (Nat.le_refl _) (Nat.le_refl _)

end Scan

open Scan

namespace Listing

variable {s : Listing} {previous : Previous}

theorem le_regexEnd? {inClass : Bool} (h : regexEnd? cs inClass i = some j) : i ≤ j := by
  fun_induction regexEnd? cs inClass i with
  | case1 => cases h
  | case2 _ _ _ _ _ ih => have := ih h; omega
  | case3 _ _ _ _ _ _ ih => have := ih h; omega
  | case4 _ _ _ _ _ _ _ ih => have := ih h; omega
  | case5 _ i => cases h; have := le_nameEnd cs (i + 1); omega
  | case6 _ _ _ _ _ _ _ _ ih => have := ih h; omega
  | case7 => cases h

theorem le_skipTagSpaces (h : skipTagSpaces cs fuel i = .ok j) : i ≤ j := by
  induction fuel generalizing i with
  | zero => cases h
  | succ fuel ih =>
    rw [skipTagSpaces] at h
    have hspaces := le_skipSpaces cs i
    generalize skipSpaces cs i = k at h hspaces
    split at h
    · rename_i hline
      have hk : k ≤ cs.size := by
        simp only [startsAt, Bool.and_eq_true, beq_iff_eq] at hline
        exact Nat.le_of_lt (Array.getElem?_eq_some_iff.mp hline.1).1
      have := ih h
      have := le_lineEnd hk
      omega
    · split at h
      · split at h
        · rename_i m hcomment
          have := lt_commentEnd? hcomment
          have := ih h
          omega
        · cases h
      · cases h
        exact hspaces

theorem le_tagName {name : List Char} (h : s.tagName i = .ok (name, j)) : i ≤ j := by
  unfold tagName at h
  split at h
  · cases h
    exact le_skip ..
  · cases h

theorem le_arrowParametersEnd? (h : s.arrowParametersEnd? i = some j) : i ≤ j := by
  unfold arrowParametersEnd? at h
  obtain ⟨close, hclose, h⟩ := Option.bind_eq_some_iff.mp h
  have := le_angle? hclose
  simp only [Option.bind_eq_bind, Option.bind_none, Option.ite_none_left_eq_some,
    Option.bind_eq_some_iff, Option.ite_none_right_eq_some, Option.some.injEq] at h
  obtain ⟨-, -, -, -, -, -, rfl⟩ := h
  omega

theorem le_callArgumentsEnd? (h : s.callArgumentsEnd? i = some j) : i ≤ j := by
  unfold callArgumentsEnd? at h
  obtain ⟨close, hclose, h⟩ := Option.bind_eq_some_iff.mp h
  have := le_angle? hclose
  dsimp only at h
  split at h
  · cases h; omega
  · cases h

theorem lt_parametersEnd? (h : s.parametersEnd? previous close = some j) : close < j := by
  unfold parametersEnd? at h
  have hafter := le_skipSpaces s.chars (close + 1)
  dsimp only at h
  generalize skipSpaces s.chars (close + 1) = after at h hafter
  have htype := le_typeEnd s.chars (after + 1)
  grind

theorem le_interfaceEnd (h : i ≤ s.chars.size) : i ≤ s.interfaceEnd i := by
  unfold interfaceEnd
  split
  · rename_i hclose
    obtain ⟨opening, hopening, hclose⟩ := Option.bind_eq_some_iff.mp hclose
    have := le_find? hopening
    have := le_close? hclose
    omega
  · exact h

theorem le_aliasEnd (s : Listing) (i : Nat) : i ≤ s.aliasEnd i := by
  have hname : i ≤ s.afterName i := by
    have h₁ := le_skipSpaces s.chars i
    have h₂ := le_nameEnd s.chars (skipSpaces s.chars i)
    have h₃ := le_skipSpaces s.chars (nameEnd s.chars (skipSpaces s.chars i))
    unfold afterName
    omega
  -- whether type parameters are passed over or not, the type stands behind the name
  have hbehind (j : Nat) (hj : i ≤ j) (stop : Nat)
      (hstop : stop = typeEnd s.chars (if s.charAt? j == some '=' then j + 1 else j)) :
      i ≤ if s.charAt? (skipSpaces s.chars stop) == some ';' then skipSpaces s.chars stop + 1
        else stop := by
    have hle : i ≤ stop := by
      subst hstop
      refine Nat.le_trans ?_ (le_typeEnd ..)
      split <;> omega
    have hspaces := le_skipSpaces s.chars stop
    split <;> omega
  unfold aliasEnd
  refine hbehind _ ?_ _ rfl
  split
  · refine Nat.le_trans ?_ (le_skipSpaces ..)
    cases hclose : angle? s.chars (s.afterName i) with
    | none => exact hname
    | some close =>
      have := le_angle? hclose
      exact Nat.le_trans hname (by dsimp only; omega)
  · exact hname

end Listing

theorem Scan.skip_le_size (h : i ≤ cs.size) : skip p cs i ≤ cs.size := by
  fun_induction skip p cs i with
  | case1 _ _ _ ih => exact ih (by omega)
  | case2 => omega
  | case3 => exact h

/-! ## One construct -/

namespace Cursor

variable {s : Listing} {a b : Cursor}

theorem le_lineComment (h : a.pos ≤ s.chars.size) : a.pos ≤ (a.lineComment s).pos :=
  le_lineEnd h

theorem le_blockComment (h : a.blockComment s = .ok b) : a.pos ≤ b.pos := by
  unfold blockComment at h
  split at h
  · rename_i stop hstop
    cases h
    have := lt_commentEnd? hstop
    show a.pos ≤ stop
    omega
  · cases h

theorem le_number (a : Cursor) (s : Listing) : a.pos ≤ (a.number s).pos :=
  Nat.le_trans (Nat.le_succ _) (le_skip ..)

theorem le_slash (h : a.slash s = .ok b) : a.pos ≤ b.pos := by
  unfold slash at h
  split at h
  · split at h
    · rename_i stop hstop
      cases h
      have := Listing.le_regexEnd? hstop
      show a.pos ≤ stop
      omega
    · cases h
  · cases h
    exact Nat.le_succ _

theorem le_binding (a : Cursor) (s : Listing) : a.pos ≤ (a.binding s).pos := by
  unfold binding
  dsimp only
  have hstart := le_skipSpaces s.chars a.pos
  generalize skipSpaces s.chars a.pos = start at hstart
  split
  · exact Nat.le_refl _
  · rename_i stop hstop
    have hle : start ≤ stop := by
      split at hstop
      · split at hstop
        · obtain ⟨close, hclose, rfl⟩ := Option.map_eq_some_iff.mp hstop
          have := le_close? hclose
          omega
        · split at hstop
          · cases hstop
            exact le_nameEnd ..
          · cases hstop
      · cases hstop
    split
    · have hcolon := le_skipSpaces s.chars stop
      have htype := le_typeEnd s.chars (skipSpaces s.chars stop + 1)
      show a.pos ≤ typeEnd s.chars (skipSpaces s.chars stop + 1)
      omega
    · exact Nat.le_refl _

theorem le_enum (hi : a.pos ≤ i) (h : a.enum s i = .ok b) : a.pos ≤ b.pos := by
  unfold enum at h
  have h₁ := le_skipSpaces s.chars i
  have h₂ := le_nameEnd s.chars (skipSpaces s.chars i)
  have h₃ := le_skipSpaces s.chars (nameEnd s.chars (skipSpaces s.chars i))
  dsimp only at h
  split at h
  · cases h
  · split at h
    · cases h
    · rename_i close hclose
      have := le_close? hclose
      split at h
      · cases h
      · cases h
        show a.pos ≤ close + 1
        omega

theorem le_word (hpos : a.pos ≤ s.chars.size) (h : a.word s = .ok b) : a.pos ≤ b.pos := by
  unfold word at h
  have hname := le_nameEnd s.chars a.pos
  have hsize : nameEnd s.chars a.pos ≤ s.chars.size := skip_le_size hpos
  dsimp only at h
  generalize nameEnd s.chars a.pos = stop at h hname hsize
  have hspaces := le_skipSpaces s.chars stop
  repeat' split at h
  · cases h; exact hname
  · cases h; exact Nat.le_trans hname (Listing.le_interfaceEnd hsize)
  · cases h; exact Nat.le_trans hname (Listing.le_aliasEnd ..)
  · exact le_enum hname h
  · exact le_enum (by omega) h
  · cases h; exact Nat.le_trans hname (le_typeEnd ..)
  · cases h; exact Nat.le_trans hname hspaces
  · cases h; exact Nat.le_trans hname (le_binding { a.copyTo s stop with previous := .word _ } s)
  · cases h; exact hname

end Cursor

end Source
end Restyle
