import Restyle.Proofs.Source.Extent

/-!
# Restyle.Proofs.Source.Within

Looking ahead stays within the source text: what a search from a position within it finds is a
position within it. With `Restyle.Proofs.Source.Extent` this bounds every search from both sides.
-/

namespace Restyle
namespace Source

variable {cs : Chars} {i j start close fuel : Nat} {p : Char → Bool} {c : Char}

theorem lt_size_of_getElem? (h : cs[i]? = some c) : i < cs.size :=
  (Array.getElem?_eq_some_iff.mp h).1

namespace Scan

theorem lt_skip (h : cs[i]? = some c) (hc : p c = true) : i < skip p cs i := by
  obtain ⟨hlt, rfl⟩ := Array.getElem?_eq_some_iff.mp h
  rw [skip, dif_pos hlt, if_pos hc]
  exact le_skip ..

theorem skipSpaces_le_size (h : i ≤ cs.size) : skipSpaces cs i ≤ cs.size := skip_le_size h

theorem nameEnd_le_size (h : i ≤ cs.size) : nameEnd cs i ≤ cs.size := skip_le_size h

theorem lt_nameEnd (h : cs[i]? = some c) (hc : isNameStart c = true) : i < nameEnd cs i :=
  lt_skip h (isNamePart_of_isNameStart hc)

theorem le_size_of_startsAt {ps : List Char} (hi : i ≤ cs.size) (h : startsAt cs i ps = true) :
    i + ps.length ≤ cs.size := by
  induction ps generalizing i with
  | nil => exact hi
  | cons p ps ih =>
    simp only [startsAt, Bool.and_eq_true, beq_iff_eq] at h
    have := ih (lt_size_of_getElem? h.1) h.2
    rw [List.length_cons]
    omega

theorem getElem?_of_find? (h : find? c cs i = some j) : cs[j]? = some c := by
  fun_induction find? c cs i with
  | case1 i hi hc =>
    cases h
    rw [Array.getElem?_eq_getElem hi, eq_of_beq hc]
  | case2 _ _ _ ih => exact ih h
  | case3 => cases h

theorem commentEnd?_le_size (h : commentEnd? cs i = some j) : j ≤ cs.size := by
  fun_induction commentEnd? cs i with
  | case1 i hi hend => cases h; exact le_size_of_startsAt (Nat.le_of_lt hi) hend
  | case2 _ _ _ ih => exact ih h
  | case3 => cases h

theorem lineEnd_le_size (cs : Chars) (i : Nat) : lineEnd cs i ≤ cs.size := by
  unfold lineEnd
  cases hfind : find? '\n' cs i with
  | none => exact Nat.le_refl _
  | some j => exact Nat.le_of_lt (lt_size_of_getElem? (getElem?_of_find? hfind))

theorem lt_lineEnd (h : cs[i]? = some c) (hc : c ≠ '\n') : i < lineEnd cs i := by
  unfold lineEnd
  cases hfind : find? '\n' cs i with
  | none => exact lt_size_of_getElem? h
  | some j =>
    refine Nat.lt_of_le_of_ne (le_find? hfind) ?_
    rintro rfl
    rw [getElem?_of_find? hfind] at h
    cases h
    exact hc rfl

theorem stringEndFrom?_le_size {quote : Char} (h : stringEndFrom? quote cs i = some j) :
    j ≤ cs.size := by
  fun_induction stringEndFrom? quote cs i with
  | case1 _ _ _ ih => exact ih h
  | case2 => cases h
  | case3 _ hi => cases h; exact hi
  | case4 _ _ _ _ _ ih => exact ih h
  | case5 => cases h

theorem stringEnd?_le_size (h : stringEnd? cs i = some j) : j ≤ cs.size := by
  unfold stringEnd? at h
  split at h
  · exact stringEndFrom?_le_size h
  · cases h

theorem stringStop_le_size (cs : Chars) (i : Nat) : stringStop cs i ≤ cs.size := by
  unfold stringStop
  cases hend : stringEnd? cs i with
  | none => exact Nat.le_refl _
  | some j => exact stringEnd?_le_size hend

/-- What closes brackets is a closing bracket. -/
theorem exists_isClosing_of_closeFrom? {depth : Nat} (h : closeFrom? cs depth i = some j) :
    ∃ d, cs[j]? = some d ∧ isClosing d = true := by
  fun_induction closeFrom? cs depth i with
  | case1 _ _ _ _ _ _ ih => exact ih h
  | case2 => cases h
  | case3 _ _ _ _ _ ih => exact ih h
  | case4 => cases h
  | case5 i hi _ _ hclose => cases h; exact ⟨_, Array.getElem?_eq_getElem hi, hclose⟩
  | case6 _ _ _ _ _ _ ih => exact ih h
  | case7 _ _ _ _ _ _ ih => exact ih h
  | case8 => cases h

theorem exists_isClosing_of_close? (h : close? cs i = some j) :
    ∃ d, cs[j]? = some d ∧ isClosing d = true := exists_isClosing_of_closeFrom? h

theorem close?_lt_size (h : close? cs i = some j) : j < cs.size := by
  obtain ⟨d, hd, -⟩ := exists_isClosing_of_close? h
  exact lt_size_of_getElem? hd

/-- Between brackets there is a place for a text. -/
theorem lt_close? (hi : cs[i]? = some c) (hc : isClosing c = false) (h : close? cs i = some j) :
    i < j := by
  refine Nat.lt_of_le_of_ne (le_close? h) ?_
  rintro rfl
  obtain ⟨d, hd, hclose⟩ := exists_isClosing_of_close? h
  rw [hd] at hi
  cases hi
  rw [hc] at hclose
  cases hclose

theorem getElem?_of_angleFrom? {depth : Nat} (h : angleFrom? cs depth i = some j) :
    cs[j]? = some '>' := by
  fun_induction angleFrom? cs depth i with
  | case1 _ _ _ _ _ _ ih => exact ih h
  | case2 => cases h
  | case3 => cases h
  | case4 _ _ _ _ _ _ ih => exact ih h
  | case5 => cases h
  | case6 i hi _ _ _ hclose =>
    cases h
    rw [Bool.and_eq_true, beq_iff_eq] at hclose
    rw [Array.getElem?_eq_getElem hi, hclose.1]
  | case7 _ _ _ _ _ _ _ ih => exact ih h
  | case8 _ _ _ _ _ _ _ ih => exact ih h
  | case9 => cases h

theorem getElem?_of_angle? (h : angle? cs i = some j) : cs[j]? = some '>' :=
  getElem?_of_angleFrom? h

theorem angle?_lt_size (h : angle? cs i = some j) : j < cs.size :=
  lt_size_of_getElem? (getElem?_of_angle? h)

/-- Between angle brackets there is a place for a text. -/
theorem lt_angle? (hi : cs[i]? = some '<') (h : angle? cs i = some j) : i < j := by
  refine Nat.lt_of_le_of_ne (le_angle? h) ?_
  rintro rfl
  rw [getElem?_of_angle? h] at hi
  cases hi

/-! ## Types -/

/-- A step of reading a type moves on, and no further than the text goes. -/
structure TypeStep.Within (cs : Chars) (i : Nat) (step : TypeStep) : Prop where
  lt_next : i < step.next
  next_le_size : step.next ≤ cs.size
  stop_le_size : ∀ j, step.stop = some j → j ≤ cs.size

theorem TypeStep.Within.done {wantsOperand : Bool} (hij : i < j) (hj : j ≤ cs.size) :
    TypeStep.Within cs i { next := j, stop := some j, wantsOperand } :=
  ⟨hij, hj, by rintro _ ⟨⟩; exact hj⟩

theorem TypeStep.Within.on (hij : i < j) (hj : j ≤ cs.size) :
    TypeStep.Within cs i { next := j, wantsOperand := true } :=
  ⟨hij, hj, nofun⟩

theorem TypeStep.Within.of_map {found : Option Nat} {f : Nat → TypeStep} {step : TypeStep}
    (h : found.map f = some step) (hf : ∀ j, found = some j → (f j).Within cs i) :
    step.Within cs i := by
  obtain ⟨j, hj, rfl⟩ := Option.map_eq_some_iff.mp h
  exact hf j hj

theorem operand?_within {step : TypeStep} (hc : cs[i]? = some c)
    (h : operand? cs i c = some step) : step.Within cs i := by
  have hi := lt_size_of_getElem? hc
  have hclose {j : Nat} (hj : close? cs i = some j) : i < j + 1 ∧ j + 1 ≤ cs.size :=
    ⟨Nat.lt_succ_of_le (le_close? hj), close?_lt_size hj⟩
  unfold operand? at h
  dsimp only at h
  repeat' split at h
  · cases h; exact .on (Nat.lt_succ_self i) hi
  · exact .of_map h fun j hj => .done (hclose hj).1 (hclose hj).2
  · refine .of_map h fun j hj => ?_
    have hspace := le_skipSpaces cs (j + 1)
    obtain ⟨hlt, hle⟩ := hclose hj
    split
    · rename_i harrow
      have := le_size_of_startsAt (skipSpaces_le_size hle) harrow
      rw [List.length_cons, List.length_singleton] at this
      exact ⟨by dsimp only; omega, this, by rintro _ ⟨⟩; exact hle⟩
    · exact .done hlt hle
  · exact .of_map h fun j hj => .on (Nat.lt_succ_of_le (le_angle? hj)) (angle?_lt_size hj)
  · exact .of_map h fun j hj => .done (lt_of_stringEnd? hj) (stringEnd?_le_size hj)
  · cases h; exact .done (Nat.lt_of_succ_le (le_skip ..)) (skip_le_size hi)
  · rename_i hname _
    cases h; exact .on (lt_nameEnd hc hname) (nameEnd_le_size (Nat.le_of_lt hi))
  · rename_i hname _
    cases h; exact .done (lt_nameEnd hc hname) (nameEnd_le_size (Nat.le_of_lt hi))
  · cases h

theorem suffix?_within {step : TypeStep} (hc : cs[i]? = some c)
    (h : suffix? cs i c = some step) : step.Within cs i := by
  have hi := lt_size_of_getElem? hc
  unfold suffix? at h
  dsimp only at h
  repeat' split at h
  · cases h; exact .done (Nat.lt_of_succ_le (le_nameEnd ..)) (nameEnd_le_size hi)
  · exact .of_map h fun j hj => .done (Nat.lt_succ_of_le (le_angle? hj)) (angle?_lt_size hj)
  · exact .of_map h fun j hj => .done (Nat.lt_succ_of_le (le_close? hj)) (close?_lt_size hj)
  · cases h; exact .on (Nat.lt_succ_self i) hi
  · rename_i hname
    rw [Bool.and_eq_true] at hname
    cases h; exact .on (lt_nameEnd hc hname.1) (nameEnd_le_size (Nat.le_of_lt hi))
  · cases h

theorem typeEndFrom_le_size {stop : Nat} {wantsOperand : Bool} (hi : i ≤ cs.size)
    (hstop : stop ≤ cs.size) : typeEndFrom cs fuel i stop wantsOperand ≤ cs.size := by
  induction fuel generalizing i stop wantsOperand with
  | zero => exact hstop
  | succ fuel ih =>
    rw [typeEndFrom]
    generalize skipSpaces cs i = i
    split
    · exact hstop
    · rename_i c hc
      split
      · exact hstop
      · rename_i step hstep
        have hwithin : step.Within cs i := by
          split at hstep
          · exact operand?_within hc hstep
          · exact suffix?_within hc hstep
        refine ih hwithin.next_le_size ?_
        cases hs : step.stop with
        | none => exact hstop
        | some j => exact hwithin.stop_le_size j hs

theorem typeEnd_le_size (h : i ≤ cs.size) : typeEnd cs i ≤ cs.size := typeEndFrom_le_size h h

/-! ## Parameters -/

/-- The parts of a parameter stand between its start and the parenthesis at `close`. -/
structure Parameter.Within (cs : Chars) (start close : Nat) (p : Parameter) : Prop where
  mark : ∀ j ∈ p.mark, start ≤ j ∧ j ≤ close
  colon : ∀ j ∈ p.colon, start ≤ j ∧ j ≤ close
  equals : ∀ j ∈ p.equals, start ≤ j ∧ j ≤ close
  le_stop : start ≤ p.stop
  stop_le : p.stop ≤ close
  comma : p.stop < close → cs[p.stop]? = some ','

/-- Whatever a test says. -/
theorem Parameter.Within.ite {p : Bool} {a b : Parameter}
    (ht : p = true → a.Within cs start close) (hf : p = false → b.Within cs start close) :
    (if p then a else b).Within cs start close := by
  cases p with
  | true => exact ht rfl
  | false => exact hf rfl

theorem optionalMark_within (h : optionalMark cs start i = some j) : start ≤ j ∧ j < i := by
  induction i with
  | zero => cases h
  | succ i ih =>
    rw [optionalMark] at h
    split at h
    · rename_i hle
      split at h
      · split at h
        · obtain ⟨hj, hlt⟩ := ih h
          exact ⟨hj, Nat.lt_succ_of_lt hlt⟩
        · split at h
          · cases h
            exact ⟨hle, Nat.lt_succ_self _⟩
          · cases h
      · cases h
    · cases h

theorem parameterFrom_within {depth angle : Int} {parts : Parameter} (hi : start ≤ i)
    (hparts : parts.Within cs start close) :
    (parameterFrom cs start close fuel i depth angle parts).Within cs start close := by
  induction fuel generalizing i depth angle parts with
  | zero => exact hparts
  | succ fuel ih =>
    rw [parameterFrom]
    split
    · rename_i hlt
      have hhere : ∀ j ∈ some i, start ≤ j ∧ j ≤ close := by
        rintro _ ⟨⟩
        exact ⟨hi, Nat.le_of_lt hlt⟩
      have hnext {depth angle : Int} {parts : Parameter} (hparts : parts.Within cs start close) :=
        @ih (i + 1) depth angle parts (Nat.le_succ_of_le hi) hparts
      split
      · exact hparts
      · rename_i c hc
        refine .ite (fun _ => ih ?_ hparts) fun _ => .ite (fun _ => hnext hparts) fun _ =>
          .ite (fun _ => hnext hparts) fun _ => .ite (fun _ => hnext hparts) fun _ =>
          .ite (fun _ => hnext hparts) fun _ => .ite (fun _ => ?_) fun _ =>
          .ite (fun _ => ?_) fun _ => .ite (fun hcomma => ?_) fun _ => hnext hparts
        · cases hend : stringEnd? cs i with
          | none => exact Nat.le_of_lt (Nat.lt_of_le_of_lt hi hlt)
          | some j => exact Nat.le_of_lt (Nat.lt_of_le_of_lt hi (lt_of_stringEnd? hend))
        · exact .ite (fun _ => hnext { hparts with equals := hhere }) fun _ => hnext hparts
        · refine hnext { hparts with colon := hhere, mark := fun j hj => ?_ }
          obtain ⟨hle, hbefore⟩ := optionalMark_within hj
          exact ⟨hle, by omega⟩
        · simp only [Bool.and_eq_true, beq_iff_eq] at hcomma
          exact { hparts with
            le_stop := hi
            stop_le := Nat.le_of_lt hlt
            comma := fun _ => hcomma.1.1 ▸ hc }
    · exact hparts

theorem parameter_within (h : start ≤ close) :
    (parameter cs start close).Within cs start close :=
  parameterFrom_within (Nat.le_refl _)
    ⟨nofun, nofun, nofun, h, Nat.le_refl _, fun hlt => absurd hlt (Nat.lt_irrefl _)⟩

end Scan

open Scan

namespace Listing

variable {s : Listing} {previous : Previous}

theorem regexEnd?_le_size {inClass : Bool} (h : regexEnd? cs inClass i = some j) :
    j ≤ cs.size := by
  fun_induction regexEnd? cs inClass i with
  | case1 => cases h
  | case2 _ _ _ _ _ ih => exact ih h
  | case3 _ _ _ _ _ _ ih => exact ih h
  | case4 _ _ _ _ _ _ _ ih => exact ih h
  | case5 _ _ hi => cases h; exact nameEnd_le_size hi
  | case6 _ _ _ _ _ _ _ _ ih => exact ih h
  | case7 => cases h

theorem afterName_le_size (h : i ≤ s.chars.size) : s.afterName i ≤ s.chars.size :=
  skipSpaces_le_size (nameEnd_le_size (skipSpaces_le_size h))

theorem interfaceEnd_le_size (s : Listing) (i : Nat) : s.interfaceEnd i ≤ s.chars.size := by
  unfold interfaceEnd
  split
  · rename_i hclose
    obtain ⟨opening, -, hclose⟩ := Option.bind_eq_some_iff.mp hclose
    exact close?_lt_size hclose
  · exact Nat.le_refl _

/-- Behind a character that stands somewhere the text goes on or ends. -/
theorem ite_succ_le_size (h : i ≤ s.chars.size) (c : Char) :
    (if s.charAt? i == some c then i + 1 else i) ≤ s.chars.size := by
  split
  · rename_i hc
    exact lt_size_of_getElem? (eq_of_beq hc)
  · exact h

theorem aliasEnd_le_size (h : i ≤ s.chars.size) : s.aliasEnd i ≤ s.chars.size := by
  have hname := afterName_le_size h
  -- whether type parameters are passed over or not, the type stands within the text
  have hbehind (j : Nat) (hj : j ≤ s.chars.size) (stop : Nat)
      (hstop : stop = typeEnd s.chars (if s.charAt? j == some '=' then j + 1 else j)) :
      (if s.charAt? (skipSpaces s.chars stop) == some ';' then skipSpaces s.chars stop + 1
        else stop) ≤ s.chars.size := by
    split
    · rename_i hsemicolon
      exact lt_size_of_getElem? (eq_of_beq hsemicolon)
    · rw [hstop]
      exact typeEnd_le_size (ite_succ_le_size hj '=')
  unfold aliasEnd
  refine hbehind _ ?_ _ rfl
  split
  · cases hclose : angle? s.chars (s.afterName i) with
    | none => exact skipSpaces_le_size hname
    | some close => exact skipSpaces_le_size (angle?_lt_size hclose)
  · exact hname

theorem arrowParametersEnd?_within (h : s.arrowParametersEnd? i = some j) :
    i < j ∧ j ≤ s.chars.size := by
  unfold arrowParametersEnd? at h
  obtain ⟨close, hclose, h⟩ := Option.bind_eq_some_iff.mp h
  simp only [Option.bind_eq_bind, Option.bind_none, Option.ite_none_left_eq_some,
    Option.bind_eq_some_iff, Option.ite_none_right_eq_some, Option.some.injEq] at h
  obtain ⟨-, -, -, -, -, -, rfl⟩ := h
  exact ⟨Nat.lt_succ_of_le (le_angle? hclose), angle?_lt_size hclose⟩

theorem callArgumentsEnd?_within (h : s.callArgumentsEnd? i = some j) :
    i < j ∧ j ≤ s.chars.size := by
  unfold callArgumentsEnd? at h
  obtain ⟨close, hclose, h⟩ := Option.bind_eq_some_iff.mp h
  dsimp only at h
  split at h
  · cases h
    exact ⟨Nat.lt_succ_of_le (le_angle? hclose), angle?_lt_size hclose⟩
  · cases h

theorem parametersEnd?_le_size (hclose : close < s.chars.size)
    (h : s.parametersEnd? previous close = some j) : j ≤ s.chars.size := by
  unfold parametersEnd? at h
  dsimp only at h
  split at h
  · cases h
    exact hclose
  · split at h
    · rename_i hcolon
      have htype := typeEnd_le_size (lt_size_of_getElem? hcolon)
      split at h
      · cases h
        exact htype
      · cases h
    · split at h
      · split at h
        · cases h
        · cases h
          exact hclose
      · cases h
    · cases h

end Listing

end Source
end Restyle
