import Restyle.Script.Utf16

/-!
# Restyle.Proofs.Script.Units

Strings of scripts are told by their units: `units_ofUnits` reads back what is stored, and text is
spelled unit by unit (`toList_spell`), except that a pair of surrogates is one character. Texts that
do not meet inside a pair are spelled one after the other (`spelled_append`).
-/

namespace Restyle
namespace Script
namespace Utf16

variable {s t : Utf16} {a b us vs : List UInt16} {u v : UInt16} {c : Char}

/-! ## Characters and units -/

theorem isHigh_iff : isHigh u = true ↔ 0xD800 ≤ u.toNat ∧ u.toNat < 0xDC00 := by
  simp [isHigh, UInt16.le_iff_toNat_le, UInt16.lt_iff_toNat_lt]

theorem isLow_iff : isLow u = true ↔ 0xDC00 ≤ u.toNat ∧ u.toNat < 0xE000 := by
  simp [isLow, UInt16.le_iff_toNat_le, UInt16.lt_iff_toNat_lt]

/-- A unit by itself. -/
def point (u : UInt16) : Char ⊕ UInt16 :=
  if isHigh u || isLow u then .inr u else .inl (Char.ofNat u.toNat)

theorem toNat_ofNat_of_lt {n : Nat} (h : n.isValidChar) : (Char.ofNat n).toNat = n := by
  rw [Char.ofNat, dif_pos h]
  exact rfl

theorem toNat_toUInt16 {n : Nat} (h : n < 0x10000) : n.toUInt16.toNat = n := by
  simp [Nat.mod_eq_of_lt h]

theorem unitsOfChar_ofNat (h : isHigh u = false ∧ isLow u = false) :
    unitsOfChar (Char.ofNat u.toNat) = [u] := by
  have hlt : u.toNat < 0x10000 := u.toNat_lt
  have hhigh := (Bool.eq_false_iff.mp h.1)
  have hlow := (Bool.eq_false_iff.mp h.2)
  rw [Ne, isHigh_iff] at hhigh
  rw [Ne, isLow_iff] at hlow
  have hvalid : u.toNat.isValidChar := by
    unfold Nat.isValidChar
    omega
  unfold unitsOfChar
  rw [toNat_ofNat_of_lt hvalid]
  simp [hlt]

theorem toNat_pair (hu : isHigh u = true) (hv : isLow v = true) :
    (pair u v).toNat = 0x10000 + (u.toNat - 0xD800) * 0x400 + (v.toNat - 0xDC00) := by
  rw [isHigh_iff] at hu
  rw [isLow_iff] at hv
  refine toNat_ofNat_of_lt ?_
  unfold Nat.isValidChar
  omega

theorem unitsOfChar_pair (hu : isHigh u = true) (hv : isLow v = true) :
    unitsOfChar (pair u v) = [u, v] := by
  unfold unitsOfChar
  rw [toNat_pair hu hv]
  rw [isHigh_iff] at hu
  rw [isLow_iff] at hv
  have hbig : ¬ 0x10000 + (u.toNat - 0xD800) * 0x400 + (v.toNat - 0xDC00) < 0x10000 := by omega
  have hhigh : 0xD800 + (0x10000 + (u.toNat - 0xD800) * 0x400 + (v.toNat - 0xDC00) - 0x10000) / 0x400
      = u.toNat := by omega
  have hlow : 0xDC00 + (0x10000 + (u.toNat - 0xD800) * 0x400 + (v.toNat - 0xDC00) - 0x10000) % 0x400
      = v.toNat := by omega
  simp only [hbig, if_false, hhigh, hlow]
  simp

/-- No character is a surrogate. -/
theorem not_surrogate (c : Char) : ¬ (0xD800 ≤ c.toNat ∧ c.toNat < 0xE000) := by
  have h := c.valid
  unfold Char.toNat
  have : c.val.toNat.isValidChar := h
  unfold Nat.isValidChar at this
  omega

theorem toNat_lt_max (c : Char) : c.toNat < 0x110000 := by
  have : c.val.toNat.isValidChar := c.valid
  unfold Nat.isValidChar at this
  unfold Char.toNat
  omega

/-- A character is a unit that is no surrogate, or a pair of surrogates. -/
theorem unitsOfChar_cases (c : Char) :
    (∃ u, unitsOfChar c = [u] ∧ isHigh u = false ∧ isLow u = false ∧ Char.ofNat u.toNat = c) ∨
      0x10000 ≤ c.toNat ∧
        ∃ u v, unitsOfChar c = [u, v] ∧ isHigh u = true ∧ isLow v = true ∧ pair u v = c := by
  have hno := not_surrogate c
  have hmax := toNat_lt_max c
  by_cases hsmall : c.toNat < 0x10000
  · have hn := toNat_toUInt16 hsmall
    refine .inl ⟨c.toNat.toUInt16, by simp [unitsOfChar, hsmall], ?_, ?_, ?_⟩
    · rw [Bool.eq_false_iff, Ne, isHigh_iff, hn]
      omega
    · rw [Bool.eq_false_iff, Ne, isLow_iff, hn]
      omega
    · rw [hn, Char.ofNat_toNat]
  · have hhi := toNat_toUInt16 (n := 0xD800 + (c.toNat - 0x10000) / 0x400) (by omega)
    have hlo := toNat_toUInt16 (n := 0xDC00 + (c.toNat - 0x10000) % 0x400) (by omega)
    refine .inr ⟨by omega, _, _, by simp only [unitsOfChar, hsmall, if_false]; exact rfl, ?_, ?_, ?_⟩
    · rw [isHigh_iff, hhi]
      omega
    · rw [isLow_iff, hlo]
      omega
    · have hpair : 0x10000 + (0xD800 + (c.toNat - 0x10000) / 0x400 - 0xD800) * 0x400
          + (0xDC00 + (c.toNat - 0x10000) % 0x400 - 0xDC00) = c.toNat := by omega
      rw [pair, hhi, hlo, hpair, Char.ofNat_toNat]

theorem unitsOfChar_ne_nil (c : Char) : unitsOfChar c ≠ [] := by
  obtain ⟨u, hu, -⟩ | ⟨-, u, v, huv, -⟩ := unitsOfChar_cases c
  · simp [hu]
  · simp [huv]

/-! ## Points -/

theorem points_cons (h : ∀ v, vs.head? = some v → (isHigh u && isLow v) = false) :
    points (u :: vs) = point u :: points vs := by
  cases vs with
  | nil => simp [points, point]
  | cons v vs =>
    have := h v rfl
    simp [points, point, this]

theorem points_pair (hu : isHigh u = true) (hv : isLow v = true) :
    points (u :: v :: vs) = .inl (pair u v) :: points vs := by
  simp [points, hu, hv]

theorem points_unitsOfChar (c : Char) (us : List UInt16) :
    points (unitsOfChar c ++ us) = .inl c :: points us := by
  obtain ⟨u, hu, hhigh, hlow, hc⟩ | ⟨-, u, v, huv, hhigh, hlow, hc⟩ := unitsOfChar_cases c
  · rw [hu, List.singleton_append, points_cons fun v _ => by rw [hhigh, Bool.false_and]]
    simp [point, hhigh, hlow, hc]
  · rw [huv, List.cons_append, List.singleton_append, points_pair hhigh hlow, hc]

theorem points_flatMap (cs : List Char) : points (cs.flatMap unitsOfChar) = cs.map .inl := by
  induction cs with
  | nil => rfl
  | cons c cs ih => rw [List.flatMap_cons, points_unitsOfChar, ih, List.map_cons]

/-- Two texts do not meet inside a pair of surrogates. -/
def Apart (a b : List UInt16) : Prop :=
  ∀ u v, a.getLast? = some u → b.head? = some v → (isHigh u && isLow v) = false

theorem Apart.tail (h : Apart (u :: v :: us) b) : Apart (v :: us) b := by
  intro x y hx
  exact h x y (by rwa [List.getLast?_cons_cons])

theorem points_append (h : Apart a b) : points (a ++ b) = points a ++ points b := by
  fun_induction points a with
  | case1 => rfl
  | case2 u =>
    rw [List.singleton_append, points_cons fun v hv => h u v rfl hv]
    rfl
  | case3 u v rest hpair ih =>
    rw [Bool.and_eq_true] at hpair
    have hrest : Apart rest b := by
      intro x y hx
      cases rest with
      | nil => cases hx
      | cons w ws => exact h x y (by rwa [List.getLast?_cons_cons, List.getLast?_cons_cons])
    rw [List.cons_append, List.cons_append, points_pair hpair.1 hpair.2, ih hrest, List.cons_append]
  | case4 u v rest hpair ih =>
    rw [List.cons_append, points_cons, ih h.tail, List.cons_append]
    · rfl
    · rintro _ ⟨⟩
      exact Bool.eq_false_iff.mpr hpair

/-- Nothing is inside a pair where the first text ends, or the second begins, with no surrogate. -/
theorem Apart.of_getLast? (h : ∀ u, a.getLast? = some u → isHigh u = false) (b : List UInt16) :
    Apart a b := by
  intro u v hu _
  rw [h u hu, Bool.false_and]

theorem Apart.of_head? (a : List UInt16) (h : ∀ v, b.head? = some v → isLow v = false) :
    Apart a b := by
  intro u v _ hv
  rw [h v hv, Bool.and_false]

/-! ## Spelling -/

/-- What a point is spelled as. -/
def spellPoint : Char ⊕ UInt16 → List Char
  | .inl c => [c]
  | .inr u => '\\' :: 'u' :: (Nat.toDigits 16 u.toNat).map Char.toUpper

/-- What units are spelled as. -/
def spelled (us : List UInt16) : List Char := (points us).flatMap spellPoint

theorem spelled_cons (h : ∀ v, vs.head? = some v → (isHigh u && isLow v) = false) :
    spelled (u :: vs) = spellPoint (point u) ++ spelled vs := by
  rw [spelled, points_cons h, List.flatMap_cons]
  rfl

theorem spelled_pair (hu : isHigh u = true) (hv : isLow v = true) :
    spelled (u :: v :: vs) = pair u v :: spelled vs := by
  rw [spelled, points_pair hu hv, List.flatMap_cons]
  rfl

theorem spelled_append (h : Apart a b) : spelled (a ++ b) = spelled a ++ spelled b := by
  rw [spelled, points_append h, List.flatMap_append]
  rfl

theorem spelled_flatMap (cs : List Char) : spelled (cs.flatMap unitsOfChar) = cs := by
  rw [spelled, points_flatMap, List.flatMap_map]
  simp [spellPoint]

theorem toList_spell (s : Utf16) : s.spell.toList = spelled s.units := by
  cases s with
  | whole s => exact (spelled_flatMap s.toList).symm
  | broken us =>
    simp only [spell, String.toList_ofList, units, spelled]
    congr 1

/-! ## Units -/

theorem points_of_chars? {cs : List Char} (h : chars? us = some cs) : points us = cs.map .inl := by
  unfold chars? at h
  generalize points us = ps at h
  induction ps generalizing cs with
  | nil =>
    rw [List.mapM_nil] at h
    cases h
    rfl
  | cons p ps ih =>
    rw [List.mapM_cons] at h
    obtain ⟨c, hc, h⟩ := Option.bind_eq_some_iff.mp h
    obtain ⟨cs', hcs, h⟩ := Option.bind_eq_some_iff.mp h
    cases h
    cases p with
    | inl x =>
      cases hc
      rw [ih hcs, List.map_cons]
    | inr u => cases hc

/-- Units without a surrogate that stands alone are those of their characters. -/
theorem flatMap_of_points {cs : List Char} (h : points us = cs.map .inl) :
    cs.flatMap unitsOfChar = us := by
  have hpoint : ∀ (u : UInt16) (c : Char), point u = .inl c → unitsOfChar c = [u] := by
    intro u c hc
    unfold point at hc
    split at hc
    · cases hc
    · rename_i hno
      cases hc
      exact unitsOfChar_ofNat (by simpa using hno)
  fun_induction points us generalizing cs with
  | case1 =>
    obtain rfl := List.map_eq_nil_iff.mp h.symm
    rfl
  | case2 u =>
    obtain ⟨c, cs, rfl, hc, hcs⟩ := List.map_eq_cons_iff.mp h.symm
    obtain rfl := List.map_eq_nil_iff.mp hcs
    simpa using hpoint u c hc.symm
  | case3 u v rest hpair ih =>
    rw [Bool.and_eq_true] at hpair
    obtain ⟨c, cs, rfl, hc, hcs⟩ := List.map_eq_cons_iff.mp h.symm
    rw [List.flatMap_cons, Sum.inl.inj hc, unitsOfChar_pair hpair.1 hpair.2, ih hcs.symm]
    rfl
  | case4 u v rest hpair ih =>
    obtain ⟨c, cs, rfl, hc, hcs⟩ := List.map_eq_cons_iff.mp h.symm
    rw [List.flatMap_cons, hpoint u c hc.symm, ih hcs.symm]
    rfl

@[simp] theorem units_ofUnits (us : List UInt16) : (ofUnits us).units = us := by
  unfold ofUnits
  split
  · rename_i cs h
    simpa [units] using flatMap_of_points (points_of_chars? h)
  · rfl

@[simp] theorem units_whole (s : String) : (whole s).units = s.toList.flatMap unitsOfChar := rfl

@[simp] theorem units_append (s t : Utf16) : (s ++ t).units = s.units ++ t.units := by
  show (append s t).units = _
  unfold append
  split
  · simp [units]
  · rw [units_ofUnits]

theorem spelled_whole_append (s : String) (us : List UInt16) :
    spelled ((whole s).units ++ us) = s.toList ++ spelled us := by
  rw [units_whole]
  induction s.toList with
  | nil => rfl
  | cons c cs ih =>
    rw [List.flatMap_cons, List.append_assoc, spelled, points_unitsOfChar, List.flatMap_cons]
    exact congrArg (c :: ·) ih

/-- A text does not begin with the second half of a pair. -/
theorem spelled_append_whole (us : List UInt16) {s : String} (hs : s ≠ "") (vs : List UInt16) :
    spelled (us ++ ((whole s).units ++ vs)) = spelled us ++ (s.toList ++ spelled vs) := by
  rw [spelled_append, spelled_whole_append]
  refine .of_head? us fun v hv => ?_
  rw [units_whole] at hv
  have hne : s.toList ≠ [] := by simpa using hs
  obtain ⟨c, cs, hcs⟩ := List.exists_cons_of_ne_nil hne
  rw [hcs, List.flatMap_cons, List.append_assoc] at hv
  obtain ⟨u, hu, -, hlow, -⟩ | ⟨-, u, v, huv, hhigh, -, -⟩ := unitsOfChar_cases c
  · rw [hu] at hv
    cases hv
    exact hlow
  · rw [huv] at hv
    cases hv
    rw [isHigh_iff] at hhigh
    rw [Bool.eq_false_iff, Ne, isLow_iff]
    omega

theorem isEmpty_iff (s : Utf16) : s.isEmpty = true ↔ s.units = [] := by
  cases s with
  | whole s =>
    simp [isEmpty, units, unitsOfChar_ne_nil, ← List.eq_nil_iff_forall_not_mem]
  | broken us => simp [isEmpty, units]

theorem spelled_eq_nil_iff : spelled us = [] ↔ us = [] := by
  constructor
  · intro h
    cases us with
    | nil => rfl
    | cons u us =>
      have hpoint : ∀ p, spellPoint p ≠ [] := by
        intro p
        cases p <;> simp [spellPoint]
      cases us with
      | nil => simp [spelled, points, hpoint] at h
      | cons v us =>
        unfold spelled points at h
        split at h <;> simp [hpoint] at h
  · rintro rfl
    rfl

/-! ## Trimming -/

theorem ofUnits_flatMap (cs : List Char) :
    ofUnits (cs.flatMap unitsOfChar) = whole (String.ofList cs) := by
  have hall : ∀ cs : List Char, ((cs.map .inl : List (Char ⊕ UInt16)).mapM fun
      | .inl c => some c
      | .inr _ => none) = some cs := by
    intro cs
    induction cs with
    | nil => rfl
    | cons c cs ih => rw [List.map_cons, List.mapM_cons, ih]; rfl
  have hchars : chars? (cs.flatMap unitsOfChar) = some cs := by
    rw [chars?, points_flatMap]
    exact hall cs
  rw [ofUnits, hchars]

/-- A character that is written with several units is dropped with all of them or not at all. -/
theorem dropWhile_flatMap {α β : Type} {f : α → List β} {p : α → Bool} {q : β → Bool}
    (hdrop : ∀ a, p a = true → ∀ b ∈ f a, q b = true)
    (hkeep : ∀ a, p a = false → ∃ b bs, f a = b :: bs ∧ q b = false) (as : List α) :
    (as.flatMap f).dropWhile q = (as.dropWhile p).flatMap f := by
  induction as with
  | nil => rfl
  | cons a as ih =>
    cases ha : p a with
    | true =>
      rw [List.flatMap_cons, List.dropWhile_append_of_pos (hdrop a ha), ih,
        List.dropWhile_cons_of_pos ha]
    | false =>
      obtain ⟨b, bs, hb, hq⟩ := hkeep a ha
      rw [List.dropWhile_cons_of_neg (by simp [ha]), List.flatMap_cons, hb, List.cons_append,
        List.dropWhile_cons_of_neg (by simp [hq])]

/-- White space is told by units. -/
theorem isSpaceUnit_unitsOfChar (c : Char) : ∀ u ∈ unitsOfChar c, isSpaceUnit u = isSpace c := by
  obtain ⟨u, hu, hhigh, hlow, hc⟩ | ⟨hbig, u, v, huv, hhigh, hlow, -⟩ := unitsOfChar_cases c
  · intro x hx
    rw [hu] at hx
    rw [List.mem_singleton.mp hx, isSpaceUnit, hhigh, hlow, hc]
    rfl
  · have hspace : isSpace c = false := by
      have hmark : c ≠ '\ufeff' := by
        rintro rfl
        exact absurd hbig (by decide)
      have hblank : Text.isBlank c = false := by
        rw [Bool.eq_false_iff]
        intro hblank
        simp only [Text.isBlank, Bool.or_eq_true, Bool.and_eq_true, decide_eq_true_eq,
          beq_iff_eq] at hblank
        omega
      simp [isSpace, hblank, hmark]
    intro x hx
    rw [hspace]
    rw [huv] at hx
    rcases List.mem_cons.mp hx with rfl | hx
    · rw [isSpaceUnit, hhigh]
      rfl
    · rw [List.mem_singleton.mp hx, isSpaceUnit, hlow, Bool.not_true, Bool.and_false,
        Bool.false_and]

theorem trim_whole (s : String) :
    (whole s).trim true true = whole (String.ofList (Text.trimBy isSpace s.toList)) := by
  have hfirst := dropWhile_flatMap (f := unitsOfChar) (p := isSpace) (q := isSpaceUnit)
    (fun c hc u hu => (isSpaceUnit_unitsOfChar c u hu).trans hc) fun c hc => by
      obtain ⟨u, us, hu⟩ := List.exists_cons_of_ne_nil (unitsOfChar_ne_nil c)
      exact ⟨u, us, hu, (isSpaceUnit_unitsOfChar c u (by simp [hu])).trans hc⟩
  have hlast := dropWhile_flatMap (f := List.reverse ∘ unitsOfChar) (p := isSpace)
    (q := isSpaceUnit)
    (fun c hc u hu => (isSpaceUnit_unitsOfChar c u (List.mem_reverse.mp hu)).trans hc) fun c hc => by
      have hne : (unitsOfChar c).reverse ≠ [] := by simpa using unitsOfChar_ne_nil c
      obtain ⟨u, us, hu⟩ := List.exists_cons_of_ne_nil hne
      have hmem : u ∈ (unitsOfChar c).reverse := by simp [hu]
      exact ⟨u, us, hu, (isSpaceUnit_unitsOfChar c u (List.mem_reverse.mp hmem)).trans hc⟩
  have hends : (((s.toList.flatMap unitsOfChar).dropWhile isSpaceUnit).reverse.dropWhile
      isSpaceUnit).reverse = (Text.trimBy isSpace s.toList).flatMap unitsOfChar := by
    rw [hfirst, List.reverse_flatMap, hlast, List.reverse_flatMap, Text.trimBy]
    congr 1
    funext c
    simp
  rw [trim, if_pos rfl, if_pos rfl, units_whole, hends, ofUnits_flatMap]

end Utf16
end Script
end Restyle
