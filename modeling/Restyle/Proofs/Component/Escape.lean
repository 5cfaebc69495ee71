import Restyle.Component.Rendered
import Restyle.Proofs.Markup.Reference
import Restyle.Proofs.Script.Units

/-!
# Restyle.Proofs.Component.Escape

Escaping, as it is done unit by unit when markup is written, and the references that are read back
character by character. Spelling and escaping may be done in either order (`spelled_escaped`), and
decoding undoes escaping (`decode_escaped`).
-/

namespace Restyle
namespace Component

open Script Script.Utf16
open Markup.Entity (decode_cons_of_ne decode_of_reference)

variable {s : Utf16} {us : List UInt16} {u v : UInt16} {c : Char} {q : Bool}

/-! ## Characters -/

/-- A character as it stands in markup; quotation marks are escaped in attributes only. -/
def escaped (q : Bool) (c : Char) : List Char :=
  if c = '&' then ['&', 'a', 'm', 'p', ';']
  else if c = '<' then ['&', 'l', 't', ';']
  else if c = '>' then ['&', 'g', 't', ';']
  else if q = true ∧ c = '"' then ['&', 'q', 'u', 'o', 't', ';']
  else [c]

/-- Characters that may be written another way. -/
def isMark (c : Char) : Bool := c == '&' || c == '<' || c == '>' || c == '"'

theorem isMark_of_le (h : 0x80 ≤ c.toNat) : isMark c = false := by
  rw [Bool.eq_false_iff]
  intro hmark
  simp only [isMark, Bool.or_eq_true, beq_iff_eq] at hmark
  rcases hmark with ((rfl | rfl) | rfl) | rfl <;> exact absurd h (by decide)

theorem escaped_of_not_isMark (h : isMark c = false) : escaped q c = [c] := by
  simp only [isMark, Bool.or_eq_false_iff, beq_eq_false_iff_ne] at h
  simp [escaped, h.1.1.1, h.1.1.2, h.1.2, h.2]

/-- What is escaped does not look like a tag, and in attributes not like the end of the value. -/
theorem ne_of_mem_escaped {d : Char} (h : d ∈ escaped q c) :
    d ≠ '<' ∧ d ≠ '>' ∧ (q = true → d ≠ '"') := by
  have hname : ∀ name : List Char, (∀ d ∈ name, d ≠ '<' ∧ d ≠ '>' ∧ d ≠ '"') → d ∈ name →
      d ≠ '<' ∧ d ≠ '>' ∧ (q = true → d ≠ '"') := by
    intro name hall hd
    obtain ⟨hlt, hgt, hquote⟩ := hall d hd
    exact ⟨hlt, hgt, fun _ => hquote⟩
  unfold escaped at h
  split at h
  · exact hname _ (by simp) h
  · split at h
    · exact hname _ (by simp) h
    · split at h
      · exact hname _ (by simp) h
      · split at h
        · exact hname _ (by simp) h
        · rename_i hlt hgt hquote
          obtain rfl := List.mem_singleton.mp h
          exact ⟨hlt, hgt, fun hq hd => hquote ⟨hq, hd⟩⟩

theorem decode_escaped_append (q : Bool) (c : Char) (cs : List Char) :
    Markup.Entity.decode (escaped q c ++ cs) = c :: Markup.Entity.decode cs := by
  unfold escaped
  split
  · rename_i hc
    subst hc
    exact decode_of_reference ⟨['a', 'm', 'p'], rfl, .inl (.inl (by decide)), by decide⟩
  · rename_i hamp
    split
    · rename_i hc
      subst hc
      exact decode_of_reference ⟨['l', 't'], rfl, .inl (.inl (by decide)), by decide⟩
    · split
      · rename_i hc
        subst hc
        exact decode_of_reference ⟨['g', 't'], rfl, .inl (.inl (by decide)), by decide⟩
      · split
        · rename_i hc
          obtain ⟨-, rfl⟩ := hc
          exact decode_of_reference ⟨['q', 'u', 'o', 't'], rfl, .inl (.inl (by decide)), by decide⟩
        · exact decode_cons_of_ne hamp cs

/-- **Decoding undoes escaping.** -/
theorem decode_escaped (q : Bool) (cs : List Char) :
    Markup.Entity.decode (cs.flatMap (escaped q)) = cs := by
  induction cs with
  | nil => rw [List.flatMap_nil, Markup.Entity.decode]
  | cons c cs ih => rw [List.flatMap_cons, decode_escaped_append, ih]

/-! ## Units -/

/-- The units of what is written for a unit. -/
def escapedUnit (q : Bool) (u : UInt16) : List UInt16 :=
  match point u with
  | .inl c => (escaped q c).flatMap unitsOfChar
  | .inr u => [u]

theorem escapedUnit_of_inr (h : point u = .inr v) : escapedUnit q u = [u] := by
  have huv : v = u := by
    unfold point at h
    split at h
    · exact (Sum.inr.inj h).symm
    · cases h
  rw [escapedUnit, h, huv]

theorem escapedUnit_of_surrogate (h : isHigh u = true ∨ isLow u = true) :
    escapedUnit q u = [u] :=
  escapedUnit_of_inr (v := u) (by simp only [point, Bool.or_eq_true, h, if_true])

theorem point_eq_inl_iff : point u = .inl c ↔ isHigh u = false ∧ isLow u = false ∧
    Char.ofNat u.toNat = c := by
  unfold point
  split
  · rename_i h
    simp only [Bool.or_eq_true] at h
    rcases h with h | h <;> simp [h]
  · rename_i h
    simp only [Bool.or_eq_true, not_or, Bool.not_eq_true] at h
    simp [h]

/-- What is written for a unit ends in a high surrogate only if it is one, and begins with a low one
only if it is one. -/
theorem escapedUnit_ends (q : Bool) (u : UInt16) : escapedUnit q u = [u] ∨
    ((∀ v, (escapedUnit q u).getLast? = some v → isHigh v = false) ∧
      ∃ v rest, escapedUnit q u = v :: rest ∧ isLow v = false ∧ isHigh v = false) := by
  cases h : point u with
  | inr v => exact .inl (escapedUnit_of_inr h)
  | inl c =>
    obtain ⟨hhigh, hlow, rfl⟩ := point_eq_inl_iff.mp h
    have hlast : ∀ us : List UInt16, us.getLast? = some 59 →
        ∀ v, us.getLast? = some v → isHigh v = false := by
      intro us hus v hv
      obtain rfl := Option.some.inj (hus.symm.trans hv)
      rfl
    unfold escapedUnit
    rw [h]
    dsimp only
    unfold escaped
    split
    · exact .inr ⟨hlast _ rfl, _, _, rfl, rfl, rfl⟩
    · split
      · exact .inr ⟨hlast _ rfl, _, _, rfl, rfl, rfl⟩
      · split
        · exact .inr ⟨hlast _ rfl, _, _, rfl, rfl, rfl⟩
        · split
          · exact .inr ⟨hlast _ rfl, _, _, rfl, rfl, rfl⟩
          · left
            rw [List.flatMap_singleton, unitsOfChar_ofNat ⟨hhigh, hlow⟩]

/-- What is written for the digits of a surrogate that stands alone is these digits. -/
theorem isMark_digit {n : Nat} {d : Char} (h : d ∈ (Nat.toDigits 16 n).map Char.toUpper) :
    isMark d = false := by
  obtain ⟨e, he, rfl⟩ := List.mem_map.mp h
  have hdigit : ∀ k < 16, isMark (Nat.digitChar k).toUpper = false := by decide
  induction n using Nat.strongRecOn with
  | _ n ih =>
    rw [Nat.toDigits_eq_if (by decide)] at he
    split at he
    · rename_i hlt
      rw [List.mem_singleton.mp he]
      exact hdigit n hlt
    · rename_i hge
      rcases List.mem_append.mp he with he | he
      · exact ih (n / 16) (by omega) he (List.mem_map.mpr ⟨e, he, rfl⟩)
      · rw [List.mem_singleton.mp he]
        exact hdigit (n % 16) (Nat.mod_lt _ (by decide))

theorem flatMap_escaped_of_plain {cs : List Char} (h : ∀ c ∈ cs, isMark c = false) :
    cs.flatMap (escaped q) = cs := by
  induction cs with
  | nil => rfl
  | cons c cs ih =>
    rw [List.flatMap_cons, escaped_of_not_isMark (h c (List.mem_cons_self ..)),
      ih fun d hd => h d (List.mem_cons_of_mem _ hd)]
    rfl

/-- A unit by itself may be escaped and then spelled, or spelled and then escaped. -/
theorem spelled_escapedUnit (q : Bool) (u : UInt16) :
    spelled (escapedUnit q u) = (spellPoint (point u)).flatMap (escaped q) := by
  cases h : point u with
  | inl c =>
    rw [escapedUnit, h]
    dsimp only
    rw [spelled_flatMap, spellPoint, List.flatMap_singleton]
  | inr v =>
    have hplain : ∀ d ∈ spellPoint (.inr v), isMark d = false := by
      intro d hd
      rcases List.mem_cons.mp hd with rfl | hd
      · decide
      · rcases List.mem_cons.mp hd with rfl | hd
        · decide
        · exact isMark_digit hd
    rw [flatMap_escaped_of_plain hplain, escapedUnit_of_inr h, spelled,
      show points [u] = [point u] from rfl, List.flatMap_singleton, h]

/-- **Escaping and spelling may be done in either order.** -/
theorem spelled_escaped (q : Bool) (us : List UInt16) :
    spelled (us.flatMap (escapedUnit q)) = (spelled us).flatMap (escaped q) := by
  fun_induction points us with
  | case1 => rfl
  | case2 u =>
    rw [List.flatMap_singleton, spelled_escapedUnit]
    simp [spelled, points, point]
  | case3 u v rest hpair ih =>
    rw [Bool.and_eq_true] at hpair
    have hplain : isMark (pair u v) = false :=
      isMark_of_le (by rw [toNat_pair hpair.1 hpair.2]; omega)
    rw [List.flatMap_cons, List.flatMap_cons, escapedUnit_of_surrogate (.inl hpair.1),
      escapedUnit_of_surrogate (.inr hpair.2), List.singleton_append, List.singleton_append,
      spelled_pair hpair.1 hpair.2, ih, spelled_pair hpair.1 hpair.2, List.flatMap_cons,
      escaped_of_not_isMark hplain, List.singleton_append]
  | case4 u v rest hpair ih =>
    have hnot : (isHigh u && isLow v) = false := Bool.eq_false_iff.mpr hpair
    have hhead : ∀ w, (v :: rest).head? = some w → (isHigh u && isLow w) = false := by
      rintro _ ⟨⟩
      exact hnot
    -- what is written for two units is no pair where the units are none
    have hapart : Apart (escapedUnit q u) ((v :: rest).flatMap (escapedUnit q)) := by
      obtain hu | ⟨hu, -⟩ := escapedUnit_ends q u
      · intro x y hx hy
        rw [hu] at hx
        cases hx
        rw [List.flatMap_cons] at hy
        obtain hv | ⟨-, w, ws, hv, hlow, -⟩ := escapedUnit_ends q v
        · rw [hv] at hy
          cases hy
          exact hnot
        · rw [hv] at hy
          cases hy
          rw [hlow, Bool.and_false]
      · exact .of_getLast? hu _
    rw [List.flatMap_cons, spelled_append hapart, ih, spelled_escapedUnit,
      spelled_cons hhead, List.flatMap_append]

/-! ## Written text -/

/-- What replacing a character by a text does to a unit. -/
def replacedUnit (c : Char) (text : String) (u : UInt16) : List UInt16 :=
  if u.toNat = c.toNat then text.toList.flatMap unitsOfChar else [u]

theorem toNat_of_mem_unitsOfChar (h : u ∈ unitsOfChar c) : u.toNat = c.toNat ∨ 0xD800 ≤ u.toNat := by
  have hmax := toNat_lt_max c
  unfold unitsOfChar at h
  dsimp only at h
  split at h
  · rename_i hsmall
    rw [List.mem_singleton.mp h]
    exact .inl (toNat_toUInt16 hsmall)
  · right
    rcases List.mem_cons.mp h with rfl | h
    · rw [toNat_toUInt16 (by omega)]
      omega
    · rw [List.mem_singleton.mp h, toNat_toUInt16 (by omega)]
      omega

theorem flatMap_replacedUnit_of_ne {text : String} (h : ∀ u ∈ us, u.toNat ≠ c.toNat) :
    us.flatMap (replacedUnit c text) = us := by
  induction us with
  | nil => rfl
  | cons u us ih =>
    rw [List.flatMap_cons, ih fun v hv => h v (List.mem_cons_of_mem _ hv), replacedUnit,
      if_neg (h u (List.mem_cons_self ..))]
    rfl

theorem units_replaceUnit (s : Utf16) (hc : c.toNat < 0x80) (text : String) :
    (s.replaceUnit c text).units = s.units.flatMap (replacedUnit c text) := by
  cases s with
  | broken us =>
    rw [replaceUnit, units_ofUnits]
    simp only [beq_iff_eq]
    rfl
  | whole s =>
    rw [replaceUnit, units_whole, String.toList_ofList, List.flatMap_assoc, units_whole,
      List.flatMap_assoc]
    congr 1
    funext d
    by_cases hd : d = c
    · subst hd
      have hsmall : d.toNat < 0x10000 := by omega
      simp [unitsOfChar, hsmall, replacedUnit, Nat.mod_eq_of_lt hsmall]
    · have hne : ∀ u ∈ unitsOfChar d, u.toNat ≠ c.toNat := by
        intro u hu heq
        rcases toNat_of_mem_unitsOfChar hu with h | h
        · exact hd (Char.toNat_inj.mp (h.symm.trans heq))
        · omega
      rw [flatMap_replacedUnit_of_ne hne]
      simp [hd]

theorem escapedUnit_of_ne (hamp : u.toNat ≠ 38) (hlt : u.toNat ≠ 60) (hgt : u.toNat ≠ 62)
    (hquote : u.toNat ≠ 34) : escapedUnit q u = [u] := by
  cases h : point u with
  | inr v => exact escapedUnit_of_inr h
  | inl c =>
    obtain ⟨hhigh, hlow, rfl⟩ := point_eq_inl_iff.mp h
    have hunits := unitsOfChar_ofNat ⟨hhigh, hlow⟩
    have hplain : isMark (Char.ofNat u.toNat) = false := by
      rw [Bool.eq_false_iff]
      intro hmark
      simp only [isMark, Bool.or_eq_true, beq_iff_eq] at hmark
      rcases hmark with ((hc | hc) | hc) | hc <;> rw [hc] at hunits
      · exact hamp (by rw [← (List.cons.inj hunits).1]; decide)
      · exact hlt (by rw [← (List.cons.inj hunits).1]; decide)
      · exact hgt (by rw [← (List.cons.inj hunits).1]; decide)
      · exact hquote (by rw [← (List.cons.inj hunits).1]; decide)
    rw [escapedUnit, h]
    dsimp only
    rw [escaped_of_not_isMark hplain, List.flatMap_singleton, hunits]

/-- Three or four replacements one after the other are one for each unit. -/
theorem flatMap_replacedUnit (u : UInt16) :
    ((replacedUnit '&' "&amp;" u).flatMap (replacedUnit '<' "&lt;")).flatMap
      (replacedUnit '>' "&gt;") = escapedUnit false u ∧
    (escapedUnit false u).flatMap (replacedUnit '"' "&quot;") = escapedUnit true u := by
  by_cases hamp : u.toNat = 38
  · obtain rfl : u = 38 := UInt16.toNat_inj.mp hamp
    decide
  by_cases hlt : u.toNat = 60
  · obtain rfl : u = 60 := UInt16.toNat_inj.mp hlt
    decide
  by_cases hgt : u.toNat = 62
  · obtain rfl : u = 62 := UInt16.toNat_inj.mp hgt
    decide
  by_cases hquote : u.toNat = 34
  · obtain rfl : u = 34 := UInt16.toNat_inj.mp hquote
    decide
  have h₁ : replacedUnit '&' "&amp;" u = [u] := if_neg hamp
  have h₂ : replacedUnit '<' "&lt;" u = [u] := if_neg hlt
  have h₃ : replacedUnit '>' "&gt;" u = [u] := if_neg hgt
  have h₄ : replacedUnit '"' "&quot;" u = [u] := if_neg hquote
  rw [escapedUnit_of_ne hamp hlt hgt hquote, escapedUnit_of_ne hamp hlt hgt hquote, h₁,
    List.flatMap_singleton, h₂, List.flatMap_singleton, h₃, List.flatMap_singleton, h₄]
  exact ⟨rfl, rfl⟩

theorem units_escapeText (s : Utf16) : (escapeText s).units = s.units.flatMap (escapedUnit false) := by
  rw [escapeText, units_replaceUnit _ (by decide), units_replaceUnit _ (by decide),
    units_replaceUnit _ (by decide), List.flatMap_assoc, List.flatMap_assoc]
  congr 1
  funext u
  rw [← List.flatMap_assoc]
  exact (flatMap_replacedUnit u).1

theorem units_escapeAttribute (s : Utf16) :
    (escapeAttribute s).units = s.units.flatMap (escapedUnit true) := by
  rw [escapeAttribute, units_replaceUnit _ (by decide), units_escapeText, List.flatMap_assoc]
  congr 1
  funext u
  exact (flatMap_replacedUnit u).2

end Component
end Restyle
