import Mathlib
import Restyle.Markup.Reader

/-!
# Restyle.Proofs.Markup.Name

Names of tags are made of letters, digits, hyphens, underscores and colons, and so is the tag of
every element that a tag describes (`isName_element`).
-/

namespace Restyle

/-- Only capitals have another small form. -/
theorem Text.toLower_eq_or (c : Char) : c.toLower = c ∨ 65 ≤ c.toNat ∧ c.toNat < 91 := by
  by_cases hupper : c.val ≥ 'A'.val ∧ c.val ≤ 'Z'.val
  · right
    simp only [ge_iff_le, UInt32.le_iff_toNat_le] at hupper
    exact ⟨hupper.1, Nat.lt_succ_of_le hupper.2⟩
  · exact .inl (dif_neg hupper)

/-- A class of characters with the small form of every capital is closed under small forms. -/
theorem Text.toLower_of_class {p : Char → Bool}
    (hcapital : ∀ n < 91, 65 ≤ n → p (Char.ofNat n).toLower = true) {c : Char} (h : p c = true) :
    p c.toLower = true := by
  obtain hsame | ⟨hge, hlt⟩ := Text.toLower_eq_or c
  · rwa [hsame]
  · have := hcapital c.toNat hlt hge
    rwa [Char.ofNat_toNat] at this

@[simp] theorem Text.lower_lower (s : String) : Text.lower (Text.lower s) = Text.lower s := by
  simp [Text.lower, Function.comp_def]

namespace Markup
namespace Tag

/-- All characters are those of names. -/
def IsName (s : String) : Prop := ∀ c ∈ s.toList, isNameChar c = true

theorem isNameChar_toLower {c : Char} (h : isNameChar c = true) : isNameChar c.toLower = true :=
  Text.toLower_of_class (by decide) h

theorem isName_folded {cs : List Char} (h : ∀ c ∈ cs, isNameChar c = true) :
    IsName (folded cs) := by
  intro c hc
  rw [folded, String.toList_ofList] at hc
  obtain ⟨x, hx, rfl⟩ := List.mem_map.mp hc
  exact isNameChar_toLower (h x hx)

theorem isName_lower {s : String} (h : IsName s) : IsName (Text.lower s) :=
  isName_folded h

/-- Attributes do not change the name. -/
theorem name_readAttributes? {tag t : Tag} {cs rest : List Char}
    (h : readAttributes? tag cs = some (t, rest)) : t.name = tag.name := by
  fun_induction readAttributes? tag cs with
  | case1 => cases h
  | case2 => cases h; rfl
  | case3 => cases h; rfl
  | case4 => cases h
  | case5 tag cs c r _ _ hc after ha ih => exact ih h
  | case6 tag cs c r _ _ hc a after ha ih => exact ih h

theorem exists_folded_readNamed? {closing : Bool} {cs rest : List Char} {t : Tag}
    (h : readNamed? closing cs = some (t, rest)) :
    ∃ name, (∀ c ∈ name, isNameChar c = true) ∧ t.name = folded name := by
  unfold readNamed? at h
  split at h
  · cases h
  · exact ⟨_, fun c hc => List.all_eq_true.mp List.all_takeWhile c hc, name_readAttributes? h⟩

theorem exists_folded_read? {cs rest : List Char} {t : Tag} (h : read? cs = some (t, rest)) :
    ∃ name, (∀ c ∈ name, isNameChar c = true) ∧ t.name = folded name := by
  unfold read? at h
  split at h <;> exact exists_folded_readNamed? h

/-- The name of a tag that was read is a name in small letters. -/
theorem exists_folded_next {c : Char} {cs rest : List Char} {t : Tag}
    (h : Piece.next c cs = (.tag t, rest)) :
    ∃ name, (∀ c ∈ name, isNameChar c = true) ∧ t.name = folded name := by
  unfold Piece.next at h
  split at h
  · cases h
  · split at h
    · cases h
    · cases h
    · cases h
    · split at h
      · rename_i hread
        cases h
        exact exists_folded_read? hread
      · cases h

theorem isName_next {c : Char} {cs rest : List Char} {t : Tag}
    (h : Piece.next c cs = (.tag t, rest)) : IsName t.name := by
  obtain ⟨name, hname, heq⟩ := exists_folded_next h
  rw [heq]
  exact isName_folded hname

theorem lower_next {c : Char} {cs rest : List Char} {t : Tag}
    (h : Piece.next c cs = (.tag t, rest)) : Text.lower t.name = t.name := by
  obtain ⟨name, -, heq⟩ := exists_folded_next h
  rw [heq]
  simp [Text.lower, folded, Function.comp_def]

/-- Attributes do not change the tag. -/
theorem tag_element (t : Tag) : t.element.tag = Text.lower t.name := by
  unfold element
  refine List.foldlRecOn (motive := fun (e : Element) => e.tag = Text.lower t.name) _ _ rfl ?_
  rintro e he ⟨name, value⟩ -
  dsimp only
  split <;> exact he

theorem isName_element {t : Tag} (h : IsName t.name) : IsName t.element.tag := by
  rw [tag_element]
  exact isName_lower h

end Tag
end Markup
end Restyle
