import Restyle.Proofs.Component.Escape
import Restyle.Proofs.Document.Outline

/-!
# Restyle.Proofs.Markup.Written

Tags as the renderer writes them are read back: the name, and after a space each attribute with its
value escaped in quotation marks. One lemma for each piece says what the reader makes of it, whatever
follows.
-/

namespace Restyle
namespace Markup

open Component (escaped decode_escaped ne_of_mem_escaped)

variable {c : Char} {cs rest : List Char} {name value : String} {a : String × String}
  {attributes : List (String × String)}

/-! ## Names -/

/-- Small letters, digits and hyphens. -/
def isHostChar (c : Char) : Bool := c.isLower || c.isDigit || c == '-'

/-- Names of elements of the page: a small letter, then small letters, digits and hyphens. -/
def IsHostName (s : String) : Prop :=
  ∃ c cs, s.toList = c :: cs ∧ c.isLower = true ∧ ∀ d ∈ cs, isHostChar d = true

theorem isHostName_iff (h : name.toList = c :: cs) :
    IsHostName name ↔ c.isLower = true ∧ cs.all isHostChar = true := by
  rw [List.all_eq_true]
  constructor
  · rintro ⟨_, _, hname, hall⟩
    cases h.symm.trans hname
    exact hall
  · exact fun hall => ⟨c, cs, h, hall⟩

instance : DecidablePred IsHostName := fun name =>
  match h : name.toList with
  | [] => isFalse fun ⟨_, _, hname, _⟩ => List.cons_ne_nil _ _ (hname.symm.trans h)
  | _ :: _ => decidable_of_iff _ (isHostName_iff h).symm

theorem toNat_of_isLower (h : c.isLower = true) : 97 ≤ c.toNat ∧ c.toNat ≤ 122 := by
  have hbounds : (decide (c.val ≥ 97) && decide (c.val ≤ 122)) = true := h
  rw [Bool.and_eq_true, decide_eq_true_iff, decide_eq_true_iff] at hbounds
  exact hbounds

/-- What holds of all host characters in a table holds of every one. -/
theorem of_isHostChar {p : Char → Bool}
    (htable : ∀ n < 128, isHostChar (Char.ofNat n) = true → p (Char.ofNat n) = true)
    (h : isHostChar c = true) : p c = true := by
  have hlt : c.toNat < 128 := by
    simp only [isHostChar, Char.isDigit, Bool.or_eq_true, Bool.and_eq_true, decide_eq_true_eq,
      beq_iff_eq, UInt32.le_iff_toNat_le] at h
    rcases h with (h | ⟨-, h⟩) | rfl
    · exact Nat.lt_of_le_of_lt (toNat_of_isLower h).2 (by decide)
    · exact Nat.lt_of_le_of_lt h (by decide)
    · decide
  have := htable c.toNat hlt
  rw [Char.ofNat_toNat] at this
  exact this h

theorem isHostChar_of_isLower (h : c.isLower = true) : isHostChar c = true := by
  simp [isHostChar, h]

theorem IsHostName.all (h : IsHostName name) : ∀ d ∈ name.toList, isHostChar d = true := by
  obtain ⟨c, cs, hs, hc, hcs⟩ := h
  rw [hs]
  exact List.forall_mem_cons.mpr ⟨isHostChar_of_isLower hc, hcs⟩

theorem isNameChar_of_isHostChar (h : isHostChar c = true) : Tag.isNameChar c = true :=
  of_isHostChar (by decide) h

theorem isAttributeChar_of_isHostChar (h : isHostChar c = true) : Tag.isAttributeChar c = true :=
  of_isHostChar (by decide) h

theorem toLower_of_isHostChar (h : isHostChar c = true) : c.toLower = c :=
  beq_iff_eq.mp (of_isHostChar (p := fun c => c.toLower == c) (by decide) h)

theorem IsHostName.lower (h : IsHostName name) : Text.lower name = name := by
  have hmap : name.toList.map Char.toLower = name.toList := by
    rw [List.map_congr_left fun d hd => toLower_of_isHostChar (h.all d hd), List.map_id']
  rw [Text.lower, hmap, String.ofList_toList]

theorem IsHostName.folded (h : IsHostName name) : Tag.folded name.toList = name :=
  h.lower

/-! ## Attributes -/

/-- An attribute in a tag, after a space. -/
def writtenAttribute (a : String × String) : List Char :=
  ' ' :: (a.1.toList ++ '=' :: '"' :: (a.2.toList.flatMap (escaped true) ++ ['"']))

theorem readValue?_written (value : String) (rest : List Char) :
    Tag.readValue? ('"' :: (value.toList.flatMap (escaped true) ++ '"' :: rest)) =
      some (value, rest) := by
  have hquote : ∀ d ∈ value.toList.flatMap (escaped true), (d != '"') = true := by
    intro d hd
    obtain ⟨c, -, hd⟩ := List.mem_flatMap.mp hd
    simpa using (ne_of_mem_escaped hd).2.2
  have hskip : ∀ cs, Tag.skipSpaces ('"' :: cs) = '"' :: cs := fun cs => rfl
  unfold Tag.readValue?
  rw [hskip]
  dsimp only
  rw [if_pos (by decide), List.dropWhile_append_of_pos hquote, List.takeWhile_append_of_pos hquote]
  simp [decode_escaped]

theorem readAttribute?_written (hc : isHostChar c = true) (hcs : ∀ d ∈ cs, isHostChar d = true)
    (value : String) (rest : List Char) :
    Tag.readAttribute? c (cs ++ '=' :: '"' :: (value.toList.flatMap (escaped true) ++ '"' :: rest)) =
      some (some (Tag.folded (c :: cs), value), rest) := by
  have hname : ∀ d ∈ cs, Tag.isAttributeChar d = true :=
    fun d hd => isAttributeChar_of_isHostChar (hcs d hd)
  have hskip : ∀ cs, Tag.skipSpaces ('=' :: cs) = '=' :: cs := fun cs => rfl
  have hstop : Tag.isAttributeChar '=' = false := by decide
  unfold Tag.readAttribute?
  rw [if_pos (isAttributeChar_of_isHostChar hc), List.takeWhile_append_of_pos hname,
    List.dropWhile_append_of_pos hname]
  simp [hstop, hskip, readValue?_written]

theorem readAttributes?_end {tag : Tag} (h : Tag.skipSpaces cs = '>' :: rest) :
    Tag.readAttributes? tag cs = some (tag, rest) := by
  rw [Tag.readAttributes?]
  split
  · rename_i hc; rw [h] at hc; cases hc
  · rename_i hc; rw [h] at hc; cases hc; rfl
  · rename_i hc; rw [h] at hc; cases hc
  · rename_i hne _ hc
    rw [h] at hc
    cases hc
    exact absurd rfl hne

theorem readAttributes?_cons {tag : Tag} {after : List Char} (h : Tag.skipSpaces cs = c :: rest)
    (hend : c ≠ '>') (hslash : c ≠ '/') (ha : Tag.readAttribute? c rest = some (some a, after)) :
    Tag.readAttributes? tag cs =
      Tag.readAttributes? { tag with attributes := tag.attributes ++ [a] } after := by
  rw [Tag.readAttributes?]
  split
  · rename_i hc; rw [h] at hc; cases hc
  · rename_i hc; rw [h] at hc; cases hc; exact absurd rfl hend
  · rename_i hc; rw [h] at hc; cases hc; exact absurd rfl hslash
  · rename_i hc
    rw [h] at hc
    cases hc
    split
    · rename_i heq; rw [ha] at heq; cases heq
    · rename_i heq; rw [ha] at heq; cases heq
    · rename_i heq; rw [ha] at heq; cases heq; rfl

/-- Attributes up to the end of the tag. -/
theorem readAttributes?_written (tag : Tag) (ha : ∀ a ∈ attributes, IsHostName a.1)
    (rest : List Char) :
    Tag.readAttributes? tag (attributes.flatMap writtenAttribute ++ '>' :: rest) =
      some ({ tag with attributes := tag.attributes ++ attributes }, rest) := by
  induction attributes generalizing tag with
  | nil =>
    rw [List.append_nil]
    exact readAttributes?_end rfl
  | cons a attributes ih =>
    have hname := ha a (List.mem_cons_self ..)
    have hfolded := hname.folded
    obtain ⟨c, cs, hs, hc, hcs⟩ := hname
    rw [hs] at hfolded
    have hhost := isHostChar_of_isLower hc
    have hvisible : Text.isSpace c = false ∧ c ≠ '>' ∧ c ≠ '/' := by
      have := isAttributeChar_of_isHostChar hhost
      simp [Tag.isAttributeChar] at this
      simp [this]
    let after := attributes.flatMap writtenAttribute ++ '>' :: rest
    have hread := readAttribute?_written hhost hcs a.2 after
    rw [hfolded] at hread
    have hskip : Tag.skipSpaces ((a :: attributes).flatMap writtenAttribute ++ '>' :: rest) =
        c :: (cs ++ '=' :: '"' :: (a.2.toList.flatMap (escaped true) ++ '"' :: after)) := by
      rw [List.flatMap_cons, writtenAttribute, hs]
      have hdrop : ∀ cs, Tag.skipSpaces (' ' :: c :: cs) = c :: cs := by
        intro cs
        have hblank : Text.isSpace ' ' = true := by decide
        simp [Tag.skipSpaces, hblank, hvisible.1]
      simp only [List.cons_append, List.append_assoc, hdrop, List.nil_append, after]
    rw [readAttributes?_cons hskip hvisible.2.1 hvisible.2.2 hread,
      ih _ fun b hb => ha b (List.mem_cons_of_mem _ hb)]
    simp

/-! ## Tags -/

/-- What follows the name in a tag does not go on with it. -/
theorem takeWhile_isNameChar (h : IsHostName name) (hrest : ∀ d, cs.head? = some d → Tag.isNameChar d = false) :
    (name.toList ++ cs).takeWhile Tag.isNameChar = name.toList ∧
      (name.toList ++ cs).dropWhile Tag.isNameChar = cs := by
  have hname : ∀ d ∈ name.toList, Tag.isNameChar d = true :=
    fun d hd => isNameChar_of_isHostChar (h.all d hd)
  rw [List.takeWhile_append_of_pos hname, List.dropWhile_append_of_pos hname]
  cases cs with
  | nil => simp
  | cons d cs => simp [hrest d rfl]

theorem readNamed?_written (closing : Bool) (h : IsHostName name)
    (ha : ∀ a ∈ attributes, IsHostName a.1) (rest : List Char) :
    Tag.readNamed? closing (name.toList ++ (attributes.flatMap writtenAttribute ++ '>' :: rest)) =
      some ({ name, attributes, closing }, rest) := by
  have hstop : ∀ d, (attributes.flatMap writtenAttribute ++ '>' :: rest).head? = some d →
      Tag.isNameChar d = false := by
    intro d hd
    cases attributes with
    | nil => cases hd; decide
    | cons a attributes => cases hd; decide
  obtain ⟨htake, hdrop⟩ := takeWhile_isNameChar h hstop
  have hfolded := h.folded
  obtain ⟨c, cs, hs, -, -⟩ := h
  unfold Tag.readNamed?
  rw [htake, hdrop, hs]
  dsimp only
  rw [← hs, readAttributes?_written _ ha, hfolded]
  simp

theorem read?_start (h : IsHostName name) (ha : ∀ a ∈ attributes, IsHostName a.1)
    (rest : List Char) :
    Tag.read? (name.toList ++ (attributes.flatMap writtenAttribute ++ '>' :: rest)) =
      some ({ name, attributes }, rest) := by
  have hnamed := readNamed?_written false h ha rest
  obtain ⟨c, cs, hs, hc, -⟩ := h
  have hslash : c ≠ '/' := by
    rintro rfl
    cases hc
  unfold Tag.read?
  rw [hs] at hnamed ⊢
  split
  · rename_i heq
    exact absurd (List.cons.inj heq).1 hslash
  · exact hnamed

theorem read?_end (h : IsHostName name) (rest : List Char) :
    Tag.read? ('/' :: (name.toList ++ '>' :: rest)) = some ({ name, closing := true }, rest) :=
  have hnone : ∀ a ∈ ([] : List (String × String)), IsHostName a.1 := fun _ ha => by cases ha
  readNamed?_written true h hnone rest

/-- A name is not the beginning of a comment. -/
theorem next_start (h : IsHostName name) (ha : ∀ a ∈ attributes, IsHostName a.1)
    (rest : List Char) :
    Piece.next '<' (name.toList ++ (attributes.flatMap writtenAttribute ++ '>' :: rest)) =
      (.tag { name, attributes }, rest) := by
  have hread := read?_start h ha rest
  obtain ⟨c, cs, hs, hc, -⟩ := h
  have hmark : c ≠ '!' ∧ c ≠ '?' := by
    constructor <;> (rintro rfl; cases hc)
  rw [hs] at hread ⊢
  unfold Piece.next
  rw [if_neg (by decide)]
  split
  · rename_i heq; exact absurd (List.cons.inj heq).1 hmark.1
  · rename_i heq; exact absurd (List.cons.inj heq).1 hmark.1
  · rename_i heq; exact absurd (List.cons.inj heq).1 hmark.2
  · rw [hread]

theorem next_end (h : IsHostName name) (rest : List Char) :
    Piece.next '<' ('/' :: (name.toList ++ '>' :: rest)) =
      (.tag { name, closing := true }, rest) := by
  unfold Piece.next
  rw [if_neg (by decide)]
  split
  · rename_i heq; cases heq
  · rename_i heq; cases heq
  · rename_i heq; cases heq
  · rw [read?_end h rest]

/-- Text up to the next tag. -/
theorem next_text (hc : c ≠ '<') (hcs : ∀ d ∈ cs, d ≠ '<')
    (hrest : ∀ d, rest.head? = some d → d = '<') :
    Piece.next c (cs ++ rest) = (.text (c :: cs), rest) := by
  have htext : ∀ d ∈ cs, (d != '<') = true := fun d hd => by simpa using hcs d hd
  unfold Piece.next
  rw [if_pos (by simpa using hc), List.takeWhile_append_of_pos htext,
    List.dropWhile_append_of_pos htext]
  cases rest with
  | nil => simp
  | cons d rest => simp [hrest d rfl]

/-! ## Elements -/

theorem putAttribute_of_new {attributes : List (String × String)} (hname : Text.lower name = name)
    (ha : ∀ a ∈ attributes, Text.lower a.1 = a.1 ∧ a.1 ≠ name) (value : String) :
    Element.putAttribute name value attributes = attributes ++ [(name, value)] := by
  induction attributes with
  | nil => rfl
  | cons a attributes ih =>
    obtain ⟨hlower, hne⟩ := ha a (List.mem_cons_self ..)
    have hfolded : Text.sameFolded a.1 name = false := by
      simp [Text.sameFolded, hlower, hname, hne]
    rw [Element.putAttribute, if_neg (by simp [hfolded]),
      ih fun b hb => ha b (List.mem_cons_of_mem _ hb)]
    rfl

/-- An element with one more attribute as it is written. -/
def Tag.setWritten (e : Element) (a : String × String) : Element :=
  if a.1 == "style" then
    { e with
      style := .ofDeclarations
        ((Stylesheet.parseDeclarations a.2).map fun d => (d.name, d.value)) }
  else e.setAttribute a.1 a.2

theorem Tag.element_eq (t : Tag) :
    t.element = t.attributes.foldl Tag.setWritten (Element.ofTag t.name) := rfl

/-- The element has the attributes of the tag, in order. -/
theorem element_written (h : IsHostName name) (ha : ∀ a ∈ attributes, IsHostName a.1 ∧ a.1 ≠ "style")
    (hnodup : (attributes.map (·.1)).Nodup) :
    Tag.element { name, attributes } = { tag := name, attributes } := by
  have hfold : ∀ (before after : List (String × String)) (e : Element),
      (∀ a ∈ before ++ after, IsHostName a.1 ∧ a.1 ≠ "style") →
      ((before ++ after).map (·.1)).Nodup → e.attributes = before →
      after.foldl Tag.setWritten e = { e with attributes := before ++ after } := by
    intro before after
    induction after generalizing before with
    | nil =>
      intro e _ _ he
      simp [← he]
    | cons a after ih =>
      intro e hall hnodup he
      have hmem : a ∈ before ++ a :: after := by simp
      have hput : Element.putAttribute a.1 a.2 before = before ++ [a] := by
        refine putAttribute_of_new (hall a hmem).1.lower (fun b hb => ?_) a.2
        refine ⟨(hall b (List.mem_append_left _ hb)).1.lower, fun heq => ?_⟩
        rw [List.map_append, List.map_cons, List.nodup_append] at hnodup
        exact hnodup.2.2 b.1 (List.mem_map.mpr ⟨b, hb, rfl⟩) a.1 (List.mem_cons_self ..) heq
      have hset : Tag.setWritten e a = { e with attributes := before ++ [a] } := by
        rw [Tag.setWritten, if_neg (by simpa using (hall _ hmem).2), Element.setAttribute, he, hput]
      have hsplit : before ++ a :: after = (before ++ [a]) ++ after := by simp
      rw [hsplit] at hall hnodup ⊢
      rw [List.foldl_cons, hset, ih _ _ hall hnodup rfl]
  have htag : Element.ofTag name = { tag := name } := by rw [Element.ofTag, h.lower]
  rw [Tag.element_eq, htag]
  exact hfold [] attributes _ ha hnodup rfl

end Markup
end Restyle
