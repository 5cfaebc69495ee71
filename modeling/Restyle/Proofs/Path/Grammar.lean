import Mathlib.Data.List.Forall2
import Restyle.Proofs.Path.Text

/-!
# Restyle.Proofs.Path.Grammar

The grammar of path texts. A text is cut at its arrows into pieces (`Text.IsCut`); a piece spells a
step when it is, but for blanks around it, a tag and an index in brackets (`Step.Spelled`).

Reading accepts the blank text, which is the path of the root, and the texts all of whose pieces
spell steps. Of any other text the error is the first piece that spells none. What is accepted is
written and read back as the same path (`Path.parse_iff_padded`).
-/

namespace Restyle

namespace Text

variable {sep : Char} {cs : List Char} {pieces : List (List Char)}

/-- The pieces between the marks of a text. -/
structure IsCut (sep : Char) (cs : List Char) (pieces : List (List Char)) : Prop where
  ne_nil : pieces ≠ []
  clear : ∀ piece ∈ pieces, sep ∉ piece
  joined : [sep].intercalate pieces = cs

theorem IsCut.cons_sep (h : IsCut sep cs pieces) : IsCut sep (sep :: cs) ([] :: pieces) where
  ne_nil := List.cons_ne_nil _ _
  clear := List.forall_mem_cons.mpr ⟨List.not_mem_nil, h.clear⟩
  joined := by
    obtain ⟨piece, rest, rfl⟩ := List.exists_cons_of_ne_nil h.ne_nil
    rw [List.intercalate_cons_cons, h.joined]
    rfl

theorem IsCut.cons {piece : List Char} {c : Char} (h : IsCut sep cs (piece :: pieces))
    (hc : c ≠ sep) : IsCut sep (c :: cs) ((c :: piece) :: pieces) where
  ne_nil := List.cons_ne_nil _ _
  clear := by
    obtain ⟨hpiece, hpieces⟩ := List.forall_mem_cons.mp h.clear
    refine List.forall_mem_cons.mpr ⟨fun hmem => ?_, hpieces⟩
    rcases List.mem_cons.mp hmem with rfl | hmem
    · exact hc rfl
    · exact hpiece hmem
  joined := by
    rw [← h.joined]
    cases pieces with
    | nil => simp
    | cons second rest => simp [List.intercalate_cons_cons]

theorem isCut_splitAt (sep : Char) (cs : List Char) : IsCut sep cs (splitAt sep cs) := by
  unfold splitAt
  induction cs with
  | nil => exact ⟨List.cons_ne_nil _ _, by simp [splitBy], by simp [splitBy]⟩
  | cons c cs ih =>
    unfold splitBy
    by_cases hc : c = sep
    · subst hc
      rw [if_pos (beq_self_eq_true c)]
      exact ih.cons_sep
    · rw [if_neg (by simpa using hc)]
      obtain ⟨piece, rest, hsplit⟩ := List.exists_cons_of_ne_nil ih.ne_nil
      rw [hsplit] at ih ⊢
      exact ih.cons hc

/-- A text is cut in one way. -/
theorem isCut_iff : IsCut sep cs pieces ↔ pieces = splitAt sep cs := by
  constructor
  · intro h
    rw [← h.joined, splitAt_intercalate h.ne_nil h.clear]
  · rintro rfl
    exact isCut_splitAt sep cs

end Text

/-! ## Steps -/

namespace Step

/-- A tag and an index in brackets: the tag is read in small letters, the index must be in
bounds. -/
inductive Spelled : List Char → Step → Prop where
  | mk {tag digits : List Char} (tag_ne_nil : tag ≠ [])
      (isTagChar : ∀ c ∈ tag, Path.isTagChar c = true) (digits_ne_nil : digits ≠ [])
      (isDigit : ∀ c ∈ digits, c.isDigit = true)
      (lt_indexBound : Text.decimal digits < Path.indexBound) :
      Spelled (tag ++ '[' :: (digits ++ [']']))
        ⟨String.ofList (tag.map Char.toLower), Text.decimal digits⟩

/-- A step with any blanks around it. -/
def Padded (piece : List Char) (s : Step) : Prop :=
  Spelled (Text.trimBy Text.isBlank piece) s

variable {cs piece : List Char} {s : Step}

theorem isNameChar_of_isTagChar {c : Char} (h : Path.isTagChar c = true) :
    Markup.Tag.isNameChar c = true := by
  unfold Markup.Tag.isNameChar
  unfold Path.isTagChar at h
  rw [h, Bool.true_or]

theorem isTagChar_toLower {c : Char} (h : Path.isTagChar c = true) :
    Path.isTagChar c.toLower = true :=
  Text.toLower_of_class (by decide) h

/-- What is spelled is a step whose text reads. -/
theorem Spelled.isFolded_isReadable (h : Spelled cs s) : s.IsFolded ∧ s.IsReadable := by
  cases h with
  | @mk tag digits htag hchars _ _ hbound =>
    have hlower : ∀ c ∈ (String.ofList (tag.map Char.toLower)).toList,
        Path.isTagChar c = true := by
      intro c hc
      rw [String.toList_ofList] at hc
      obtain ⟨x, hx, rfl⟩ := List.mem_map.mp hc
      exact isTagChar_toLower (hchars x hx)
    have hfolded : Text.lower (String.ofList (tag.map Char.toLower)) =
        String.ofList (tag.map Char.toLower) := by
      simpa [Text.lower] using Text.lower_lower (String.ofList tag)
    refine ⟨⟨fun c hc => isNameChar_of_isTagChar (hlower c hc), by simpa using htag, hfolded⟩,
      fun hcolon => ?_, hbound⟩
    exact absurd (hlower _ hcolon) (by decide)

theorem Spelled.parseStep?_eq (h : Spelled cs s) : Path.parseStep? cs = some s := by
  cases h with
  | @mk tag digits htag hchars hdigits hdigit hbound =>
    have hopen : ∀ c ∈ tag, (c != '[') = true := by
      intro c hc
      rw [bne_iff_ne]
      rintro rfl
      exact absurd (hchars _ hc) (by decide)
    unfold Path.parseStep?
    rw [List.takeWhile_append_of_pos hopen, List.dropWhile_append_of_pos hopen]
    simp [htag, hdigits, hbound, List.all_eq_true.mpr hchars, List.all_eq_true.mpr hdigit]

theorem spelled_of_parseStep? (h : Path.parseStep? cs = some s) : Spelled cs s := by
  have hcut : cs.takeWhile (· != '[') ++ cs.dropWhile (· != '[') = cs :=
    List.takeWhile_append_dropWhile
  have hopen := List.head?_dropWhile_not (· != '[') cs
  unfold Path.parseStep? at h
  dsimp only at h
  split at h
  · cases h
  · rename_i c rest hdrop
    obtain rfl : c = '[' := by simpa [hdrop] using hopen
    split at h
    · rename_i hlast
      split at h
      · rename_i hok
        simp only [Bool.and_eq_true, Bool.not_eq_true', List.isEmpty_eq_false_iff, List.all_eq_true,
          decide_eq_true_eq] at hok
        obtain ⟨⟨⟨⟨htag, hchars⟩, hdigits⟩, hdigit⟩, hbound⟩ := hok
        cases h
        have hrest : rest.dropLast ++ [']'] = rest := by
          obtain ⟨front, rfl⟩ := List.getLast?_eq_some_iff.mp hlast
          rw [List.dropLast_concat]
        have hspelled := Spelled.mk htag hchars hdigits hdigit hbound
        rwa [hrest, ← hdrop, hcut] at hspelled
      · cases h
    · cases h

theorem parseStep?_eq_some_iff : Path.parseStep? cs = some s ↔ Spelled cs s :=
  ⟨spelled_of_parseStep?, Spelled.parseStep?_eq⟩

theorem parsePiece_eq_ok_iff : Path.parsePiece piece = .ok s ↔ Padded piece s := by
  unfold Path.parsePiece Padded
  rw [← parseStep?_eq_some_iff]
  cases Path.parseStep? (Text.trimBy Text.isBlank piece) <;> simp

theorem parsePiece_eq_error_iff {e : Path.Malformed} : Path.parsePiece piece = .error e ↔
    (¬ ∃ s, Padded piece s) ∧ e = ⟨String.ofList piece⟩ := by
  simp only [← parsePiece_eq_ok_iff]
  unfold Path.parsePiece
  cases Path.parseStep? (Text.trimBy Text.isBlank piece) <;> simp [eq_comm]

end Step

/-! ## Paths -/

namespace Path

section MapM

variable {α β ε : Type} {f : α → Except ε β} {xs : List α}

theorem mapM_eq_ok_iff {ys : List β} :
    xs.mapM f = .ok ys ↔ List.Forall₂ (fun x y => f x = .ok y) xs ys := by
  induction xs generalizing ys with
  | nil => simp [pure, Except.pure, eq_comm]
  | cons x xs ih =>
    rw [List.mapM_cons, List.forall₂_cons_left_iff]
    cases hx : f x with
    | error e => simp [bind, Except.bind]
    | ok y =>
      simp only [← ih]
      cases xs.mapM f <;> simp [bind, Except.bind, pure, Except.pure, eq_comm]

theorem mapM_cons_eq_error_iff {x : α} {e : ε} : (x :: xs).mapM f = .error e ↔
    f x = .error e ∨ (∃ y, f x = .ok y) ∧ xs.mapM f = .error e := by
  rw [List.mapM_cons]
  cases f x with
  | error e' => simp [bind, Except.bind]
  | ok y => cases xs.mapM f <;> simp [bind, Except.bind, pure, Except.pure]

/-- The error is that of the first item that has one. -/
theorem mapM_eq_error_iff {e : ε} : xs.mapM f = .error e ↔
    ∃ before x after, xs = before ++ x :: after ∧ (∀ y ∈ before, ∃ b, f y = .ok b) ∧
      f x = .error e := by
  induction xs with
  | nil => simp [pure, Except.pure]
  | cons x xs ih =>
    rw [mapM_cons_eq_error_iff, ih]
    constructor
    · rintro (hx | ⟨hx, before, z, after, rfl, hbefore, hz⟩)
      · exact ⟨[], x, xs, rfl, by simp, hx⟩
      · exact ⟨x :: before, z, after, rfl, List.forall_mem_cons.mpr ⟨hx, hbefore⟩, hz⟩
    · rintro ⟨_ | ⟨y, before⟩, z, after, heq, hbefore, hz⟩
      · cases heq
        exact .inl hz
      · cases heq
        obtain ⟨hx, hbefore⟩ := List.forall_mem_cons.mp hbefore
        exact .inr ⟨hx, before, z, after, rfl, hbefore, hz⟩

end MapM

/-- The pieces of a text that is not blank, blanks at its ends left out. -/
def HasPieces (t : String) (pieces : List (List Char)) : Prop :=
  Text.trim t ≠ "" ∧ Text.IsCut '>' (Text.trim t).toList pieces

variable {t : String} {p : Path}

theorem parse_of_trim_eq_empty (h : Text.trim t = "") : parse t = .ok {} := by
  unfold parse
  rw [← String.toList_ofList (l := Text.trimBy _ _), ← Text.trim, h]
  rfl

/-- Blank text aside, a text is read piece by piece. -/
theorem parse_of_trim_ne_empty (h : Text.trim t ≠ "") :
    parse t = (Path.mk ·) <$> (Text.splitAt '>' (Text.trim t).toList).mapM parsePiece := by
  unfold parse
  rw [← String.toList_ofList (l := Text.trimBy _ _), ← Text.trim]
  split
  · rename_i hnil
    exact absurd (String.toList_eq_nil_iff.mp hnil) h
  · rfl

theorem parse_eq_ok_iff : parse t = .ok p ↔ Text.trim t = "" ∧ p = {} ∨
    ∃ pieces, HasPieces t pieces ∧ List.Forall₂ Step.Padded pieces p.steps := by
  by_cases h : Text.trim t = ""
  · simp [parse_of_trim_eq_empty h, HasPieces, h, eq_comm]
  · have hsteps : ∀ read : Except Malformed (List Step),
        (Path.mk ·) <$> read = .ok p ↔ read = .ok p.steps := by
      obtain ⟨steps⟩ := p
      intro read
      cases read <;> simp [Functor.map, Except.map]
    rw [parse_of_trim_ne_empty h, hsteps, mapM_eq_ok_iff]
    simp [HasPieces, h, Text.isCut_iff, Step.parsePiece_eq_ok_iff]

theorem parse_eq_error_iff {e : Malformed} : parse t = .error e ↔
    ∃ before piece after, HasPieces t (before ++ piece :: after) ∧
      (∀ q ∈ before, ∃ s, Step.Padded q s) ∧ (¬ ∃ s, Step.Padded piece s) ∧
      e = ⟨String.ofList piece⟩ := by
  by_cases h : Text.trim t = ""
  · simp [parse_of_trim_eq_empty h, HasPieces, h]
  · have hsteps : ∀ read : Except Malformed (List Step),
        (Path.mk ·) <$> read = .error e ↔ read = .error e := by
      intro read
      cases read <;> simp [Functor.map, Except.map]
    rw [parse_of_trim_ne_empty h, hsteps, mapM_eq_error_iff]
    simp only [HasPieces, ne_eq, h, not_false_eq_true, true_and, Text.isCut_iff,
      Step.parsePiece_eq_ok_iff, Step.parsePiece_eq_error_iff]
    simp only [eq_comm]

/-- The steps of a path that was read have texts that read. -/
theorem isFolded_isReadable_of_parse (h : parse t = .ok p) :
    ∀ s ∈ p.steps, s.IsFolded ∧ s.IsReadable := by
  rcases parse_eq_ok_iff.mp h with ⟨-, rfl⟩ | ⟨pieces, -, hpieces⟩
  · intro s hs
    cases hs
  · generalize p.steps = steps at hpieces ⊢
    induction hpieces with
    | nil => simp
    | cons hpadded _ ih => exact List.forall_mem_cons.mpr ⟨hpadded.isFolded_isReadable, ih⟩

theorem parse_text_of_parse (h : parse t = .ok p) : parse p.text = .ok p := by
  have hsteps := isFolded_isReadable_of_parse h
  exact (parse_text fun s hs => (hsteps s hs).1).mpr ⟨rfl, fun s hs => (hsteps s hs).2⟩

/-- **The grammar of path texts.** A text reads as the path of the root if it is blank, and as a
path if each of the pieces between its arrows is a step of the path, as a tag and an index in
brackets with blanks around them. The error for any other text is its first piece that is no step,
as written. What was read is written as a text that reads as the same path. -/
theorem parse_iff_padded (t : String) :
    (∀ p, parse t = .ok p ↔ Text.trim t = "" ∧ p = {} ∨
      ∃ pieces, HasPieces t pieces ∧ List.Forall₂ Step.Padded pieces p.steps) ∧
    (∀ e, parse t = .error e ↔ ∃ before piece after, HasPieces t (before ++ piece :: after) ∧
      (∀ q ∈ before, ∃ s, Step.Padded q s) ∧ (¬ ∃ s, Step.Padded piece s) ∧
      e = ⟨String.ofList piece⟩) ∧
    ∀ p, parse t = .ok p → parse p.text = .ok p :=
  ⟨fun _ => parse_eq_ok_iff, fun _ => parse_eq_error_iff, fun _ => parse_text_of_parse⟩

/-- Blanks, capitals and leading zeros are read, and left out of what is written. -/
theorem parse_iff_padded_button :
    let p : Path := ⟨[⟨"div", 0⟩, ⟨"button", 12⟩]⟩
    parse " div[0] > Button[012]" = .ok p ∧ p.text = "div[0]>button[12]" ∧
      parse "div[0]>button[12]" = .ok p := by
  intro p
  have hread : parse " div[0] > Button[012]" = .ok p := by rfl
  have htext : p.text = "div[0]>button[12]" := by rfl
  exact ⟨hread, htext, htext ▸ (parse_iff_padded " div[0] > Button[012]").2.2 p hread⟩

end Path
end Restyle
