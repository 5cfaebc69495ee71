import Restyle.Path
import Restyle.Proofs.Markup.Name
import Restyle.Proofs.Text.Delimited

/-!
# Restyle.Proofs.Path.Text

The text of a path tells the path, when its tags are names (`Path.text_injective`): no bracket or
arrow of the text can then come from a tag.

Reading the text of a path back. The tags of a document are names in small letters; the text of a
path over such tags reads as that path and as no other (`Path.parse_text`), unless one of the tags
has a colon in it or an index is out of bounds, and then it does not read at all.
-/

namespace Restyle

open Text (Delimited)

/-- The tag is a name. -/
def Step.IsNamed (s : Step) : Prop := Markup.Tag.IsName s.tag

/-- All tags are names. -/
def Path.IsNamed (p : Path) : Prop := ∀ s ∈ p.steps, s.IsNamed

theorem Step.toList_text (s : Step) :
    s.text.toList = s.tag.toList ++ '[' :: ((toString s.index).toList ++ [']']) := by
  simp [Step.text]

theorem delimited_tag :
    Delimited (fun s => Markup.Tag.IsName s) fun s : String => s.toList ++ ['['] := by
  refine Delimited.upTo (fun _ _ _ _ h => String.toList_inj.mp h) fun s hs hc => ?_
  exact absurd (hs _ hc) (by decide)

theorem delimited_index :
    Delimited (fun _ => True) fun n : Nat => (toString n).toList ++ [']'] := by
  have hdigits : ∀ n : Nat, (toString n).toList = Nat.toDigits 10 n := fun _ => Nat.toList_repr
  refine Delimited.upTo (fun m n _ _ h => ?_) fun n _ hc => ?_
  · rw [hdigits, hdigits] at h
    rw [← Nat.ofDigitChars_ten_toDigits (n := m), h, Nat.ofDigitChars_ten_toDigits]
  · rw [hdigits] at hc
    have := Nat.isDigit_of_mem_toDigits (by decide) (by decide) hc
    exact absurd this (by decide)

theorem delimited_step : Delimited Step.IsNamed fun s => s.text.toList := by
  intro a b rest rest' ha hb heq
  obtain ⟨h, rfl⟩ := (delimited_tag.pair delimited_index []) (a.tag, a.index) (b.tag, b.index)
    rest rest' ⟨ha, trivial⟩ ⟨hb, trivial⟩ (by simpa [Step.toList_text] using heq)
  obtain ⟨tag, index⟩ := a
  cases h
  exact ⟨rfl, rfl⟩

/-- No step begins with a quotation mark, so one can stand at the end of a path. -/
theorem head_step {s : Step} (h : s.IsNamed) : ∃ c cs, s.text.toList = c :: cs ∧ c ≠ '"' := by
  rw [Step.toList_text]
  cases htag : s.tag.toList with
  | nil => exact ⟨'[', _, rfl, by decide⟩
  | cons c cs =>
    refine ⟨c, _, rfl, ?_⟩
    rintro rfl
    have := h '"' (htag ▸ List.mem_cons_self ..)
    exact absurd this (by decide)

/-- **Paths with the same text are the same.** -/
theorem Path.text_injective {p q : Path} (hp : p.IsNamed) (hq : q.IsNamed)
    (h : p.text = q.text) : p = q := by
  have htext : ∀ r : Path,
      r.text.toList = ['>'].intercalate (r.steps.map fun s => s.text.toList) := by
    intro r
    simp [Path.text, String.toList_intercalate, Function.comp_def]
  have heq : p.text.toList ++ ['"'] ++ [] = q.text.toList ++ ['"'] ++ [] := by rw [h]
  rw [htext, htext] at heq
  obtain ⟨hsteps, -⟩ := delimited_step.list (by decide : '>' ≠ '"') (fun _ => head_step)
    p.steps q.steps [] [] hp hq heq
  obtain ⟨steps⟩ := p
  cases hsteps
  rfl

/-! ## Reading paths back -/

variable {s : Step} {p q : Path} {steps : List Step}

/-! ## Pieces of a text -/

namespace Text

variable {c sep : Char} {cs ds : List Char} {cut : Char → Bool}

theorem splitBy_of_forall (h : ∀ x ∈ cs, cut x = false) : splitBy cut cs = [cs] := by
  induction cs with
  | nil => rfl
  | cons c cs ih =>
    obtain ⟨hc, hcs⟩ := List.forall_mem_cons.mp h
    simp [splitBy, hc, ih hcs]

theorem splitBy_append_cons (h : ∀ x ∈ cs, cut x = false) (hc : cut c = true) :
    splitBy cut (cs ++ c :: ds) = cs :: splitBy cut ds := by
  induction cs with
  | nil => simp [splitBy, hc]
  | cons x cs ih =>
    obtain ⟨hx, hcs⟩ := List.forall_mem_cons.mp h
    simp [splitBy, hx, ih hcs]

/-- Pieces put together with a mark that none of them has are the pieces of the text. -/
theorem splitAt_intercalate {pieces : List (List Char)} (hne : pieces ≠ [])
    (h : ∀ piece ∈ pieces, sep ∉ piece) : splitAt sep ([sep].intercalate pieces) = pieces := by
  have hclear : ∀ piece ∈ pieces, ∀ x ∈ piece, (x == sep) = false := by
    intro piece hpiece x hx
    rw [beq_eq_false_iff_ne]
    rintro rfl
    exact h piece hpiece hx
  unfold splitAt
  induction pieces with
  | nil => exact absurd rfl hne
  | cons piece pieces ih =>
    obtain ⟨hpiece, hpieces⟩ := List.forall_mem_cons.mp hclear
    cases pieces with
    | nil => simpa [List.intercalate] using splitBy_of_forall hpiece
    | cons second rest =>
      have hcons : [sep].intercalate (piece :: second :: rest) =
          piece ++ sep :: [sep].intercalate (second :: rest) := by
        simp [List.intercalate]
      rw [hcons, splitBy_append_cons hpiece (beq_self_eq_true sep),
        ih (List.cons_ne_nil _ _) (fun x hx => h x (List.mem_cons_of_mem _ hx)) hpieces]

/-- A text between characters that stay is not trimmed. -/
theorem trimBy_of_ends {blank : Char → Bool} {front : List Char} {last : Char}
    (hcs : cs = front ++ [last]) (hlast : blank last = false)
    (hhead : ∀ x, cs.head? = some x → blank x = false) : trimBy blank cs = cs := by
  have hdrop : cs.dropWhile blank = cs := by
    cases cs with
    | nil => rfl
    | cons x cs => rw [List.dropWhile_cons_of_neg (by simp [hhead x rfl])]
  unfold trimBy
  rw [hdrop, hcs, List.reverse_append, List.reverse_singleton, List.singleton_append,
    List.dropWhile_cons_of_neg (by simp [hlast])]
  simp

/-- The text of pieces begins with the first of them and ends with one of them. -/
theorem intercalate_ends (sep first : List Char) (rest : List (List Char)) :
    (∃ after, sep.intercalate (first :: rest) = first ++ after) ∧
      ∃ before, ∃ last ∈ first :: rest, sep.intercalate (first :: rest) = before ++ last := by
  induction rest generalizing first with
  | nil =>
    exact ⟨⟨[], by simp [List.intercalate]⟩, [], first, List.mem_cons_self .., by
      simp [List.intercalate]⟩
  | cons second rest ih =>
    have hcons : sep.intercalate (first :: second :: rest) =
        first ++ (sep ++ sep.intercalate (second :: rest)) := by
      simp [List.intercalate]
    obtain ⟨-, before, last, hmem, hlast⟩ := ih second
    refine ⟨⟨_, hcons⟩, first ++ (sep ++ before), last, List.mem_cons_of_mem _ hmem, ?_⟩
    rw [hcons, hlast]
    simp only [List.append_assoc]

theorem decimal_toDigits (n : Nat) : decimal (Nat.toDigits 10 n) = n :=
  Nat.ofDigitChars_ten_toDigits

end Text

/-! ## Steps -/

namespace Step

/-- The tag is a name in small letters. -/
structure IsFolded (s : Step) : Prop where
  named : s.IsNamed
  tag_ne_nil : s.tag.toList ≠ []
  lower_tag : Text.lower s.tag = s.tag

/-- The grammar of paths has a text for the step. -/
def IsReadable (s : Step) : Prop := ':' ∉ s.tag.toList ∧ s.index < Path.indexBound

instance : DecidablePred IsReadable := fun s =>
  inferInstanceAs (Decidable (':' ∉ s.tag.toList ∧ s.index < Path.indexBound))

/-- The characters of names that the grammar of paths lacks are the colons. -/
theorem isTagChar_iff {c : Char} (h : Markup.Tag.isNameChar c = true) :
    Path.isTagChar c = true ↔ c ≠ ':' := by
  simp only [Markup.Tag.isNameChar, Path.isTagChar, Bool.or_eq_true, beq_iff_eq] at h ⊢
  constructor
  · rintro h rfl
    exact absurd h (by decide)
  · intro hne
    exact h.resolve_right hne

theorem isBlank_of_isNameChar {c : Char} (h : Markup.Tag.isNameChar c = true) :
    Text.isBlank c = false := by
  have hcode : 48 ≤ c.toNat ∧ c.toNat ≤ 122 ∨ c.toNat = 45 := by
    change ((((decide (c.val ≥ 'A'.val ∧ c.val ≤ 'Z'.val) || (c.val ≥ 'a'.val && c.val ≤ 'z'.val) ||
      (c.val ≥ '0'.val && c.val ≤ '9'.val)) || c == '-') || c == '_') || c == ':') = true at h
    simp only [Bool.or_eq_true, Bool.and_eq_true, decide_eq_true_eq, beq_iff_eq,
      UInt32.le_iff_toNat_le, ge_iff_le] at h
    change (((((65 ≤ c.toNat ∧ c.toNat ≤ 90) ∨ (97 ≤ c.toNat ∧ c.toNat ≤ 122)) ∨
      (48 ≤ c.toNat ∧ c.toNat ≤ 57)) ∨ c = '-') ∨ c = '_') ∨ c = ':' at h
    rcases h with (((((h | h) | h) | rfl) | rfl) | rfl)
    · omega
    · omega
    · omega
    · exact .inr rfl
    · exact .inl (by decide)
    · exact .inl (by decide)
  simp only [Text.isBlank, Bool.or_eq_false_iff, Bool.and_eq_false_iff, decide_eq_false_iff_not,
    beq_eq_false_iff_ne]
  omega

theorem parseStep?_text (h : s.IsFolded) :
    Path.parseStep? s.text.toList = if s.IsReadable then some s else none := by
  have htag : ∀ c ∈ s.tag.toList, (c != '[') = true := by
    intro c hc
    rw [bne_iff_ne]
    rintro rfl
    exact absurd (h.named _ hc) (by decide)
  have htake : s.text.toList.takeWhile (· != '[') = s.tag.toList := by
    rw [toList_text, List.takeWhile_append_of_pos htag]
    simp
  have hdrop : s.text.toList.dropWhile (· != '[') = '[' :: ((toString s.index).toList ++ [']']) := by
    rw [toList_text, List.dropWhile_append_of_pos htag]
    simp
  have hdigits : (toString s.index).toList = Nat.toDigits 10 s.index := Nat.toList_repr
  have hall : (Nat.toDigits 10 s.index).all Char.isDigit = true :=
    List.all_eq_true.mpr fun c hc => Nat.isDigit_of_mem_toDigits (by decide) (by decide) hc
  have hsome : (Nat.toDigits 10 s.index).isEmpty = false := by
    simp [Nat.toDigits_ne_nil]
  have hchars : s.tag.toList.all Path.isTagChar = true ↔ ':' ∉ s.tag.toList := by
    rw [List.all_eq_true]
    constructor
    · intro hall hc
      exact absurd (hall _ hc) (by decide)
    · intro hc c hmem
      exact (isTagChar_iff (h.named c hmem)).mpr fun heq => hc (heq ▸ hmem)
  have hread : String.ofList (s.tag.toList.map Char.toLower) = s.tag := h.lower_tag
  have hne : s.tag.toList.isEmpty = false := by simpa using h.tag_ne_nil
  unfold Path.parseStep?
  rw [htake, hdrop]
  simp only [List.getLast?_concat, List.dropLast_concat, hdigits, hall, hsome, hne, hread,
    Text.decimal_toDigits, Bool.not_false, Bool.true_and, Bool.and_true, Bool.and_eq_true, hchars,
    decide_eq_true_eq]
  rfl

theorem parsePiece_text (h : s.IsFolded) :
    Path.parsePiece s.text.toList = if s.IsReadable then .ok s else .error ⟨s.text⟩ := by
  have htrim : Text.trimBy Text.isBlank s.text.toList = s.text.toList := by
    have hends : s.text.toList = s.tag.toList ++ '[' :: (toString s.index).toList ++ [']'] := by
      simp [toList_text]
    refine Text.trimBy_of_ends hends rfl fun c hc => ?_
    obtain ⟨first, rest, htag⟩ := List.exists_cons_of_ne_nil h.tag_ne_nil
    rw [toList_text, htag] at hc
    cases hc
    exact isBlank_of_isNameChar (h.named _ (htag ▸ List.mem_cons_self ..))
  unfold Path.parsePiece
  rw [htrim, parseStep?_text h]
  by_cases hr : s.IsReadable
  · simp [hr]
  · simp [hr]

theorem not_mem_text (h : s.IsFolded) : '>' ∉ s.text.toList := by
  rw [toList_text]
  intro hmem
  rcases List.mem_append.mp hmem with htag | hrest
  · exact absurd (h.named _ htag) (by decide)
  · have hdigits : (toString s.index).toList = Nat.toDigits 10 s.index := Nat.toList_repr
    rw [List.mem_cons, List.mem_append, hdigits] at hrest
    rcases hrest with hmark | hdigit | hmark
    · cases hmark
    · exact absurd (Nat.isDigit_of_mem_toDigits (by decide) (by decide) hdigit) (by decide)
    · simp at hmark

end Step

/-! ## Paths -/

namespace Path

/-- The pieces are read one by one: as these steps, or not at all. -/
theorem mapM_parsePiece (h : ∀ s ∈ steps, s.IsFolded) {read : List Step} :
    (steps.map fun s => s.text.toList).mapM parsePiece = .ok read ↔
      read = steps ∧ ∀ s ∈ steps, s.IsReadable := by
  induction steps generalizing read with
  | nil => simp [pure, Except.pure, eq_comm]
  | cons s steps ih =>
    obtain ⟨hs, hsteps⟩ := List.forall_mem_cons.mp h
    rw [List.map_cons, List.mapM_cons, Step.parsePiece_text hs]
    by_cases hr : s.IsReadable
    · rw [if_pos hr]
      cases hrest : (steps.map fun s => s.text.toList).mapM parsePiece with
      | error e =>
        have hnot : ¬ ∀ s ∈ steps, s.IsReadable := fun hall => by
          rw [(ih hsteps).mpr ⟨rfl, hall⟩] at hrest
          cases hrest
        simp [bind, Except.bind, hr, hnot]
      | ok more =>
        obtain ⟨rfl, hall⟩ := (ih hsteps).mp hrest
        simp only [bind, Except.bind, pure, Except.pure, Except.ok.injEq, List.forall_mem_cons, hr]
        exact ⟨fun heq => ⟨heq.symm, trivial, hall⟩, fun heq => heq.1.symm⟩
    · simp [hr, bind, Except.bind]

theorem toList_text (p : Path) :
    p.text.toList = ['>'].intercalate (p.steps.map fun s => s.text.toList) := by
  simp [text, String.toList_intercalate, Function.comp_def]

theorem trimBy_text (h : ∀ s ∈ p.steps, s.IsFolded) :
    Text.trimBy Text.isBlank p.text.toList = p.text.toList := by
  rw [toList_text]
  cases hsteps : p.steps with
  | nil => rfl
  | cons first rest =>
    obtain ⟨⟨after, hafter⟩, before, last, hmem, hlast⟩ :=
      Text.intercalate_ends ['>'] first.text.toList (rest.map fun s => s.text.toList)
    obtain ⟨s, -, rfl⟩ := List.mem_map.mp
      (show last ∈ (first :: rest).map fun s => s.text.toList from hmem)
    have hends : ['>'].intercalate ((first :: rest).map fun s => s.text.toList) =
        before ++ (s.tag.toList ++ '[' :: (toString s.index).toList) ++ [']'] := by
      refine hlast.trans ?_
      rw [Step.toList_text]
      simp only [List.append_assoc, List.cons_append]
    refine Text.trimBy_of_ends hends rfl fun c hc => ?_
    have hfirst := h first (hsteps ▸ List.mem_cons_self ..)
    rw [List.map_cons, hafter, Step.toList_text] at hc
    obtain ⟨x, xs, htag⟩ := List.exists_cons_of_ne_nil hfirst.tag_ne_nil
    rw [htag] at hc
    cases hc
    exact Step.isBlank_of_isNameChar (hfirst.named _ (htag ▸ List.mem_cons_self ..))

theorem splitAt_text (h : ∀ s ∈ p.steps, s.IsFolded) (hne : p.steps ≠ []) :
    Text.splitAt '>' p.text.toList = p.steps.map fun s => s.text.toList := by
  rw [toList_text]
  refine Text.splitAt_intercalate (by simpa using hne) fun piece hpiece => ?_
  obtain ⟨s, hs, rfl⟩ := List.mem_map.mp hpiece
  exact Step.not_mem_text (h s hs)

/-- **The text of a path reads as that path**, if each of its steps has a text in the grammar;
otherwise it does not read. -/
theorem parse_text (h : ∀ s ∈ p.steps, s.IsFolded) :
    parse p.text = .ok q ↔ q = p ∧ ∀ s ∈ p.steps, s.IsReadable := by
  unfold parse
  rw [trimBy_text h]
  split
  · rename_i hempty
    have hnone : p.steps = [] := by
      cases hsteps : p.steps with
      | nil => rfl
      | cons first rest =>
        obtain ⟨⟨after, hafter⟩, -⟩ := Text.intercalate_ends ['>'] first.text.toList
          (rest.map fun s => s.text.toList)
        rw [toList_text, hsteps, List.map_cons, hafter, Step.toList_text] at hempty
        simp at hempty
    obtain ⟨steps⟩ := p
    obtain rfl : steps = [] := hnone
    simp [eq_comm]
  · rename_i hfull
    have hne : p.steps ≠ [] := by
      intro hnone
      exact hfull (by rw [toList_text, hnone]; rfl)
    have hread := @mapM_parsePiece _ h q.steps
    rw [splitAt_text h hne]
    have hsteps : q.steps = p.steps ↔ q = p := by
      obtain ⟨steps⟩ := p
      obtain ⟨steps'⟩ := q
      simp
    rw [← hsteps, ← hread]
    cases (p.steps.map fun s => s.text.toList).mapM parsePiece with
    | error e => simp [Functor.map, Except.map]
    | ok read =>
      obtain ⟨steps⟩ := q
      simp [Functor.map, Except.map]

/-! ## Paths as JSON -/

/-- The path that JSON text holds as a string. -/
def ofJson? (text : String) : Option Path :=
  (Json.readString? text).bind fun s => (parse s).toOption

theorem readString?_quote (s : String) : Json.readString? (Json.quote s) = some s := by
  have hread := Json.readStringPrefix?_quote s []
  rw [List.append_nil] at hread
  unfold Json.readString?
  rw [hread]
  rfl

theorem ofJson?_quote (h : ∀ s ∈ p.steps, s.IsFolded) :
    ofJson? (Json.quote p.text) = some q ↔ q = p ∧ ∀ s ∈ p.steps, s.IsReadable := by
  rw [← parse_text h, ofJson?, readString?_quote, Option.bind_some]
  cases parse p.text <;> simp [Except.toOption]

end Path
end Restyle
