import Restyle.Markup.Entity

/-!
# Restyle.Markup.Tag

Tags of markup: `Tag.read?` reads what follows a `<`. It gives nothing when no tag name
follows, or when the text ends inside the tag.
-/

namespace Restyle
namespace Markup

structure Tag where
  name : String
  attributes : List (String × String) := []
  closing : Bool := false
  selfClosing : Bool := false
  deriving Repr, BEq, DecidableEq, Inhabited

/-- Elements that never have content. -/
def voidTags : List String :=
  ["area", "base", "br", "col", "embed", "hr", "img", "input", "link", "meta", "source",
    "track", "wbr"]

/-- Elements whose content is raw text up to their end tag. -/
def rawTags : List String := ["script", "style"]

namespace Tag

/-- Letters, digits, hyphen, underscore, colon. -/
def isNameChar (c : Char) : Bool :=
  c.isAlphanum || c == '-' || c == '_' || c == ':'

/-- All but white space and `> / = " '`. -/
def isAttributeChar (c : Char) : Bool :=
  !(Text.isSpace c || c == '>' || c == '/' || c == '=' || c == '"' || c == '\'')

def skipSpaces (cs : List Char) : List Char := cs.dropWhile Text.isSpace

theorem length_skipSpaces_le (cs : List Char) : (skipSpaces cs).length ≤ cs.length :=
  (List.dropWhile_sublist _).length_le

/-- Name of an attribute or tag as stored. -/
def folded (cs : List Char) : String := String.ofList (cs.map Char.toLower)

/-- Reads an attribute value after its `=`: quoted, or up to white space or `>`. -/
def readValue? (cs : List Char) : Option (String × List Char) :=
  match skipSpaces cs with
  | [] => none
  | c :: rest =>
    if c == '"' || c == '\'' then
      match rest.dropWhile (· != c) with
      | [] => none
      | _ :: after =>
        some (String.ofList (Entity.decode (rest.takeWhile (· != c))), after)
    else
      let inValue (c : Char) := !(Text.isSpace c || c == '>')
      some (String.ofList (Entity.decode ((c :: rest).takeWhile inValue)),
        (c :: rest).dropWhile inValue)

/-- Reads one attribute; a stray character is passed over and gives none. -/
def readAttribute? (c : Char) (cs : List Char) : Option (Option (String × String) × List Char) :=
  if isAttributeChar c then
    let name := folded (c :: cs.takeWhile isAttributeChar)
    match skipSpaces (cs.dropWhile isAttributeChar) with
    | '=' :: rest => (readValue? rest).map fun (value, after) => (some (name, value), after)
    | rest => some (some (name, ""), rest)
  else some (none, cs)

theorem length_readValue? {cs rest : List Char} {v : String}
    (h : readValue? cs = some (v, rest)) : rest.length ≤ cs.length := by
  have hs := length_skipSpaces_le cs
  simp only [readValue?] at h
  split at h
  · simp at h
  · next c r heq =>
    rw [heq] at hs
    split at h
    · split at h
      · simp at h
      · next after hr =>
        have hl := (List.dropWhile_sublist (fun x => x != c) (l := r)).length_le
        rw [hr] at hl
        simp only [Option.some.injEq, Prod.mk.injEq] at h
        obtain ⟨_, rfl⟩ := h
        simp only [List.length_cons] at hl hs
        omega
    · simp only [Option.some.injEq, Prod.mk.injEq] at h
      obtain ⟨_, rfl⟩ := h
      exact Nat.le_trans (List.dropWhile_sublist _).length_le hs

theorem length_readAttribute? {c : Char} {cs rest : List Char} {a : Option (String × String)}
    (h : readAttribute? c cs = some (a, rest)) : rest.length ≤ cs.length := by
  simp only [readAttribute?] at h
  split at h
  · have h₁ := length_skipSpaces_le (cs.dropWhile isAttributeChar)
    have h₂ := (List.dropWhile_sublist isAttributeChar (l := cs)).length_le
    split at h
    · next r heq =>
      rw [heq] at h₁
      simp only [Option.map_eq_some_iff, Prod.mk.injEq] at h
      obtain ⟨⟨v, after⟩, hv, _, rfl⟩ := h
      have h₃ := length_readValue? hv
      simp only [List.length_cons] at h₁ ⊢
      omega
    · simp only [Option.some.injEq, Prod.mk.injEq] at h
      obtain ⟨_, rfl⟩ := h
      omega
  · simp only [Option.some.injEq, Prod.mk.injEq] at h
    obtain ⟨_, rfl⟩ := h
    omega

/-- Reads attributes up to the end of the tag, adding them to `tag`. -/
def readAttributes? (tag : Tag) (cs : List Char) : Option (Tag × List Char) :=
  match _hc : skipSpaces cs with
  | [] => none
  | '>' :: rest => some (tag, rest)
  | '/' :: '>' :: rest => some ({ tag with selfClosing := true }, rest)
  | c :: rest =>
    match _ha : readAttribute? c rest with
    | none => none
    | some (none, after) => readAttributes? tag after
    | some (some a, after) =>
      readAttributes? { tag with attributes := tag.attributes ++ [a] } after
termination_by cs.length
decreasing_by
  all_goals
    have h₁ := length_skipSpaces_le cs
    have h₂ := length_readAttribute? _ha
    rw [_hc] at h₁
    simp only [List.length_cons] at h₁
    omega

/-- Reads the name and the attributes of a tag. -/
def readNamed? (closing : Bool) (cs : List Char) : Option (Tag × List Char) :=
  match cs.takeWhile isNameChar with
  | [] => none
  | name => readAttributes? { name := folded name, closing } (cs.dropWhile isNameChar)

/-- Reads a tag after its `<`. -/
def read? : List Char → Option (Tag × List Char)
  | '/' :: rest => readNamed? true rest
  | cs => readNamed? false cs

theorem length_readAttributes? {tag : Tag} {cs rest : List Char} {t : Tag}
    (h : readAttributes? tag cs = some (t, rest)) : rest.length ≤ cs.length := by
  fun_induction readAttributes? tag cs with
  | case1 => simp at h
  | case2 tag cs r hc =>
    have h₁ := length_skipSpaces_le cs
    rw [hc] at h₁
    simp only [Option.some.injEq, Prod.mk.injEq] at h
    obtain ⟨_, rfl⟩ := h
    simp only [List.length_cons] at h₁
    omega
  | case3 tag cs r hc =>
    have h₁ := length_skipSpaces_le cs
    rw [hc] at h₁
    simp only [Option.some.injEq, Prod.mk.injEq] at h
    obtain ⟨_, rfl⟩ := h
    simp only [List.length_cons] at h₁
    omega
  | case4 => simp at h
  | case5 tag cs c r _ _ hc after ha ih =>
    have h₁ := length_skipSpaces_le cs
    have h₂ := length_readAttribute? ha
    rw [hc] at h₁
    have h₃ := ih h
    simp only [List.length_cons] at h₁
    omega
  | case6 tag cs c r _ _ hc a after ha ih =>
    have h₁ := length_skipSpaces_le cs
    have h₂ := length_readAttribute? ha
    rw [hc] at h₁
    have h₃ := ih h
    simp only [List.length_cons] at h₁
    omega

theorem length_readNamed? {closing : Bool} {cs rest : List Char} {t : Tag}
    (h : readNamed? closing cs = some (t, rest)) : rest.length ≤ cs.length := by
  simp only [readNamed?] at h
  split at h
  · simp at h
  · have h₁ := length_readAttributes? h
    have h₂ := (List.dropWhile_sublist isNameChar (l := cs)).length_le
    omega

theorem length_read? {cs rest : List Char} {t : Tag}
    (h : read? cs = some (t, rest)) : rest.length ≤ cs.length := by
  unfold read? at h
  split at h
  · have := length_readNamed? h
    simp only [List.length_cons]
    omega
  · exact length_readNamed? h

end Tag
end Markup
end Restyle
