import Restyle.Source.Nesting

/-!
# Restyle.Source.Attributes

The attributes of a tag as written: `name`, `name="v"`, `name='v'`, `name={E}`, `name=v` and
`{...E}`. `scan` cuts their text into items and trailing white space without losing a
character.
-/

namespace Restyle
namespace Source

/-- One item of attribute text: the white space before it, the item as written, its name and,
where it has one, its value as written. A braced item has the empty name; a stray character
has none. -/
structure AttributeItem where
  lead : List Char
  text : List Char
  name : Option (List Char)
  value : Option (List Char) := none
  deriving Repr, BEq, DecidableEq

/-- Cuts after the brace group that begins the text; an open group reaches to the end. -/
def cutBraced (n : Nesting) : List Char → List Char × List Char
  | [] => ([], [])
  | c :: cs =>
    if n.quote.isNone && c == '}' && n.depth ≤ 1 then ([c], cs)
    else
      let (group, rest) := cutBraced (n.brace c) cs
      (c :: group, rest)

theorem length_cutBraced (n : Nesting) (cs : List Char) :
    (cutBraced n cs).1.length + (cutBraced n cs).2.length = cs.length := by
  induction cs generalizing n with
  | nil => simp [cutBraced]
  | cons c cs ih =>
    simp only [cutBraced]
    split
    · simp only [List.length_cons, List.length_nil]
      omega
    · have := ih (n.brace c)
      simp only [List.length_cons]
      omega

/-- Characters of an attribute's name. -/
def isAttributeNameChar (c : Char) : Bool :=
  !(Text.isSpace c || c == '=' || c == '/' || c == '>')

/-- Characters of a value without quotes. -/
def isBareValueChar (c : Char) : Bool := !(Text.isSpace c || c == '>')

/-- Cuts after a quoted value, from after its opening mark; an open value reaches to the end. -/
def cutQuoted (mark : Char) (cs : List Char) : List Char × List Char :=
  match cs.dropWhile (· != mark) with
  | [] => (mark :: cs, [])
  | c :: after => (mark :: cs.takeWhile (· != mark) ++ [c], after)

/-- Cuts after the value that begins the text. -/
def cutValue : List Char → List Char × List Char
  | [] => ([], [])
  | c :: cs =>
    if c == '{' then cutBraced {} (c :: cs)
    else if c == '"' || c == '\'' then cutQuoted c cs
    else ((c :: cs).takeWhile isBareValueChar, (c :: cs).dropWhile isBareValueChar)

/-- The item of a name, from the text after it. -/
def cutNamed (lead name rest : List Char) : AttributeItem × List Char :=
  match rest.dropWhile Text.isSpace with
  | '=' :: afterSign =>
    let written := cutValue (afterSign.dropWhile Text.isSpace)
    ({ lead
       text := name ++ rest.takeWhile Text.isSpace ++ '=' :: afterSign.takeWhile Text.isSpace ++
         written.1
       name := some name
       value := some written.1 }, written.2)
  | _ => ({ lead, text := name, name := some name }, rest)

/-- The item that begins with `c`, and the text after it. -/
def cutItem (lead : List Char) (c : Char) (cs : List Char) : AttributeItem × List Char :=
  if c == '{' then
    let written := cutBraced {} (c :: cs)
    ({ lead, text := written.1, name := some [], value := some written.1 }, written.2)
  else if isAttributeNameChar c then
    cutNamed lead (c :: cs.takeWhile isAttributeNameChar) (cs.dropWhile isAttributeNameChar)
  else ({ lead, text := [c], name := none }, cs)

theorem length_cutQuoted_le (mark : Char) (cs : List Char) :
    (cutQuoted mark cs).2.length ≤ cs.length := by
  unfold cutQuoted
  split
  · simp
  · next d after h =>
    have hl := (List.dropWhile_sublist (· != mark) (l := cs)).length_le
    rw [h] at hl
    simp only [List.length_cons] at *
    omega

theorem length_cutValue_le (cs : List Char) : (cutValue cs).2.length ≤ cs.length := by
  cases cs with
  | nil => simp [cutValue]
  | cons c cs =>
    simp only [cutValue]
    split
    · have := length_cutBraced {} (c :: cs)
      omega
    · split
      · have := length_cutQuoted_le c cs
        simp only [List.length_cons]
        omega
      · exact (List.dropWhile_sublist _).length_le

theorem length_cutNamed_le (lead name rest : List Char) :
    (cutNamed lead name rest).2.length ≤ rest.length := by
  unfold cutNamed
  split
  · next after h =>
    have h₁ := (List.dropWhile_sublist Text.isSpace (l := rest)).length_le
    have h₂ := (List.dropWhile_sublist Text.isSpace (l := after)).length_le
    have h₃ := length_cutValue_le (after.dropWhile Text.isSpace)
    rw [h] at h₁
    simp only [List.length_cons] at *
    omega
  · exact Nat.le_refl _

theorem length_cutItem_le (lead : List Char) (c : Char) (cs : List Char) :
    (cutItem lead c cs).2.length ≤ cs.length := by
  unfold cutItem
  split
  · have h₁ := length_cutBraced {} (c :: cs)
    have h₂ : 0 < (cutBraced {} (c :: cs)).1.length := by
      unfold cutBraced
      split <;> simp
    simp only [List.length_cons] at *
    omega
  · split
    · have h₁ := (List.dropWhile_sublist isAttributeNameChar (l := cs)).length_le
      have h₂ := length_cutNamed_le lead (c :: cs.takeWhile isAttributeNameChar)
        (cs.dropWhile isAttributeNameChar)
      omega
    · exact Nat.le_refl _

/-- The items of attribute text and the white space after the last one. -/
def scan (cs : List Char) : List AttributeItem × List Char :=
  match _h : cs.dropWhile Text.isSpace with
  | [] => ([], cs)
  | c :: rest =>
    match _hi : cutItem (cs.takeWhile Text.isSpace) c rest with
    | (item, after) =>
      let (items, trailing) := scan after
      (item :: items, trailing)
termination_by cs.length
decreasing_by
  have h₁ := (List.dropWhile_sublist Text.isSpace (l := cs)).length_le
  have h₂ := length_cutItem_le (cs.takeWhile Text.isSpace) c rest
  rw [_h] at h₁
  rw [_hi] at h₂
  simp only [List.length_cons] at *
  omega

/-- The text of items as written. -/
def AttributeItem.join (items : List AttributeItem) : List Char :=
  items.flatMap fun i => i.lead ++ i.text

end Source
end Restyle
