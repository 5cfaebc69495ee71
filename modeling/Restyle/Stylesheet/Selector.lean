import Restyle.Document.Basic

/-!
# Restyle.Stylesheet.Selector

Selectors: compounds such as `p.lead#intro` joined by white space, which stands for "below".
Everything else (pseudo-classes, attribute tests, other combinators) is refused by `parse?`.
-/

namespace Restyle
namespace Stylesheet

/-- What one element must satisfy. -/
structure Compound where
  tag : Option String := none
  id : Option String := none
  classes : List String := []
  deriving Repr, BEq, DecidableEq, Inhabited

namespace Compound

/-- Letters, digits, hyphen, underscore. -/
def isNameChar (c : Char) : Bool := c.isAlphanum || c == '-' || c == '_'

/-- Reads the `.class` and `#id` parts of a compound. A later id replaces an earlier one. -/
def parseParts? (compound : Compound) (cs : List Char) : Option Compound :=
  match cs with
  | [] => some compound
  | mark :: rest =>
    match rest.takeWhile isNameChar with
    | [] => none
    | name =>
      let name := String.ofList name
      if mark == '.' then
        parseParts? { compound with classes := compound.classes ++ [name] }
          (rest.dropWhile isNameChar)
      else if mark == '#' then
        parseParts? { compound with id := some name } (rest.dropWhile isNameChar)
      else none
termination_by cs.length
decreasing_by
  all_goals
    have := (List.dropWhile_sublist isNameChar (l := rest)).length_le
    simp only [List.length_cons]
    omega

/-- Reads a compound: `*` or a tag name or neither, then its parts. -/
def parse? (cs : List Char) : Option Compound :=
  match cs with
  | '*' :: rest => parseParts? {} rest
  | _ =>
    match cs.takeWhile isNameChar with
    | [] => parseParts? {} cs
    | tag => parseParts? { tag := some (Text.lower (String.ofList tag)) } (cs.dropWhile isNameChar)

def matchesElement (compound : Compound) (e : Element) : Bool :=
  (match compound.tag with
    | some tag => tag == e.tag
    | none => true) &&
  (match compound.id with
    | some id => e.attribute? "id" == some id
    | none => true) &&
  compound.classes.all e.hasClass

/-- Does the compound match a node? Text nodes match nothing. -/
def accepts (compound : Compound) (d : Document) (h : Handle) : Bool :=
  match d.element? h with
  | some e => compound.matchesElement e
  | none => false

end Compound

/-- Numbers of ids, classes and tags that a selector names. They have no bound here; words of 32 bits
hold them for every selector of fewer than `2 ^ 32` characters. -/
structure Specificity where
  ids : Nat := 0
  classes : Nat := 0
  tags : Nat := 0
  deriving Repr, BEq, DecidableEq, Inhabited

namespace Specificity

/-- Ids count before classes, classes before tags. -/
def le (a b : Specificity) : Bool :=
  a.ids < b.ids || (a.ids == b.ids &&
    (a.classes < b.classes || (a.classes == b.classes && a.tags ≤ b.tags)))

end Specificity

/-- The subject and, from the inside out, what some of its ancestors must satisfy. -/
structure Selector where
  subject : Compound
  ancestors : List Compound := []
  deriving Repr, BEq, DecidableEq, Inhabited

namespace Selector

/-- Reads a selector; `none` for empty text and for syntax outside this kind of selector. -/
def parse? (cs : List Char) : Option Selector :=
  match ((Text.piecesBy Text.isBlank cs).mapM Compound.parse?).map List.reverse with
  | some (subject :: ancestors) => some { subject, ancestors }
  | _ => none

/-- The compounds in the order written. -/
def compounds (s : Selector) : List Compound := (s.subject :: s.ancestors).reverse

def specificity (s : Selector) : Specificity :=
  s.compounds.foldl (fun acc c =>
    { ids := acc.ids + c.id.toList.length
      classes := acc.classes + c.classes.length
      tags := acc.tags + c.tag.toList.length }) {}

/-- Climbs from `h` on and gives each compound the nearest ancestor left that satisfies it. -/
def climb (d : Document) : Nat → Option Handle → List Compound → Bool
  | _, _, [] => true
  | 0, _, _ => false
  | _, none, _ => false
  | fuel + 1, some h, c :: cs =>
    climb d fuel (d.parent? h) (if c.accepts d h then cs else c :: cs)

/-- Does the selector match a node? -/
def accepts (s : Selector) (d : Document) (h : Handle) : Bool :=
  s.subject.accepts d h && climb d d.size (d.parent? h) s.ancestors

end Selector
end Stylesheet
end Restyle
