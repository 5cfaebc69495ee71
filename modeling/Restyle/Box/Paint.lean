import Restyle.Box.Style

/-!
# Restyle.Box.Paint

What painting a document shows, in order: the texts and rectangles of the elements that are not
hidden, and last the outline of the selected element.
-/

namespace Restyle
namespace Box

/-- Something painted. `within` is the innermost element around a text, below the root. -/
inductive Mark where
  | text (content : String) (size : Float32) (monospace italic : Bool) (colour : Colour)
      (within : Option Handle)
  | rectangle (fill : Colour) (strokeWidth : Float32) (stroke : Colour) (radius : UInt8)
  | outline
  /-- Nothing to see, but the element has been painted. -/
  | place (element : Handle)

/-- Colour of the outline of the selected element. -/
def outlineColour : Colour := ⟨59, 130, 246, 255⟩

/-- The rectangle of an element, if there is something to see of it. -/
def Style.rectangle? (s : Style) : Option Mark :=
  let fill := s.background.getD Colour.transparent
  let stroke := s.border.getD Colour.transparent
  if fill != Colour.transparent || stroke != Colour.transparent then
    some (.rectangle fill (if s.border.isSome then 1 else 0) stroke
      (if s.radius < 255 then s.radius else 255).toUInt8)
  else none

/-- The text of a text node, if there is something to see of it. -/
def textMark? (sheet : Stylesheet.Sheet) (d : Document) (content : String) (parent : Handle) :
    Option Mark :=
  let content := Text.squeeze content
  if content.isEmpty then none
  else
    let s := Style.resolve sheet d parent
    some (.text content s.fontSize s.monospace s.italic s.colour
      (if parent == d.root then none else some parent))

/-- Marks of a node and what is below it, down to a given depth. -/
def marksWithin (sheet : Stylesheet.Sheet) (d : Document) : Nat → Handle → List Mark
  | 0, _ => []
  | depth + 1, h =>
    match d.node? h with
    | some { kind := .text content, parent, .. } =>
      (textMark? sheet d content (parent.getD d.root)).toList
    | some { kind := .element _, children, .. } =>
      let s := Style.resolve sheet d h
      if s.hidden then []
      else s.rectangle?.toList ++ children.flatMap (marksWithin sheet d depth) ++ [.place h]
    | none => []

/-- Does a list of marks paint an element? -/
def paints (marks : List Mark) (h : Handle) : Bool :=
  marks.any fun m =>
    match m with
    | .place e => e == h
    | _ => false

/-- What painting a document shows. No path down is longer than the number of nodes. -/
def paint (sheet : Stylesheet.Sheet) (d : Document) (selected : Option Handle) : List Mark :=
  let marks := (d.children d.root).flatMap (marksWithin sheet d d.size)
  if selected.any (paints marks) then marks ++ [.outline] else marks

end Box
end Restyle
