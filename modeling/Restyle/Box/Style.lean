import Restyle.Box.Colour
import Restyle.Stylesheet.Cascade

/-!
# Restyle.Box.Style

What painting needs to know of an element: whether and how its box shows, and the look of the
text directly in it.
-/

namespace Restyle
namespace Box

/-- Elements that are blocks unless their `display` says otherwise. -/
def blockTags : List String :=
  ["address", "article", "aside", "blockquote", "dd", "div", "dl", "dt", "fieldset", "figcaption",
   "figure", "footer", "form", "h1", "h2", "h3", "h4", "h5", "h6", "header", "hr", "li", "main",
   "nav", "ol", "p", "pre", "section", "table", "tr", "ul"]

/-- Elements that never show. -/
def hiddenTags : List String := ["script", "style", "head", "template"]

/-- Does a text occur in another? -/
def occursIn (part : List Char) : List Char → Bool
  | [] => part.isEmpty
  | c :: cs => (Text.after? part (c :: cs)).isSome || occursIn part cs

structure Style where
  block : Bool
  flexRow : Bool
  hidden : Bool
  margin : Edges
  padding : Edges
  background : Option Colour
  colour : Colour
  border : Option Colour
  radius : Float32
  gap : Float32
  fontSize : Float32
  bold : Bool
  italic : Bool
  monospace : Bool

/-- Colour of a border that names none. -/
def defaultBorder : Colour := ⟨211, 211, 211, 255⟩

/-- Replaces the sides that the inline style sets one by one. -/
def Edges.refine (e : Edges) (style : InlineStyle) (property : String) : Edges :=
  let side (name : String) (old : Float32) : Float32 :=
    match (style.get? (property ++ "-" ++ name)).bind fun v => length? v.toList with
    | some v => positive v
    | none => old
  { top := side "top" e.top
    right := side "right" e.right
    bottom := side "bottom" e.bottom
    left := side "left" e.left }

/-- Colour of a border, unless the value is empty or says `none`. -/
def borderOf (value : String) : Option Colour :=
  if value.isEmpty || occursIn "none".toList value.toList then none
  else
    some (((Text.piecesBy Text.isBlank value.toList).findSome? Colour.parse?).getD defaultBorder)

/-- Reads a weight of the font as a number of sixteen bits. -/
def weight? (s : String) : Option Nat :=
  let ds := match s.toList with
    | '+' :: rest => rest
    | cs => cs
  if !ds.isEmpty && ds.all Char.isDigit && Text.decimal ds < 65536 then some (Text.decimal ds)
  else none

/-- Is text of this weight bold? -/
def isBold (weight : String) : Bool :=
  weight == "bold" || weight == "bolder" || (weight? weight).any (600 ≤ ·)

/-- The style of an element under a sheet. -/
def Style.resolve (sheet : Stylesheet.Sheet) (d : Document) (h : Handle) : Style :=
  let value := sheet.computed d h
  let amount (property : String) := positive ((length? (value property).toList).getD 0)
  let tag := (d.tag? h).getD "div"
  let inlineStyle := ((d.element? h).map (·.style)).getD {}
  let display := value "display"
  let family := (Text.lower (value "font-family")).toList
  { block :=
      if ["block", "flex", "grid"].contains display then true
      else if ["inline", "inline-block", "inline-flex"].contains display then false
      else blockTags.contains tag
    flexRow := occursIn "flex".toList display.toList &&
      (Text.after? "column".toList (value "flex-direction").toList).isNone
    hidden := display == "none" || hiddenTags.contains tag
    margin := (Edges.parse (value "margin")).refine inlineStyle "margin"
    padding := (Edges.parse (value "padding")).refine inlineStyle "padding"
    background :=
      (Colour.parse? (value "background-color").toList <|>
        Colour.parse? (value "background").toList).filter (· != Colour.transparent)
    colour := (Colour.parse? (value "color").toList).getD Colour.black
    border := borderOf (value "border")
    radius := amount "border-radius"
    gap := amount "gap"
    fontSize := clamp 6 96 ((length? (value "font-size").toList).getD baseSize)
    bold := isBold (value "font-weight")
    italic := value "font-style" == "italic"
    monospace := occursIn "mono".toList family || occursIn "courier".toList family }

end Box
end Restyle
