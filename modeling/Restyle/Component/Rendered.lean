import Restyle.Script.Utf16

/-!
# Restyle.Component.Rendered

What a component renders: a tree of texts and elements, and the markup that writes it.

* `Rendered.markup` — the markup of a tree.
* `hyphenated` — the style sheet name of a property that is written with capitals.
-/

namespace Restyle
namespace Component

open Script (Utf16)

/-- An attribute; one without a value is only named. -/
structure Attribute where
  name : Utf16
  value : Option Utf16
  deriving Repr, BEq, DecidableEq

inductive Rendered where
  | text (s : Utf16)
  /-- Markup that is given as such. -/
  | raw (markup : Utf16)
  | element (tag : Utf16) (attributes : List Attribute) (children : List Rendered)
  deriving Repr

/-! ## Names -/

/-- Names that every table has, because every object has them. -/
def commonNames : List String :=
  ["constructor", "hasOwnProperty", "isPrototypeOf", "propertyIsEnumerable", "toLocaleString",
    "toString", "valueOf", "__defineGetter__", "__defineSetter__", "__lookupGetter__",
    "__lookupSetter__", "__proto__"]

/-- Is a name in a table? -/
def isListed (table : List String) (x : Utf16) : Bool :=
  match x with
  | .whole x => table.contains x || commonNames.contains x
  | .broken _ => false

/-- Tags of elements that have no content. -/
def voidTags : List String :=
  ["area", "base", "br", "col", "embed", "hr", "img", "input", "link", "meta", "source", "track",
    "wbr"]

/-- Style properties whose numbers have no unit. -/
def unitless : List String :=
  ["animationIterationCount", "aspectRatio", "columnCount", "flex", "flexGrow", "flexShrink",
    "fontWeight", "gridColumn", "gridRow", "lineHeight", "opacity", "order", "orphans", "tabSize",
    "widows", "zIndex", "zoom", "fillOpacity", "strokeOpacity"]

/-- Properties of elements whose attribute has another name. -/
def attributeNames : List (String × String) :=
  [("className", "class"), ("htmlFor", "for"), ("tabIndex", "tabindex"), ("readOnly", "readonly"),
    ("maxLength", "maxlength"), ("colSpan", "colspan"), ("rowSpan", "rowspan"),
    ("autoFocus", "autofocus"), ("autoComplete", "autocomplete"), ("defaultValue", "value"),
    ("defaultChecked", "checked"), ("srcSet", "srcset"), ("crossOrigin", "crossorigin")]

/-- Properties of elements that give no attribute. -/
def unshown : List String :=
  ["children", "key", "ref", "dangerouslySetInnerHTML", "suppressHydrationWarning",
    "suppressContentEditableWarning"]

/-- The attribute for a property. -/
def attributeName (x : Utf16) : Utf16 :=
  match x with
  | .whole s => .whole ((attributeNames.lookup s).getD s)
  | x => x

def isCapital (c : Char) : Bool := 'A' ≤ c && c ≤ 'Z'

/-- Characters of a text; surrogates that stand alone count as some character. -/
def chars : Utf16 → List Char
  | .whole s => s.toList
  | .broken us => us.map fun u => Char.ofNat u.toNat

/-- Is the property a handler of events? -/
def isHandler (x : Utf16) : Bool :=
  match chars x with
  | 'o' :: 'n' :: c :: _ => isCapital c
  | _ => false

/-- Is an attribute one whose truth is written out? -/
def spellsTruth (x : Utf16) : Bool :=
  "data-".toList.isPrefixOf (chars x) || "aria-".toList.isPrefixOf (chars x)

/-- Does a name start like one that the author of the style chose? -/
def isCustom (x : Utf16) : Bool := "--".toList.isPrefixOf (chars x)

def hasCapital (x : Utf16) : Bool := (chars x).any isCapital && !isCustom x

/-- A unit with a hyphen before it, if it is a capital. -/
def hyphenatedUnit (u : UInt16) : List UInt16 :=
  if 65 ≤ u && u ≤ 90 then [45, u + 32] else [u]

/-- The name of a style property as style sheets write it. -/
def hyphenated (x : Utf16) : Utf16 :=
  if isCustom x then x
  else
    let out := match x with
      | .whole s => Utf16.ofChars (s.toList.flatMap fun c => if isCapital c then ['-', c.toLower] else [c])
      | .broken us => .ofUnits (us.flatMap hyphenatedUnit)
    if "ms-".toList.isPrefixOf (chars out) then .whole "-" ++ out else out

/-! ## Markup -/

def escapeText (s : Utf16) : Utf16 :=
  ((s.replaceUnit '&' "&amp;").replaceUnit '<' "&lt;").replaceUnit '>' "&gt;"

def escapeAttribute (s : Utf16) : Utf16 := (escapeText s).replaceUnit '"' "&quot;"

namespace Attribute

/-- An attribute as it stands in a tag, after a space. -/
def markup (a : Attribute) : Utf16 :=
  match a.value with
  | none => .whole " " ++ a.name
  | some v => .whole " " ++ a.name ++ .whole "=\"" ++ escapeAttribute v ++ .whole "\""

end Attribute

/-- Texts one after the other. -/
def concat : List Utf16 → Utf16
  | [] => .whole ""
  | s :: rest => s ++ concat rest

namespace Rendered

mutual

def markup : Rendered → Utf16
  | text s => escapeText s
  | raw s => s
  | element tag attributes children =>
    let start := .whole "<" ++ tag ++ concat (attributes.map Attribute.markup) ++ .whole ">"
    if isListed voidTags tag then start
    else start ++ markupAll children ++ .whole "</" ++ tag ++ .whole ">"

def markupAll : List Rendered → Utf16
  | [] => .whole ""
  | r :: rest => r.markup ++ markupAll rest

end

end Rendered
end Component
end Restyle
