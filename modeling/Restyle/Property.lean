import Restyle.Text

/-!
# Restyle.Property

The six properties that can be edited, with their names in overrides, in style objects and in
style sheets, and the texts of their fields.
-/

namespace Restyle

inductive Property where
  | padding | margin | background | fontSize | fontWeight | fontFamily
  deriving Repr, BEq, DecidableEq, Inhabited

namespace Property

/-- All properties, in the order of their fields. -/
def all : List Property := [padding, margin, background, fontSize, fontWeight, fontFamily]

/-- Name in the table of overrides. -/
def name : Property → String
  | padding => "padding"
  | margin => "margin"
  | background => "background"
  | fontSize => "fontSize"
  | fontWeight => "fontWeight"
  | fontFamily => "fontFamily"

/-- Key in a style object. -/
def key : Property → String
  | background => "backgroundColor"
  | p => p.name

/-- Name in a style sheet. -/
def cssName : Property → String
  | padding => "padding"
  | margin => "margin"
  | background => "background-color"
  | fontSize => "font-size"
  | fontWeight => "font-weight"
  | fontFamily => "font-family"

def label : Property → String
  | padding => "Padding"
  | margin => "Margin"
  | background => "Background"
  | fontSize => "Font Size"
  | fontWeight => "Font Weight"
  | fontFamily => "Font Family"

/-- Text of an empty field. -/
def placeholder : Property → String
  | padding => "e.g., 16px"
  | margin => "e.g., 8px 16px"
  | background => "e.g., #ffffff"
  | fontSize => "e.g., 14px"
  | fontWeight => "e.g., bold"
  | fontFamily => "e.g., Arial"

/-- The property with a name, a key or, in either case, a name in style sheets. -/
def ofName? (s : String) : Option Property :=
  let s := Text.trim s
  all.find? fun p => p.name == s || p.key == s || Text.sameFolded p.cssName s

end Property
end Restyle
