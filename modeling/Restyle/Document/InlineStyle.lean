import Restyle.Text

/-!
# Restyle.Document.InlineStyle

The inline style of an element: a map from property names to values that keeps the order in
which properties were first set. Names are stored trimmed and in lower case, values trimmed
and never empty; setting an empty value removes the property.
-/

namespace Restyle

structure InlineStyle where
  declarations : List (String × String) := []
  deriving Repr, BEq, DecidableEq, Inhabited

namespace InlineStyle

/-- Value of the first declaration whose name equals `name` up to case. -/
def get? (style : InlineStyle) (name : String) : Option String :=
  (style.declarations.find? fun d => Text.sameFolded d.1 name).map (·.2)

/-- Removes a property, whatever blanks stand around the name given. -/
def erase (style : InlineStyle) (name : String) : InlineStyle :=
  ⟨style.declarations.filter fun d => !Text.sameFolded d.1 (Text.trim name)⟩

/-- Replaces the value stored under a key, or adds the pair at the end. -/
def put (key value : String) : List (String × String) → List (String × String)
  | [] => [(key, value)]
  | d :: rest => if d.1 == key then (d.1, value) :: rest else d :: put key value rest

/-- Sets a property; an empty value removes it. -/
def set (style : InlineStyle) (name value : String) : InlineStyle :=
  let value := Text.trim value
  if value.isEmpty then style.erase name
  else ⟨put (Text.lower (Text.trim name)) value style.declarations⟩

def ofDeclarations (ds : List (String × String)) : InlineStyle :=
  ds.foldl (fun style d => style.set d.1 d.2) {}

def isEmpty (style : InlineStyle) : Bool :=
  style.declarations.isEmpty

/-- The text of a `style` attribute: `name:value` pairs joined by semicolons. -/
def cssText (style : InlineStyle) : String :=
  ";".intercalate (style.declarations.map fun d => d.1 ++ ":" ++ d.2)

end InlineStyle
end Restyle
