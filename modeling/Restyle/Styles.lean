import Restyle.Property
import Restyle.Json.Text

/-!
# Restyle.Styles

A value or nothing for each property. An empty value is a recorded edit that clears the
property, which is not the same as no value.
-/

namespace Restyle

structure Styles where
  padding : Option String := none
  margin : Option String := none
  background : Option String := none
  fontSize : Option String := none
  fontWeight : Option String := none
  fontFamily : Option String := none
  deriving Repr, BEq, DecidableEq, Inhabited

namespace Styles

def get? (s : Styles) : Property → Option String
  | .padding => s.padding
  | .margin => s.margin
  | .background => s.background
  | .fontSize => s.fontSize
  | .fontWeight => s.fontWeight
  | .fontFamily => s.fontFamily

/-- Value for display: empty where none is recorded. -/
def value (s : Styles) (p : Property) : String := (s.get? p).getD ""

/-- Records a value, or nothing, for a property. -/
def put (s : Styles) (p : Property) (v : Option String) : Styles :=
  match p with
  | .padding => { s with padding := v }
  | .margin => { s with margin := v }
  | .background => { s with background := v }
  | .fontSize => { s with fontSize := v }
  | .fontWeight => { s with fontWeight := v }
  | .fontFamily => { s with fontFamily := v }

def set (s : Styles) (p : Property) (v : String) : Styles := s.put p (some v)

def erase (s : Styles) (p : Property) : Styles := s.put p none

@[simp] theorem get?_put (s : Styles) (p q : Property) (v : Option String) :
    (s.put p v).get? q = if p = q then v else s.get? q := by
  cases p <;> cases q <;> rfl

/-- The recorded values in the order of the properties. -/
def toList (s : Styles) : List (Property × String) :=
  Property.all.filterMap fun p => (s.get? p).map (p, ·)

def ofList (pairs : List (Property × String)) : Styles :=
  pairs.foldl (fun s (p, v) => s.set p v) {}

def size (s : Styles) : Nat := s.toList.length

def isEmpty (s : Styles) : Bool := s.toList.isEmpty

/-- The recorded values as a JSON object. -/
def json (s : Styles) : String :=
  "\x7b" ++ ",".intercalate (s.toList.map fun (p, v) =>
    Json.quote p.name ++ ":" ++ Json.quote v) ++ "\x7d"

/-- The property that a JSON key names. -/
def ofJsonKey? (key : String) : Option Property :=
  Property.all.find? fun p => p.name == key

def readMember? (member : String × String) : Option (Property × String) :=
  (ofJsonKey? member.1).map (·, member.2)

/-- Reads a JSON object of values; its keys are the names of properties. -/
def ofJson? (text : String) : Option Styles :=
  match Json.readPairs? text with
  | none => none
  | some pairs => (pairs.mapM readMember?).map ofList

end Styles
end Restyle
