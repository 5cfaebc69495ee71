import Restyle.Script.Utf16

/-!
# Restyle.Script.Value

Values of scripts, the keys of properties, and the properties that objects hold under them.
-/

namespace Restyle
namespace Script

inductive Value where
  | undefined
  | null
  | boolean (b : Bool)
  | number (x : Float)
  | bigint (n : Int)
  | string (s : Utf16)
  | symbol (id : Nat)
  | object (ref : Nat)
  deriving Repr, BEq, Inhabited

namespace Value

def text (s : String) : Value := .string s

def nat (n : Nat) : Value := .number (Float.ofNat n)

def isNullish : Value → Bool
  | undefined | null => true
  | _ => false

def isObject : Value → Bool
  | object _ => true
  | _ => false

def isUndefined : Value → Bool
  | undefined => true
  | _ => false

end Value

/-- Keys of properties. -/
inductive Key where
  | name (s : Utf16)
  | symbol (id : Nat)
  /-- A member that only its class can reach, by the symbol that the class made for it. -/
  | hidden (id : Nat)
  deriving Repr, BEq, Inhabited

instance : Coe String Key := ⟨fun s => .name s⟩

namespace Key

/-- The key as a value. -/
def value : Key → Value
  | name s => .string s
  | symbol id | hidden id => .symbol id

def isHidden : Key → Bool
  | hidden _ => true
  | _ => false

end Key

inductive Content where
  | data (v : Value)
  | accessor (getter setter : Value)
  deriving Repr, BEq, Inhabited

/-- A property: its content, and what may be done with it. -/
structure Slot where
  content : Content
  writable : Bool := true
  enumerable : Bool := true
  configurable : Bool := true
  deriving Repr, BEq, Inhabited

namespace Slot

/-- A property that is writable, listed and removable. -/
def plain (v : Value) : Slot := ⟨.data v, true, true, true⟩

/-- A property that is not listed. -/
def quiet (v : Value) : Slot := ⟨.data v, true, false, true⟩

/-- A property that can only be removed or defined anew. -/
def label (v : Value) : Slot := ⟨.data v, false, false, true⟩

/-- A property that stays as it is. -/
def fixed (v : Value) : Slot := ⟨.data v, false, false, false⟩

/-- The value, if the property holds one. -/
def value? (s : Slot) : Option Value :=
  match s.content with
  | .data v => some v
  | .accessor .. => none

def isData (s : Slot) : Bool := s.value?.isSome

def isPlain (s : Slot) : Bool := s.isData && s.writable && s.enumerable && s.configurable

end Slot

inductive ErrorKind where
  | plain | evaluation | range | reference | form | type | uri | aggregate
  deriving Repr, BEq, DecidableEq

namespace ErrorKind

def name : ErrorKind → String
  | plain => "Error"
  | evaluation => "EvalError"
  | range => "RangeError"
  | reference => "ReferenceError"
  | form => "SyntaxError"
  | type => "TypeError"
  | uri => "URIError"
  | aggregate => "AggregateError"

def all : List ErrorKind :=
  [plain, evaluation, range, reference, form, type, uri, aggregate]

end ErrorKind

end Script
end Restyle
