import Restyle.Script.Lookup

/-!
# Restyle.Script.Convert

Values as values of another kind, and when values of different kinds are equal.
-/

namespace Restyle
namespace Script

namespace Run

/-- Which primitive value is wanted of an object. -/
inductive Wish where
  | any | number | text
  deriving BEq

/-- The first of some methods that gives a primitive value. -/
def firstPrimitive (h : Host) (v : Value) : List String → Run Value
  | [] => typeError "cannot convert object to primitive value"
  | x :: xs => do
    let f ← getName h v x
    if ← isCallable f then
      let r ← h.call f v []
      if !r.isObject then return r
    firstPrimitive h v xs

def toPrimitive (h : Host) (wish : Wish) (v : Value) : Run Value := do
  match v with
  | .object _ =>
    match ← method? h v (.symbol Symbols.toPrimitive) with
    | some f =>
      let hint := match wish with
        | .any => "default"
        | .number => "number"
        | .text => "string"
      let r ← h.call f v [.text hint]
      if r.isObject then typeError "cannot convert object to primitive value" else return r
    | none =>
      firstPrimitive h v
        (if wish == .text then ["toString", "valueOf"] else ["valueOf", "toString"])
  | v => return v

/-- Text of a primitive value. -/
def primitiveText (v : Value) : Run Utf16 := do
  match v with
  | .undefined => return "undefined"
  | .null => return "null"
  | .boolean b => return if b then "true" else "false"
  | .number x => return Numeral.text x
  | .bigint n => return toString n
  | .string s => return s
  | .symbol _ => typeError "cannot convert Symbol to string"
  | .object _ => return "[object Object]"

def toText (h : Host) (v : Value) : Run Utf16 := do
  match v with
  | .string s => return s
  | v => primitiveText (← toPrimitive h .text v)

/-- Number of a primitive value. -/
def primitiveNumber (v : Value) : Run Float := do
  match v with
  | .undefined => return Numeral.nan
  | .null => return 0.0
  | .boolean b => return if b then 1.0 else 0.0
  | .number x => return x
  | .string s => return Numeral.read s
  | .bigint _ => typeError "cannot convert a BigInt value to a number"
  | .symbol _ => typeError "cannot convert a Symbol value to a number"
  | .object _ => return Numeral.nan

def toNumber (h : Host) (v : Value) : Run Float := do
  match v with
  | .number x => return x
  | v => primitiveNumber (← toPrimitive h .number v)

/-- A number of either sort. -/
def toNumeric (h : Host) (v : Value) : Run Value := do
  match v with
  | .number _ | .bigint _ => return v
  | v =>
    match ← toPrimitive h .number v with
    | .bigint n => return .bigint n
    | p => return .number (← primitiveNumber p)

/-- The integer part of a number; infinities stay, and what is no number is zero. -/
def toInteger (h : Host) (v : Value) : Run Float := do
  let x ← toNumber h v
  if x.isNaN then return 0.0
  if x < 0.0 then return x.ceil else return x.floor

/-- A number as a position: at least zero, and not beyond an end. -/
def clamp (x : Float) (last : Nat) : Nat :=
  if x ≤ 0.0 then 0 else if x ≥ Float.ofNat last then last else x.toUInt64.toNat

/-- A position that is counted from the end if it is negative. -/
def relative (x : Float) (size : Nat) : Nat :=
  if x < 0.0 then clamp (x + Float.ofNat size) size else clamp x size

/-- A position in a text or list from an argument; a default if there is none. -/
def toRelative (h : Host) (v : Value) (size default : Nat) : Run Nat := do
  match v with
  | .undefined => return default
  | v => return relative (← toInteger h v) size

/-- The number as an index or length. -/
def asIndex? (x : Float) : Option Nat :=
  if x ≥ 0.0 && x < 4294967296.0 && x.floor == x then some x.toUInt64.toNat else none

def toLength (h : Host) (v : Value) : Run Nat := do
  return clamp (← toInteger h v) 9007199254740991

def toKey (h : Host) (v : Value) : Run Key := do
  match v with
  | .string s => return .name s
  | .number x => return .name (Numeral.text x)
  | .symbol id => return .symbol id
  | v =>
    match ← toPrimitive h .text v with
    | .symbol id => return .symbol id
    | p => return .name (← primitiveText p)

/-- The object that stands for a value. -/
def toObject (v : Value) : Run Nat := do
  match v with
  | .object ref => return ref
  | .undefined | .null => typeError "cannot convert 'null' or 'undefined' to object"
  | v => alloc { parent := v.home?, kind := .wrapper v }

/-- Equality with conversion. -/
def looselySame (h : Host) : Nat → Value → Value → Run Bool
  | 0, _, _ => return false
  | fuel + 1, a, b => do
    match a, b with
    | .undefined, .null | .null, .undefined => return true
    | .undefined, .undefined | .null, .null => return true
    | .undefined, _ | .null, _ | _, .undefined | _, .null => return false
    | .number x, .string s => return x == Numeral.read s
    | .string s, .number x => return Numeral.read s == x
    | .bigint n, .number x => return Numeral.isInteger x && Numeral.truncate x == n
    | .number x, .bigint n => return Numeral.isInteger x && Numeral.truncate x == n
    | .bigint n, .string s | .string s, .bigint n => return Numeral.readInteger? s == some n
    | .boolean x, b => looselySame h fuel (.number (if x then 1.0 else 0.0)) b
    | a, .boolean y => looselySame h fuel a (.number (if y then 1.0 else 0.0))
    | .object r, .object r' => return r == r'
    | .object _, b => looselySame h fuel (← toPrimitive h .any a) b
    | a, .object _ => looselySame h fuel a (← toPrimitive h .any b)
    | a, b => return a.same b

/-- Length of a list-like object. -/
def lengthOf (h : Host) (v : Value) : Run Nat := do
  match v with
  | .object ref =>
    match (← obj ref).items? with
    | some (_, length) => return length
    | none => toLength h (← getName h v "length")
  | v => toLength h (← getName h v "length")

/-- The plain item of an array at a position. -/
def plainItem? (v : Value) (i : Nat) : Run (Option Value) := fun m =>
  match v with
  | .object ref =>
    match (m.heap[ref]?).bind Obj.items? with
    | some (items, _) => .ok (items[i]?.getD none) m
    | none => .ok none m
  | _ => .ok none m

/-- The item of a list-like object at a position. -/
def itemAt (h : Host) (v : Value) (i : Nat) : Run Value := do
  match ← plainItem? v i with
  | some x => return x
  | none => getProp h v (Key.ofNat i)

/-- The items of a list-like object. -/
def listItems (h : Host) (v : Value) : Run (List Value) := do
  let n ← lengthOf h v
  if n > 100000000 then rangeError "invalid array length"
  (List.range n).mapM (itemAt h v)

/-- A position from an argument, which must be one. -/
def toIndex (h : Host) (v : Value) : Run Nat := do
  let x ← toInteger h v
  if x < 0.0 || x > 9007199254740991.0 then rangeError "index is out of range"
  return x.toUInt64.toNat

/-- Can the value make objects? -/
def isConstructor : Value → Run Bool
  | .object ref => constructs chainBound ref
  | _ => return false
where
  constructs : Nat → Nat → Run Bool
    | 0, _ => return false
    | fuel + 1, ref => do
      match (← obj ref).kind with
      | .closure c =>
        let t := c.func.traits
        return match t.kind with
          | .plain => !t.isAsync && !t.isGenerator
          | .baseConstructor | .derivedConstructor => true
          | _ => false
      | .native n => return n.family == .constructor || n.family == .component
      | .bound (.object target) _ _ => constructs fuel target
      | .proxy _ _ constructor => return constructor
      | _ => return false

end Run
end Script
end Restyle
