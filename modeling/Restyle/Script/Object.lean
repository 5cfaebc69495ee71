import Restyle.Script.Machine
import Restyle.Script.Numeral

/-!
# Restyle.Script.Object

Objects by themselves: the properties that an object holds, and when values are the same. Keys
that are indices come first, in ascending order; all others come in the order in which they were
added.

* `Obj.own?` — a property of the object.
* `Obj.define`, `Obj.remove` — the object with a property, or without it.
* `Description.slot`, `Description.isAllowed` — what becomes of a property that is defined anew.
-/

namespace Restyle
namespace Script

namespace Key

/-- The index that a key writes in decimal digits. -/
def index? : Key → Option Nat
  | name (.whole s) =>
    match s.toList with
    | [] => none
    | c :: cs =>
      if !c.isDigit || cs.length > 9 || !cs.all Char.isDigit || (c == '0' && !cs.isEmpty) then none
      else
        let n := Text.decimal (c :: cs)
        if n < 4294967295 then some n else none
  | _ => none

def ofNat (n : Nat) : Key := .name (toString n)

def isText (k : Key) : Bool :=
  match k with
  | name _ => true
  | _ => false

def isSymbol (k : Key) : Bool :=
  match k with
  | symbol _ => true
  | _ => false

end Key

namespace Value

def truthy : Value → Bool
  | undefined | null => false
  | boolean b => b
  | number x => !(x == 0.0 || x.isNaN)
  | bigint n => n != 0
  | string s => !s.isEmpty
  | symbol _ | object _ => true

/-- Equality without conversion. -/
def same : Value → Value → Bool
  | undefined, undefined | null, null => true
  | boolean a, boolean b => a == b
  | number a, number b => a == b
  | bigint a, bigint b => a == b
  | string a, string b => a == b
  | symbol a, symbol b => a == b
  | object a, object b => a == b
  | _, _ => false

/-- Equality that tells no number from itself. -/
def sameOrNan : Value → Value → Bool
  | number a, number b => a == b || (a.isNaN && b.isNaN)
  | a, b => same a b

/-- Equality that also tells the two zeros apart. -/
def identical : Value → Value → Bool
  | number a, number b => (a.isNaN && b.isNaN) || (a == b && Numeral.isNegative a == Numeral.isNegative b)
  | a, b => same a b

/-- The object where properties of a value are looked up first. -/
def home? : Value → Option Nat
  | object ref => some ref
  | string _ => some Ref.stringProto
  | number _ => some Ref.numberProto
  | boolean _ => some Ref.booleanProto
  | symbol _ => some Ref.symbolProto
  | bigint _ => some Ref.bigintProto
  | undefined | null => none

end Value

namespace Obj

/-- Plain items of an array, and its length. -/
def items? (o : Obj) : Option (Array (Option Value) × Nat) :=
  match o.kind with
  | .array items length => some (items, length)
  | _ => none

def isArray (o : Obj) : Bool :=
  match o.kind with
  | .array .. => true
  | _ => false

/-- Number of the plain items of an array, and of the holes among them. -/
def itemCount (o : Obj) : Nat :=
  match o.kind with
  | .array items _ => items.size
  | _ => 0

def isProxy (o : Obj) : Bool :=
  match o.kind with
  | .proxy .. => true
  | _ => false

/-- A property that is stored as such. -/
def stored? (o : Obj) (k : Key) : Option Slot := (o.props.find? (·.1 == k)).map (·.2)

/-- A property of the object itself. -/
def own? (o : Obj) (k : Key) : Option Slot :=
  match o.kind with
  | .array items length =>
    match k.index? with
    | some i =>
      match items[i]? with
      | some (some v) => some (.plain v)
      | _ => o.stored? k
    | none =>
      if k == .name "length" then some ⟨.data (.nat length), !o.lengthFixed, false, false⟩
      else o.stored? k
  | .wrapper (.string s) =>
    match k.index? with
    | some i =>
      match s.unit? i with
      | some u => some ⟨.data (.string (Utf16.ofUnits [u])), false, true, false⟩
      | none => o.stored? k
    | none => if k == .name "length" then some (.fixed (.nat s.length)) else o.stored? k
  | _ => o.stored? k

/-- Stores a property, in place of one with the same key. -/
def store (o : Obj) (k : Key) (slot : Slot) : Obj :=
  match o with
  | ⟨parent, kind, props, extensible, fixed⟩ =>
    match props.findIdx? (·.1 == k) with
    | some i => ⟨parent, kind, props.modify i fun _ => (k, slot), extensible, fixed⟩
    | none => ⟨parent, kind, props.push (k, slot), extensible, fixed⟩

/-- Without a property that is stored as such. -/
def unstore (o : Obj) (k : Key) : Obj :=
  match o with
  | ⟨parent, kind, props, extensible, fixed⟩ =>
    if props.any (·.1 == k) then ⟨parent, kind, props.filter (·.1 != k), extensible, fixed⟩
    else ⟨parent, kind, props, extensible, fixed⟩

/-- Puts an item into an array, or a hole, with holes up to it if it is beyond the end. -/
def putItem (o : Obj) (i : Nat) (v : Option Value) : Obj :=
  match o with
  | ⟨parent, .array items length, props, extensible, fixed⟩ =>
    let items :=
      if i < items.size then items.modify i fun _ => v
      else if i == items.size then items.push v
      else (items ++ Array.replicate (i - items.size) none).push v
    ⟨parent, .array items (max length (i + 1)), props, extensible, fixed⟩
  | o => o

/-- An array of at least a length. -/
def lengthen (o : Obj) (n : Nat) : Obj :=
  match o with
  | ⟨parent, .array items length, props, extensible, fixed⟩ =>
    ⟨parent, .array items (max length n), props, extensible, fixed⟩
  | o => o

/-- How many holes at most are kept before an item that is beyond the end. -/
def maxGap : Nat := 100000

/-- Defines a property of the object itself. -/
def define (o : Obj) (k : Key) (slot : Slot) : Obj :=
  match o.isArray, k.index? with
  | true, some i =>
    let n := o.itemCount
    let apart (o : Obj) : Obj := ((if i < n then o.putItem i none else o).store k slot).lengthen (i + 1)
    match slot.content with
    | .data v =>
      if slot.isPlain && i ≤ n + maxGap then (o.unstore k).putItem i (some v) else apart o
    | .accessor .. => apart o
  | _, _ => o.store k slot

def remove (o : Obj) (k : Key) : Obj :=
  match o.isArray, k.index? with
  | true, some i => (if i < o.itemCount then o.putItem i none else o).unstore k
  | _, _ => o.unstore k

/-- An array cut off at a length, unless an item beyond it cannot be removed; whether it could be
done. -/
def setLength (o : Obj) (n : Nat) : Obj × Bool :=
  match o with
  | ⟨parent, .array items _, props, extensible, fixed⟩ =>
    let last := props.foldl (fun m (k, s) =>
      match k.index? with
      | some i => if s.configurable then m else max m (i + 1)
      | none => m) n
    let props := props.filter fun (k, _) => k.index?.all (· < last)
    (⟨parent, .array (items.extract 0 last) last, props, extensible, fixed⟩, last == n)
  | o => (o, false)

/-- An array whose items are all stored as properties, so that each has its own attributes. -/
def spread (o : Obj) : Obj :=
  match o with
  | ⟨parent, .array items length, props, extensible, fixed⟩ =>
    let listed := items.toList.zipIdx.filterMap fun (v, i) => v.map fun v => (Key.ofNat i, Slot.plain v)
    ⟨parent, .array #[] length, listed.toArray ++ props, extensible, fixed⟩
  | o => o

/-- An object to which nothing can be added and from which nothing can be removed; if it is
frozen, its values stay as they are too. Hidden members are left alone. -/
def harden (frozen : Bool) (o : Obj) : Obj :=
  match o.spread with
  | ⟨parent, kind, props, _, fixed⟩ =>
    let hard := props.map fun (k, s) =>
      if k.isHidden then (k, s)
      else (k, { s with configurable := false, writable := s.writable && !(frozen && s.isData) })
    ⟨parent, kind, hard, false, fixed || frozen⟩

/-- Properties of the object itself with their keys, without hidden ones. -/
def entries (o : Obj) : List (Key × Slot) :=
  let listed := o.props.toList
  let numbered := listed.filterMap fun (k, s) => k.index?.map fun i => (i, s)
  let own : List (Nat × Slot) := match o.kind with
    | .array items _ => items.toList.zipIdx.filterMap fun (v, i) => v.map fun v => (i, .plain v)
    | .wrapper (.string s) =>
      s.units.zipIdx.map fun (u, i) => (i, ⟨.data (.string (Utf16.ofUnits [u])), false, true, false⟩)
    | _ => []
  let numbers :=
    if numbered.isEmpty then own else (own ++ numbered).mergeSort fun a b => a.1 ≤ b.1
  let length : List (Key × Slot) := match o.kind, o.own? "length" with
    | .array .., some s | .wrapper (.string _), some s => [("length", s)]
    | _, _ => []
  numbers.map (fun (i, s) => (Key.ofNat i, s)) ++ length ++
    listed.filter (fun (k, _) => k.isText && k.index?.isNone) ++ listed.filter (·.1.isSymbol)

/-- Keys of the object itself, without hidden ones. -/
def keys (o : Obj) : List Key := o.entries.map (·.1)

end Obj

/-! ## Definitions -/

/-- What a script says of a property that it defines. -/
structure Description where
  value : Option Value := none
  getter : Option Value := none
  setter : Option Value := none
  writable : Option Bool := none
  enumerable : Option Bool := none
  configurable : Option Bool := none

namespace Description

/-- All that can be said of a slot. -/
def ofSlot (s : Slot) : Description :=
  match s.content with
  | .data v =>
    { value := some v, writable := some s.writable, enumerable := some s.enumerable
      configurable := some s.configurable }
  | .accessor g t =>
    { getter := some g, setter := some t, enumerable := some s.enumerable
      configurable := some s.configurable }

def isAccessor (d : Description) : Bool := d.getter.isSome || d.setter.isSome

def isData (d : Description) : Bool := d.value.isSome || d.writable.isSome

/-- The property that is defined, in place of an old one if there is one. -/
def slot (d : Description) (old : Option Slot) : Slot :=
  let enumerable := d.enumerable.getD ((old.map (·.enumerable)).getD false)
  let configurable := d.configurable.getD ((old.map (·.configurable)).getD false)
  match old.map Slot.content with
  | some (.accessor g s) =>
    if d.isData then
      ⟨.data (d.value.getD .undefined), d.writable.getD false, enumerable, configurable⟩
    else ⟨.accessor (d.getter.getD g) (d.setter.getD s), true, enumerable, configurable⟩
  | some (.data v) =>
    if d.isAccessor then
      ⟨.accessor (d.getter.getD .undefined) (d.setter.getD .undefined), true, enumerable,
        configurable⟩
    else
      ⟨.data (d.value.getD v), d.writable.getD ((old.map (·.writable)).getD false), enumerable,
        configurable⟩
  | none =>
    if d.isAccessor then
      ⟨.accessor (d.getter.getD .undefined) (d.setter.getD .undefined), true, enumerable,
        configurable⟩
    else ⟨.data (d.value.getD .undefined), d.writable.getD false, enumerable, configurable⟩

/-- May an old property become what is described? One that cannot be removed keeps its kind and
its attributes, and its value unless that is writable. -/
def isAllowed (d : Description) (old : Slot) : Bool :=
  if old.configurable then true
  else if d.configurable == some true then false
  else if d.enumerable.any (· != old.enumerable) then false
  else
    match old.content with
    | .accessor g s => !d.isData && d.getter.all (·.identical g) && d.setter.all (·.identical s)
    | .data v =>
      !d.isAccessor &&
        (old.writable || (d.writable != some true && d.value.all (·.identical v)))

end Description

end Script
end Restyle
