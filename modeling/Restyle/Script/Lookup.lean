import Restyle.Script.Object

/-!
# Restyle.Script.Lookup

Reading properties: looking them up along the chain of parents, and listing keys. An object that
hands all to a handler asks it each time.

* `Run.getProp` — the value of a property of any value.
* `Run.ownSlot?`, `Run.hasProperty`, `Run.ownKeys` — what an object has.
-/

namespace Restyle
namespace Script
namespace Run

/-! ## What a value is -/

def isCallable (v : Value) : Run Bool := do
  match v with
  | .object ref =>
    match (← obj ref).kind with
    | .closure _ | .native _ | .bound .. => return true
    | .proxy _ callable _ => return callable
    | _ => return false
  | _ => return false

/-- The word that `typeof` gives. -/
def typeWord (v : Value) : Run String := do
  match v with
  | .undefined => return "undefined"
  | .null => return "object"
  | .boolean _ => return "boolean"
  | .number _ => return "number"
  | .bigint _ => return "bigint"
  | .string _ => return "string"
  | .symbol _ => return "symbol"
  | .object _ => return if ← isCallable v then "function" else "object"

/-- The object and the handler of a proxy. -/
def proxyParts (ref : Nat) : Run (Nat × Nat) := do
  match (← obj ref).kind with
  | .proxy (some parts) _ _ => return parts
  | _ => typeError "proxy object was revoked"

/-- Bound on the length of a chain of parents, and of objects that stand for others. -/
def chainBound : Nat := 10000

/-- Is the value an array, or does it stand for one? -/
def isArrayWithin : Nat → Value → Run Bool
  | 0, _ => return false
  | fuel + 1, v => do
    match v with
    | .object ref =>
      match (← obj ref).kind with
      | .array .. => return true
      | .proxy .. => do
        let (target, _) ← proxyParts ref
        isArrayWithin fuel (.object target)
      | _ => return false
    | _ => return false

def isArray (v : Value) : Run Bool := isArrayWithin chainBound v

/-- A method, which may be missing. -/
def callable? (v : Value) : Run (Option Value) := do
  match v with
  | .undefined | .null => return none
  | f => if ← isCallable f then return some f else typeError "value is not callable"

/-! ## Properties -/

/-- What is found along the parents of an object. -/
inductive Found where
  | slot (s : Slot)
  | absent
  /-- An object that has to be asked. -/
  | proxy (ref : Nat)

def findSlot (k : Key) (heap : Array Obj) : Nat → Nat → Found
  | 0, _ => .absent
  | fuel + 1, ref =>
    match heap[ref]? with
    | none => .absent
    | some o =>
      if o.isProxy then .proxy ref
      else
        match o.own? k with
        | some slot => .slot slot
        | none =>
          match o.parent with
          | some p => findSlot k heap fuel p
          | none => .absent

def find (ref : Nat) (k : Key) : Run Found := fun m => .ok (findSlot k m.heap chainBound ref) m

/-- The value of a property that was found. -/
def readSlot (h : Host) (slot : Slot) (this : Value) : Run Value :=
  match slot.content with
  | .data v => pure v
  | .accessor getter _ =>
    match getter with
    | .undefined => pure .undefined
    | f => h.call f this []

/-- The own property of an object that is asked for none, for comparison with what a handler
says. -/
def plainOwn? (ref : Nat) (k : Key) : Run (Option Slot) := do
  let o ← obj ref
  return if o.isProxy then none else o.own? k

/-- The value of a property of an object; getters are called on `this`. -/
def getOn (h : Host) : Nat → Nat → Key → Value → Run Value
  | 0, _, _, _ => throw .limit
  | fuel + 1, ref, k, this => do
    match ← find ref k with
    | .slot s => readSlot h s this
    | .absent => return .undefined
    | .proxy p => do
      let (target, handler) ← proxyParts p
      match ← callable? (← getOn h fuel handler "get" (.object handler)) with
      | none => getOn h fuel target k this
      | some f =>
        let v ← h.call f (.object handler) [.object target, k.value, this]
        match ← plainOwn? target k with
        | some ⟨.data old, false, _, false⟩ =>
          if !v.identical old then typeError "proxy must report the value of the property"
        | some ⟨.accessor .undefined _, _, _, false⟩ =>
          if !v.isUndefined then typeError "proxy must report undefined"
        | _ => pure ()
        return v

/-- The value of a property of any value. -/
def getProp (h : Host) (v : Value) (k : Key) : Run Value := do
  match v with
  | .object ref => getOn h chainBound ref k v
  | .string s =>
    match k.index? with
    | some i =>
      match s.unit? i with
      | some u => return .string (Utf16.ofUnits [u])
      | none => getOn h chainBound Ref.stringProto k v
    | none =>
      if k == .name "length" then return .nat s.length
      getOn h chainBound Ref.stringProto k v
  | _ =>
    match v.home? with
    | none => typeError "cannot convert 'null' or 'undefined' to object"
    | some ref => getOn h chainBound ref k v

def getName (h : Host) (v : Value) (x : String) : Run Value := getProp h v (.name x)

/-- The function that an iterator, a getter and the like must be. -/
def method? (h : Host) (v : Value) (k : Key) : Run (Option Value) := do
  callable? (← getProp h v k)

/-- What a handler has for an operation, with the object and the handler. -/
def trap? (h : Host) (ref : Nat) (name : String) : Run (Nat × Nat × Option Value) := do
  let (target, handler) ← proxyParts ref
  return (target, handler, ← method? h (.object handler) (.name name))

def hasOn (h : Host) : Nat → Nat → Key → Run Bool
  | 0, _, _ => throw .limit
  | fuel + 1, ref, k => do
    match ← find ref k with
    | .slot _ => return true
    | .absent => return false
    | .proxy p => do
      let (target, handler, f) ← trap? h p "has"
      match f with
      | none => hasOn h fuel target k
      | some f =>
        let there := (← h.call f (.object handler) [.object target, k.value]).truthy
        if !there then
          match ← plainOwn? target k with
          | some s =>
            if !s.configurable || !(← obj target).extensible then
              typeError "proxy cannot hide the property"
          | none => pure ()
        return there

/-- Has an object a property, or one of its parents? -/
def hasProperty (h : Host) (ref : Nat) (k : Key) : Run Bool := hasOn h chainBound ref k

/-- Reads the description of a property. -/
def description (h : Host) (v : Value) : Run Description := do
  match v with
  | .object d =>
    let field (x : String) : Run (Option Value) := do
      if ← hasProperty h d (.name x) then return some (← getName h v x) else return none
    let flag (x : String) : Run (Option Bool) := do return (← field x).map Value.truthy
    let enumerable ← flag "enumerable"
    let configurable ← flag "configurable"
    let value ← field "value"
    let writable ← flag "writable"
    let function (x : String) : Run (Option Value) := do
      match ← field x with
      | none => return none
      | some .undefined => return some .undefined
      | some f => if ← isCallable f then return some f else typeError "accessor is not callable"
    let getter ← function "get"
    let setter ← function "set"
    if (getter.isSome || setter.isSome) && (value.isSome || writable.isSome) then
      typeError "description has both an accessor and a value"
    return { value, getter, setter, writable, enumerable, configurable }
  | _ => typeError "property description must be an object"

/-- Description of a property as an object. -/
def describeSlot (slot : Slot) : Run Value := do
  let flags : List (Key × Value) :=
    [(.name "enumerable", .boolean slot.enumerable), (.name "configurable", .boolean slot.configurable)]
  match slot.content with
  | .data v =>
    plainObject ([(.name "value", v), (.name "writable", .boolean slot.writable)] ++ flags)
  | .accessor g s => plainObject ([(.name "get", g), (.name "set", s)] ++ flags)

def ownSlotOn (h : Host) : Nat → Nat → Key → Run (Option Slot)
  | 0, _, _ => throw .limit
  | fuel + 1, ref, k => do
    let o ← obj ref
    if !o.isProxy then return o.own? k
    let (target, handler, f) ← trap? h ref "getOwnPropertyDescriptor"
    match f with
    | none => ownSlotOn h fuel target k
    | some f =>
      let there ← ownSlotOn h fuel target k
      match ← h.call f (.object handler) [.object target, k.value] with
      | .undefined =>
        match there with
        | some s =>
          if !s.configurable || !(← obj target).extensible then
            typeError "proxy cannot hide the property"
          return none
        | none => return none
      | v => do
        let d ← description h v
        let new := d.slot none
        match there with
        | some s =>
          if !(Description.ofSlot new).isAllowed s || (s.configurable && !new.configurable) then
            typeError "proxy must report the property as it is"
        | none =>
          if !(← obj target).extensible || !new.configurable then
            typeError "proxy must report the property as it is"
        return some new

/-- A property of an object itself. -/
def ownSlot? (h : Host) (ref : Nat) (k : Key) : Run (Option Slot) := ownSlotOn h chainBound ref k

def hasOwn (h : Host) (ref : Nat) (k : Key) : Run Bool := do return (← ownSlot? h ref k).isSome

def isOpenOn (h : Host) : Nat → Nat → Run Bool
  | 0, _ => throw .limit
  | fuel + 1, ref => do
    let o ← obj ref
    if !o.isProxy then return o.extensible
    let (target, handler, f) ← trap? h ref "isExtensible"
    let there ← isOpenOn h fuel target
    match f with
    | none => return there
    | some f =>
      if (← h.call f (.object handler) [.object target]).truthy != there then
        typeError "proxy must report whether the object is extensible"
      return there

/-- Can properties be added to an object? -/
def isOpen (h : Host) (ref : Nat) : Run Bool := isOpenOn h chainBound ref

def parentOn (h : Host) : Nat → Nat → Run (Option Nat)
  | 0, _ => throw .limit
  | fuel + 1, ref => do
    let o ← obj ref
    if !o.isProxy then return o.parent
    let (target, handler, f) ← trap? h ref "getPrototypeOf"
    match f with
    | none => parentOn h fuel target
    | some f =>
      let p ← match ← h.call f (.object handler) [.object target] with
        | .object p => pure (some p)
        | .null => pure none
        | _ => typeError "prototype must be an object or null"
      if !(← isOpenOn h fuel target) && p != (← parentOn h fuel target) then
        typeError "proxy must report the prototype as it is"
      return p

/-- The parent of an object. -/
def parent? (h : Host) (ref : Nat) : Run (Option Nat) := parentOn h chainBound ref

/-- Items of an object that looks like a list of keys. -/
def keyItems (h : Host) (v : Value) : Nat → Nat → Run (List Key)
  | 0, _ => return []
  | left + 1, i => do
    let k : Key ← match ← getProp h v (Key.ofNat i) with
      | .string s => pure (.name s)
      | .symbol id => pure (.symbol id)
      | _ => typeError "proxy must report keys"
    return k :: (← keyItems h v left (i + 1))

def ownKeysOn (h : Host) : Nat → Nat → Run (List Key)
  | 0, _ => throw .limit
  | fuel + 1, ref => do
    let o ← obj ref
    if !o.isProxy then return o.keys
    let (target, handler, f) ← trap? h ref "ownKeys"
    let there ← ownKeysOn h fuel target
    match f with
    | none => return there
    | some f =>
      let v ← h.call f (.object handler) [.object target]
      let n ← match v with
        | .object _ =>
          match ← getName h v "length" with
          | .number x => pure (if x ≥ 0.0 && x < 4294967296.0 then x.toUInt64.toNat else 0)
          | _ => pure 0
        | _ => typeError "proxy must report a list of keys"
      let ks ← keyItems h v n 0
      if ks.eraseDups.length != ks.length then typeError "proxy must report each key once"
      let isOpen ← isOpenOn h fuel target
      let firm ← there.filterM fun k => do
        return !isOpen || (← ownSlotOn h fuel target k).any (!·.configurable)
      if !firm.all ks.contains || (!isOpen && !ks.all there.contains) then
        typeError "proxy must report all keys"
      return ks

/-- Keys of an object itself. -/
def ownKeys (h : Host) (ref : Nat) : Run (List Key) := ownKeysOn h chainBound ref

/-- Keys of an object itself that are listed, symbols apart. -/
def listedKeys (h : Host) (ref : Nat) : Run (List Key) := do
  let o ← obj ref
  if !o.isProxy then
    return o.entries.filterMap fun (k, s) => if k.isText && s.enumerable then some k else none
  (← ownKeys h ref).filterM fun k => do
    if !k.isText then return false
    return (← ownSlot? h ref k).any (·.enumerable)

end Run
end Script
end Restyle
