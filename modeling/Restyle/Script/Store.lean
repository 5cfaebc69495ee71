import Restyle.Script.Convert

/-!
# Restyle.Script.Store

Changing properties: defining, setting and deleting them, and changing the parent of an object.

* `Run.defineOwn` — defines a property; whether that is allowed.
* `Run.setProp`, `Run.delete` — as assignments and deletions in scripts do it: what is not
  allowed throws.
-/

namespace Restyle
namespace Script
namespace Run

/-! ## Defining -/

/-- Adds a property that is writable, listed and removable to an object of the engine's own. -/
def add (ref : Nat) (k : Key) (v : Value) : Run Unit := modifyObj ref (·.define k (.plain v))

/-- Stores a property as it is. -/
def put (ref : Nat) (k : Key) (slot : Slot) : Run Unit := modifyObj ref (·.store k slot)

/-- Gives an array another length. -/
def setLength (ref n : Nat) : Run Bool := fun m =>
  let isOpen := !((m.heap[ref]?).any (·.lengthFixed))
  if isOpen then
    let done := ((m.heap[ref]?).map fun o => (o.setLength n).2).getD false
    .ok done { m with heap := m.heap.modify ref fun o => (o.setLength n).1 }
  else .ok false m

/-- Defines the length of an array. -/
def defineLength (h : Host) (ref : Nat) (d : Description) : Run Bool := do
  let n? ← match d.value with
    | none => pure none
    | some v => do
      let n := Numeral.toUInt32 (← toNumber h v)
      if Float.ofNat n != (← toNumber h v) then rangeError "invalid array length"
      pure (some n)
  match (← obj ref).own? "length" with
  | none => return false
  | some old =>
    let d := { d with value := n?.map .nat }
    if !d.isAllowed old then return false
    let done ← match n? with
      | some n => if d.value == old.value? then pure true else setLength ref n
      | none => pure true
    if d.writable == some false then modifyObj ref fun o => { o with lengthFixed := true }
    return done

/-- May an object get a property that it does not have? -/
def canGrow (o : Obj) (k : Key) : Bool :=
  o.extensible &&
    match o.kind, o.lengthFixed with
    | .array _ length, true => k.index?.all (· < length)
    | _, _ => true

/-- Is the property part of what the object stands for, and not stored? -/
def isIntrinsic (o : Obj) (k : Key) : Bool :=
  match o.kind with
  | .wrapper (.string s) => k == .name "length" || k.index?.any (· < s.length)
  | _ => false

def defineOn (h : Host) : Nat → Nat → Key → Description → Run Bool
  | 0, _, _, _ => throw .limit
  | fuel + 1, ref, k, d => do
    let o ← obj ref
    if o.isProxy then
      let (target, handler, f) ← trap? h ref "defineProperty"
      match f with
      | none => defineOn h fuel target k d
      | some f =>
        let desc ← describe d
        if !(← h.call f (.object handler) [.object target, k.value, desc]).truthy then return false
        match ← ownSlot? h target k with
        | none =>
          if !(← isOpen h target) || d.configurable == some false then
            typeError "proxy cannot define the property"
        | some old =>
          if !d.isAllowed old || (d.configurable == some false && old.configurable) then
            typeError "proxy cannot define the property"
        return true
    else if o.isArray && k == .name "length" then defineLength h ref d
    else
      match o.own? k with
      | none =>
        if !canGrow o k then return false
        modifyObj ref (·.define k (d.slot none))
        return true
      | some old =>
        if !d.isAllowed old then return false
        if !isIntrinsic o k then modifyObj ref (·.define k (d.slot (some old)))
        return true
where
  /-- The description as an object. -/
  describe (d : Description) : Run Value :=
    plainObject
      ([("value", d.value), ("writable", d.writable.map Value.boolean), ("get", d.getter),
        ("set", d.setter), ("enumerable", d.enumerable.map Value.boolean),
        ("configurable", d.configurable.map Value.boolean)].filterMap fun (x, v) =>
          v.map fun v => (Key.name x, v))

/-- Defines a property of an object; whether that is allowed. -/
def defineOwn (h : Host) (ref : Nat) (k : Key) (d : Description) : Run Bool :=
  defineOn h chainBound ref k d

/-- Defines a property, which must be allowed. -/
def defineOrThrow (h : Host) (ref : Nat) (k : Key) (d : Description) : Run Unit := do
  unless ← defineOwn h ref k d do typeError "cannot define property"

/-- Gives an object a plain property, if that is allowed. -/
def tryCreate (h : Host) (ref : Nat) (k : Key) (v : Value) : Run Bool :=
  defineOwn h ref k (.ofSlot (.plain v))

/-- Gives an object a plain property, which must be allowed. -/
def create (h : Host) (ref : Nat) (k : Key) (v : Value) : Run Unit := do
  unless ← tryCreate h ref k v do typeError "cannot define property"

/-! ## Setting -/

/-- Sets a property where nothing but the object itself is concerned; whether that was so. -/
def setPlain (ref : Nat) (k : Key) (v : Value) : Run Bool := fun m =>
  match m.heap[ref]? with
  | none => .ok false m
  | some o =>
    let fits : Bool :=
      !o.isProxy &&
        match o.own? k with
        | some s => s.isData && s.writable && !(o.isArray && k == .name "length")
        | none =>
          canGrow o k &&
            match o.parent with
            | none => true
            | some p =>
              match findSlot k m.heap chainBound p with
              | .absent => true
              | .slot s => s.isData && s.writable
              | .proxy _ => false
    if fits then
      let slot := match o.own? k with
        | some s => { s with content := .data v }
        | none => .plain v
      .ok true { m with heap := m.heap.modify ref (·.define k slot) }
    else .ok false m

def setOn (h : Host) : Nat → Nat → Key → Value → Value → Run Bool
  | 0, _, _, _, _ => throw .limit
  | fuel + 1, ref, k, v, this => do
    match ← find ref k with
    | .proxy p => do
      let (target, handler, f) ← trap? h p "set"
      match f with
      | none => setOn h fuel target k v this
      | some f =>
        if !(← h.call f (.object handler) [.object target, k.value, v, this]).truthy then
          return false
        match ← ownSlot? h target k with
        | some ⟨.data old, false, _, false⟩ =>
          if !v.identical old then typeError "proxy cannot change the property"
        | some ⟨.accessor _ .undefined, _, _, false⟩ => typeError "proxy cannot change the property"
        | _ => pure ()
        return true
    | .slot ⟨.accessor _ setter, _, _, _⟩ =>
      match setter with
      | .undefined => return false
      | f =>
        let _ ← h.call f this [v]
        return true
    | .slot ⟨.data _, false, _, _⟩ => return false
    | _ =>
      match this with
      | .object r =>
        match ← ownSlot? h r k with
        | some s => if s.isData && s.writable then defineOwn h r k { value := some v } else return false
        | none => tryCreate h r k v
      | _ => return false

/-- Sets a property of an object, on behalf of a value; whether that is allowed. -/
def setFor (h : Host) (ref : Nat) (k : Key) (v this : Value) : Run Bool := setOn h chainBound ref k v this

/-- Sets a property of any value. -/
def setProp (h : Host) (v : Value) (k : Key) (new : Value) : Run Unit := do
  match v with
  | .object ref =>
    if ← setPlain ref k new then return
    unless ← setFor h ref k new v do typeError "cannot set property"
  | _ =>
    match v.home? with
    | none => typeError "cannot convert 'null' or 'undefined' to object"
    | some ref =>
      let own : Bool := match v with
        | .string s => k == .name "length" || k.index?.any (· < s.length)
        | _ => false
      if own || !(← setFor h ref k new v) then typeError "cannot set property of a primitive value"

/-! ## Deleting -/

def deleteOn (h : Host) : Nat → Nat → Key → Run Bool
  | 0, _, _ => throw .limit
  | fuel + 1, ref, k => do
    let o ← obj ref
    if o.isProxy then
      let (target, handler, f) ← trap? h ref "deleteProperty"
      match f with
      | none => deleteOn h fuel target k
      | some f =>
        if !(← h.call f (.object handler) [.object target, k.value]).truthy then return false
        match ← ownSlot? h target k with
        | some s =>
          if !s.configurable || !(← isOpen h target) then typeError "proxy cannot delete the property"
        | none => pure ()
        return true
    else
      match o.own? k with
      | some s =>
        if s.configurable then modifyObj ref (·.remove k)
        return s.configurable
      | none => return true

/-- Deletes a property of an object; whether it is gone. -/
def deleteOwn (h : Host) (ref : Nat) (k : Key) : Run Bool := deleteOn h chainBound ref k

/-- Deletes a property of a value. -/
def delete (h : Host) (v : Value) (k : Key) : Run Bool := do
  let ref ← toObject v
  if ← deleteOwn h ref k then return true
  typeError "cannot delete property"

/-! ## Parents and extension -/

/-- Is an object among the parents of another? An object that has to be asked is not. -/
def isAncestor (heap : Array Obj) (target : Nat) : Nat → Nat → Bool
  | 0, _ => false
  | fuel + 1, ref =>
    match heap[ref]? with
    | some o =>
      !o.isProxy &&
        match o.parent with
        | some p => p == target || isAncestor heap target fuel p
        | none => false
    | none => false

def setParentOn (h : Host) : Nat → Nat → Option Nat → Run Bool
  | 0, _, _ => throw .limit
  | fuel + 1, ref, p => do
    let o ← obj ref
    if o.isProxy then
      let (target, handler, f) ← trap? h ref "setPrototypeOf"
      match f with
      | none => setParentOn h fuel target p
      | some f =>
        let v : Value := match p with
          | some p => .object p
          | none => .null
        if !(← h.call f (.object handler) [.object target, v]).truthy then return false
        if !(← isOpen h target) && p != (← parent? h target) then
          typeError "proxy cannot change the prototype"
        return true
    else if o.parent == p then return true
    else if !o.extensible || ref == Ref.objectProto then return false
    else
      let m ← get
      if p.any fun p => p == ref || isAncestor m.heap ref chainBound p then return false
      modifyObj ref fun o => { o with parent := p }
      return true

/-- Gives an object another parent; whether that is allowed. -/
def setParent (h : Host) (ref : Nat) (p : Option Nat) : Run Bool := setParentOn h chainBound ref p

def closeOn (h : Host) : Nat → Nat → Run Bool
  | 0, _ => throw .limit
  | fuel + 1, ref => do
    let o ← obj ref
    if o.isProxy then
      let (target, handler, f) ← trap? h ref "preventExtensions"
      match f with
      | none => closeOn h fuel target
      | some f =>
        let done := (← h.call f (.object handler) [.object target]).truthy
        if done && (← isOpen h target) then typeError "proxy cannot close the object"
        return done
    else
      modifyObj ref fun o => { o with extensible := false }
      return true

/-- Keeps properties from being added to an object; whether that is allowed. -/
def close (h : Host) (ref : Nat) : Run Bool := closeOn h chainBound ref

/-! ## Copying -/

/-- Copies the listed properties of a value to an object, except for some keys. -/
def copyProps (h : Host) (target : Nat) (v : Value) (except : List Key) : Run Unit := do
  match v with
  | .undefined | .null => return
  | v =>
    let source ← toObject v
    for k in ← ownKeys h source do
      if !except.contains k then
        match ← ownSlot? h source k with
        | some slot =>
          if slot.enumerable then
            let x ← getProp h (.object source) k
            create h target k x
        | none => pure ()

end Run
end Script
end Restyle
