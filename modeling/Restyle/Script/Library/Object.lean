import Restyle.Script.Library.Basic

/-!
# Restyle.Script.Library.Object

Objects: what `Object` offers, and the methods that every object has.
-/

namespace Restyle
namespace Script
namespace Library

open Run

def objectTable : List (String × Nat) :=
  [("assign", 2), ("create", 2), ("defineProperties", 2), ("defineProperty", 3), ("entries", 1),
    ("freeze", 1), ("fromEntries", 1), ("getOwnPropertyDescriptor", 2),
    ("getOwnPropertyDescriptors", 1), ("getOwnPropertyNames", 1), ("getOwnPropertySymbols", 1),
    ("getPrototypeOf", 1), ("groupBy", 2), ("hasOwn", 2), ("is", 2), ("isExtensible", 1),
    ("isFrozen", 1), ("isSealed", 1), ("keys", 1), ("preventExtensions", 1), ("seal", 1),
    ("setPrototypeOf", 2), ("values", 1)]

def objectMethodTable : List (String × Nat) :=
  [("hasOwnProperty", 1), ("isPrototypeOf", 1), ("propertyIsEnumerable", 1),
    ("toLocaleString", 0), ("toString", 0), ("valueOf", 0), ("__defineGetter__", 2),
    ("__defineSetter__", 2), ("__lookupGetter__", 1), ("__lookupSetter__", 1)]

/-- Defines the properties that an object describes. -/
def defineAll (h : Host) (ref : Nat) (descriptions : Value) : Run Unit := do
  let source ← toObject descriptions
  let all ← (← ownKeys h source).filterMapM fun k => do
    match ← ownSlot? h source k with
    | some s =>
      if s.enumerable then
        return some (k, ← description h (← getProp h (.object source) k))
      return none
    | none => return none
  for (k, d) in all do
    defineOrThrow h ref k d

/-- Listed properties of an object under texts, one after the other. -/
def listedEntries (h : Host) (v : Value) : Run (List (Key × Value)) := do
  let ref ← toObject v
  ((← ownKeys h ref).filter (·.isText)).filterMapM fun k => do
    match ← ownSlot? h ref k with
    | some s => if s.enumerable then return some (k, ← getProp h (.object ref) k) else return none
    | none => return none

/-- Takes the freedom to change from an object. -/
def hardenObject (h : Host) (ref : Nat) (frozen : Bool) : Run Bool := do
  if !(← obj ref).isProxy then
    modifyObj ref (·.harden frozen)
    return true
  if !(← close h ref) then return false
  for k in ← ownKeys h ref do
    if frozen then
      match ← ownSlot? h ref k with
      | some s =>
        let d : Description :=
          if s.isData then { configurable := some false, writable := some false }
          else { configurable := some false }
        defineOrThrow h ref k d
      | none => pure ()
    else defineOrThrow h ref k { configurable := some false }
  return true

/-- Is an object hardened? -/
def isHard (h : Host) (ref : Nat) (frozen : Bool) : Run Bool := do
  if ← isOpen h ref then return false
  (← ownKeys h ref).allM fun k => do
    match ← ownSlot? h ref k with
    | some s => return !s.configurable && !(frozen && s.isData && s.writable)
    | none => return true

/-- Puts an item into the group with a key. -/
def addToGroup {κ : Type} (same : κ → κ → Bool) (k : κ) (x : Value) :
    List (κ × Array Value) → List (κ × Array Value)
  | [] => [(k, #[x])]
  | (k', xs) :: rest =>
    if same k k' then (k', xs.push x) :: rest else (k', xs) :: addToGroup same k x rest

/-- Items of a value grouped by what a function gives for them. -/
def groupItems {κ : Type} (h : Host) (same : κ → κ → Bool) (keyOf : Value → Run κ) (f : Value) :
    Nat → Nat → Iteration → List (κ × Array Value) → Run (List (κ × Array Value))
  | 0, _, _, _ => throw .limit
  | fuel + 1, i, it, out => do
    match ← it.next? h with
    | none => return out
    | some (x, it) =>
      let k ← orCatch (do keyOf (← h.call f .undefined [x, .nat i])) (it.abandon h)
      groupItems h same keyOf f fuel (i + 1) it (addToGroup same k x out)

/-- The parent of an object as a value. -/
def parentValue (h : Host) (ref : Nat) : Run Value := do
  return match ← parent? h ref with
    | some p => .object p
    | none => .null

/-- What a value says a parent is to be. -/
def parentOf? (v : Value) : Option (Option Nat) :=
  match v with
  | .object p => some (some p)
  | .null => some none
  | _ => none

def setPrototype (h : Host) (v parent : Value) : Run Unit := do
  match parentOf? parent with
  | none => typeError "prototype must be an object or null"
  | some p =>
    match v with
    | .object ref => unless ← setParent h ref p do typeError "cannot set prototype"
    | _ => pure ()

def checkPresent (v : Value) : Run Unit :=
  if v.isNullish then typeError "cannot convert 'null' or 'undefined' to object" else pure ()

/-- Runs on the object of a value; other values are given back. -/
def onObject (v : Value) (run : Nat → Run Unit) : Run Value := do
  match v with
  | .object ref => run ref
  | _ => pure ()
  return v

/-- Copies the listed properties of values, as assignments do. -/
def assign (h : Host) (ref : Nat) (sources : List Value) : Run Unit := do
  for source in sources do
    if !source.isNullish then
      let s ← toObject source
      for k in ← ownKeys h s do
        match ← ownSlot? h s k with
        | some slot =>
          if slot.enumerable then setProp h (.object ref) k (← getProp h (.object s) k)
        | none => pure ()

def object : Body := fun h name _ args => do
  let a := arg args 0
  let b := arg args 1
  match name with
  | "keys" =>
    let ref ← toObject a
    arrayOfList ((← listedKeys h ref).map Key.value)
  | "values" => arrayOfList ((← listedEntries h a).map (·.2))
  | "entries" =>
    arrayOfList (← (← listedEntries h a).mapM fun (k, v) => arrayOf #[k.value, v])
  | "assign" =>
    let ref ← toObject a
    assign h ref (args.drop 1)
    return .object ref
  | "create" =>
    match parentOf? a with
    | none => typeError "prototype must be an object or null"
    | some parent =>
      let ref ← alloc { parent }
      if !b.isUndefined then defineAll h ref b
      return .object ref
  | "defineProperty" =>
    let ref ← refOf a
    let k ← toKey h b
    defineOrThrow h ref k (← description h (arg args 2))
    return a
  | "defineProperties" =>
    let ref ← refOf a
    defineAll h ref b
    return a
  | "freeze" =>
    onObject a fun ref => do
      unless ← hardenObject h ref true do typeError "cannot freeze object"
  | "seal" =>
    onObject a fun ref => do
      unless ← hardenObject h ref false do typeError "cannot seal object"
  | "preventExtensions" =>
    onObject a fun ref => do
      unless ← close h ref do typeError "cannot prevent extensions"
  | "isFrozen" =>
    match a with
    | .object ref => return .boolean (← isHard h ref true)
    | _ => return .boolean true
  | "isSealed" =>
    match a with
    | .object ref => return .boolean (← isHard h ref false)
    | _ => return .boolean true
  | "isExtensible" =>
    match a with
    | .object ref => return .boolean (← isOpen h ref)
    | _ => return .boolean false
  | "fromEntries" =>
    checkPresent a
    let ref ← alloc { parent := some Ref.objectProto }
    forItems h a fun _ e => do
      if !e.isObject then typeError "entry is not an object"
      let k ← getProp h e "0"
      let v ← getProp h e "1"
      create h ref (← toKey h k) v
    return .object ref
  | "getOwnPropertyDescriptor" =>
    let ref ← toObject a
    match ← ownSlot? h ref (← toKey h b) with
    | some slot => describeSlot slot
    | none => return .undefined
  | "getOwnPropertyDescriptors" =>
    let ref ← toObject a
    let out ← (← ownKeys h ref).filterMapM fun k => do
      match ← ownSlot? h ref k with
      | some slot => return some (k, ← describeSlot slot)
      | none => return none
    plainObject out
  | "getOwnPropertyNames" =>
    let ref ← toObject a
    arrayOfList (((← ownKeys h ref).filter (·.isText)).map Key.value)
  | "getOwnPropertySymbols" =>
    let ref ← toObject a
    arrayOfList (((← ownKeys h ref).filter (·.isSymbol)).map Key.value)
  | "getPrototypeOf" => do parentValue h (← toObject a)
  | "setPrototypeOf" =>
    checkPresent a
    setPrototype h a b
    return a
  | "is" => return .boolean (a.identical b)
  | "hasOwn" =>
    let ref ← toObject a
    return .boolean (← hasOwn h ref (← toKey h b))
  | "groupBy" =>
    checkPresent a
    let f ← callback b
    let groups ← groupItems h (· == ·) (toKey h) f itemBound 0 (← iterate h a) []
    let ref ← alloc { parent := none }
    for (k, xs) in groups do
      create h ref k (← arrayOf xs)
    return .object ref
  | _ => unknown name

/-! ## Methods of all objects -/

/-- The word for what an object is. -/
def classWord (v : Value) : Run String := do
  if ← isArray v then return "Array"
  if ← isCallable v then return "Function"
  match v with
  | .object ref =>
    match (← obj ref).kind with
    | .error _ => return "Error"
    | .regex .. => return "RegExp"
    | .wrapper (.boolean _) => return "Boolean"
    | .wrapper (.number _) => return "Number"
    | .wrapper (.string _) => return "String"
    | .date _ => return "Date"
    | .arguments => return "Arguments"
    | _ => return "Object"
  | _ => return "Object"

/-- The text that names what a value is. -/
def objectText (h : Host) (v : Value) : Run Value := do
  match v with
  | .undefined => return .text "[object Undefined]"
  | .null => return .text "[object Null]"
  | v =>
    let v := Value.object (← toObject v)
    let word ← classWord v
    match ← getProp h v (.symbol Symbols.toStringTag) with
    | .string s => return .string ("[object " ++ s ++ "]")
    | _ => return .text ("[object " ++ word ++ "]")

/-- Is an object among the parents of another? -/
def isParent (h : Host) (p : Nat) : Nat → Nat → Run Bool
  | 0, _ => return false
  | fuel + 1, ref => do
    match ← parent? h ref with
    | some q => if q == p then return true else isParent h p fuel q
    | none => return false

/-- The getter or setter of a property, of the object or of the nearest parent that has the
property. -/
def accessorOf (h : Host) (k : Key) (isGetter : Bool) : Nat → Nat → Run Value
  | 0, _ => return .undefined
  | fuel + 1, ref => do
    match ← ownSlot? h ref k with
    | some ⟨.accessor g s, _, _, _⟩ => return if isGetter then g else s
    | some _ => return .undefined
    | none =>
      match ← parent? h ref with
      | some p => accessorOf h k isGetter fuel p
      | none => return .undefined

def objectMethod : Body := fun h name this args => do
  let a := arg args 0
  match name with
  | "hasOwnProperty" =>
    let k ← toKey h a
    let ref ← toObject this
    return .boolean (← hasOwn h ref k)
  | "isPrototypeOf" =>
    match a with
    | .object ref => return .boolean (← isParent h (← toObject this) chainBound ref)
    | _ => return .boolean false
  | "propertyIsEnumerable" =>
    let k ← toKey h a
    let ref ← toObject this
    return .boolean ((← ownSlot? h ref k).any (·.enumerable))
  | "toString" => objectText h this
  | "toLocaleString" => do h.call (← callback (← getName h this "toString")) this []
  | "valueOf" => return .object (← toObject this)
  | "__defineGetter__" | "__defineSetter__" =>
    let ref ← toObject this
    let f ← callback (arg args 1)
    let k ← toKey h a
    let d : Description := { enumerable := some true, configurable := some true }
    defineOrThrow h ref k
      (if name == "__defineGetter__" then { d with getter := some f } else { d with setter := some f })
    return .undefined
  | "__lookupGetter__" | "__lookupSetter__" =>
    let ref ← toObject this
    let k ← toKey h a
    accessorOf h k (name == "__lookupGetter__") chainBound ref
  | "getParent" => do parentValue h (← toObject this)
  | "setParent" =>
    checkPresent this
    if (parentOf? a).isSome then setPrototype h this a
    return .undefined
  | _ => unknown name

end Library
end Script
end Restyle
