import Restyle.Script.Library.Object

/-!
# Restyle.Script.Library.Function

The methods that every function has, and the operations on objects and functions that `Reflect`
offers.
-/

namespace Restyle
namespace Script
namespace Library

open Run

def functionMethodTable : List (String × Nat) :=
  [("apply", 2), ("bind", 1), ("call", 1), ("toString", 0)]

def reflectTable : List (String × Nat) :=
  [("apply", 3), ("construct", 2), ("defineProperty", 3), ("deleteProperty", 2), ("get", 2),
    ("getOwnPropertyDescriptor", 2), ("getPrototypeOf", 1), ("has", 2), ("isExtensible", 1),
    ("ownKeys", 1), ("preventExtensions", 1), ("set", 3), ("setPrototypeOf", 2)]

/-- Functions of `Proxy`. -/
def proxyTable : List (String × Nat) := [("revocable", 2)]

/-- The items of an object that looks like a list of arguments. -/
def argumentList (h : Host) (v : Value) : Run (List Value) := do
  if !v.isObject then typeError "arguments must be a list"
  listItems h v

/-- The number of parameters that are left of a function after some are given. -/
def arityAfter (h : Host) (f : Value) (count : Nat) : Run Value := do
  if !(← hasOwn h (← refOf f) "length") then return .nat 0
  match ← getName h f "length" with
  | .number x =>
    if x == Numeral.infinity then return .number x
    let n ← toInteger h (.number x)
    return .number (max 0.0 (n - Float.ofNat count))
  | _ => return .nat 0

def bindFunction (h : Host) (f this : Value) (given : List Value) : Run Value := do
  let ref ← refOf f
  let parent ← parent? h ref
  let arity ← arityAfter h f given.length
  let name ← match ← getName h f "name" with
    | .string s => pure s
    | _ => pure (Utf16.whole "")
  return .object (← alloc {
    parent, kind := .bound f this given
    props := #[("length", .label arity), ("name", .label (.string ("bound " ++ name)))] })

/-- The text of a function: its name, and no code. -/
def functionText (h : Host) (f : Value) : Run Value := do
  let hasName ← match f with
    | .object ref =>
      match (← obj ref).kind with
      | .bound .. | .proxy .. => pure false
      | _ => pure true
    | _ => pure false
  let name ← if hasName then getName h f "name" else pure .undefined
  let name := match name with
    | .string s => s
    | _ => Utf16.whole ""
  return .string ("function " ++ name ++ "() \x7b [native code] \x7d")

def functionMethod : Body := fun h name this args => do
  let a := arg args 0
  match name with
  | "hasInstance" => return .boolean (← isInstance h 100 false a this)
  | "prototype" => return .undefined
  | "thrower" => typeError "'caller', 'callee' and 'arguments' cannot be accessed"
  | _ =>
    if !(← isCallable this) then typeError "value is not callable"
    match name with
    | "call" => h.call this a (args.drop 1)
    | "apply" =>
      match arg args 1 with
      | .undefined | .null => h.call this a []
      | v => do h.call this a (← argumentList h v)
    | "bind" => bindFunction h this a (args.drop 1)
    | "toString" => functionText h this
    | _ => unknown name

/-- A function that must be able to make objects. -/
def maker (v : Value) : Run Value := do
  if ← isConstructor v then return v
  typeError "value is not a constructor"

/-- An object that hands all that is done with it to a handler. -/
def makeProxy (target handler : Value) : Run Value := do
  match target, handler with
  | .object t, .object h => do
    let callable ← isCallable target
    let constructor ← isConstructor target
    return .object (← alloc {
      parent := some Ref.objectProto, kind := .proxy (some (t, h)) callable constructor })
  | _, _ => typeError "target and handler of a proxy must be objects"

/-- Leaves nothing of a proxy. -/
def revoke (v : Value) : Run Value := do
  match v with
  | .object ref =>
    match (← obj ref).kind with
    | .proxy _ callable constructor => setKind ref (.proxy none callable constructor)
    | _ => pure ()
  | _ => pure ()
  return .undefined

/-- A proxy together with a function that revokes it. -/
def revocable (target handler : Value) : Run Value := do
  let p ← makeProxy target handler
  let f ← native .reflect "revoke" "" 0
  let revoker ← alloc {
    parent := some Ref.functionProto, kind := .bound f p [], props := functionProps "" 0 }
  plainObject [("proxy", p), ("revoke", .object revoker)]

def reflect : Body := fun h name this args => do
  let a := arg args 0
  let b := arg args 1
  match name with
  | "revocable" => revocable a b
  | "revoke" => revoke this
  | "apply" =>
    let f ← callback a
    h.call f b (← argumentList h (arg args 2))
  | "construct" =>
    let f ← maker a
    let newTarget ← if args.length > 2 then maker (arg args 2) else pure f
    h.construct f (← argumentList h b) newTarget
  | _ =>
    let ref ← refOf a
    match name with
    | "ownKeys" => arrayOfList ((← ownKeys h ref).map Key.value)
    | "has" => return .boolean (← hasProperty h ref (← toKey h b))
    | "get" =>
      let k ← toKey h b
      getOn h chainBound ref k (if args.length > 2 then arg args 2 else a)
    | "set" =>
      let k ← toKey h b
      return .boolean (← setFor h ref k (arg args 2) (if args.length > 3 then arg args 3 else a))
    | "deleteProperty" => return .boolean (← deleteOwn h ref (← toKey h b))
    | "defineProperty" =>
      let k ← toKey h b
      return .boolean (← defineOwn h ref k (← description h (arg args 2)))
    | "getPrototypeOf" => parentValue h ref
    | "setPrototypeOf" =>
      match parentOf? b with
      | some p => return .boolean (← setParent h ref p)
      | none => typeError "prototype must be an object or null"
    | "isExtensible" => return .boolean (← isOpen h ref)
    | "preventExtensions" => return .boolean (← close h ref)
    | "getOwnPropertyDescriptor" => object h name .undefined args
    | _ => unknown name

end Library
end Script
end Restyle
