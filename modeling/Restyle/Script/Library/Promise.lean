import Restyle.Script.Library.Object

/-!
# Restyle.Script.Library.Promise

Promises and errors.

Nothing ever runs after the script that is running, so what is handed to a promise is never
called, and how a promise is settled cannot be seen.
-/

namespace Restyle
namespace Script
namespace Library

open Run

def promiseTable : List (String × Nat) :=
  [("all", 1), ("allSettled", 1), ("any", 1), ("race", 1), ("reject", 1), ("resolve", 1),
    ("withResolvers", 0)]

def promiseMethodTable : List (String × Nat) := [("catch", 1), ("finally", 1), ("then", 2)]

def errorMethodTable : List (String × Nat) := [("toString", 0)]

def newPromise : Run Value := newObject Ref.promiseProto .promise #[]

def isPromise (v : Value) : Run Bool := do
  match v with
  | .object ref =>
    match (← obj ref).kind with
    | .promise => return true
    | _ => return false
  | _ => return false

/-- A function that settles a promise, of which nothing is ever seen. -/
def settler : Run Value := native .promise "settle" "" 1

/-- Is the value the constructor of promises that the library provides? -/
def isPromiseMaker (v : Value) : Run Bool := do
  match v with
  | .object ref =>
    match (← obj ref).kind with
    | .native f => return f == ⟨.constructor, "Promise"⟩
    | _ => return false
  | _ => return false

/-- A promise made by a constructor. -/
def promiseBy (h : Host) (c : Value) : Run Value := do
  if ← isPromiseMaker c then newPromise
  else if ← isConstructor c then h.construct c [← native .promise "execute" "" 2] c
  else typeError "value is not a constructor"

/-- A promise for a value, which is the value itself if a constructor made it. -/
def promiseFor (h : Host) (c v : Value) : Run Value := do
  if ← isPromise v then
    if (← getName h v "constructor").same c then return v
  promiseBy h c

/-- Waits for all items of a value: each is made a promise, and asked to call back. -/
def waitForItems (h : Host) (c items : Value) : Run Unit := do
  let resolve ← callback (← getName h c "resolve")
  forItems h items fun _ v => do
    let p ← h.call resolve c [v]
    let andThen ← callback (← getName h p "then")
    let _ ← h.call andThen p [← settler, ← settler]

def promise : Body := fun h name this args => do
  match name with
  | "species" => return this
  | "settle" | "execute" => return .undefined
  | _ =>
    let _ ← refOf this
    match name with
    | "resolve" => promiseFor h this (arg args 0)
    | "withResolvers" =>
      let p ← promiseBy h this
      plainObject [("promise", p), ("resolve", ← settler), ("reject", ← settler)]
    | "reject" => promiseBy h this
    | _ =>
      let p ← promiseBy h this
      orCatch (waitForItems h this (arg args 0)) fun _ => pure ()
      return p

def promiseMethod : Body := fun h name this args => do
  let chain (onValue onError : Value) : Run Value := do
    let f ← callback (← getName h this "then")
    h.call f this [onValue, onError]
  match name with
  | "catch" => chain .undefined (arg args 0)
  | "finally" =>
    let _ ← refOf this
    let f := arg args 0
    if ← isCallable f then chain (← settler) (← settler) else chain f f
  | _ =>
    if !(← isPromise this) then typeError "value is not a promise"
    let c ← match ← getName h this "constructor" with
      | .undefined => pure .undefined
      | c => do
        let _ ← refOf c
        match ← getProp h c (.symbol Symbols.species) with
        | .undefined | .null => pure .undefined
        | s => pure s
    if c.isUndefined then newPromise else promiseBy h c

def errorMethod : Body := fun h _ this _ => do
  let _ ← refOf this
  let name ← match ← getName h this "name" with
    | .undefined => pure (Utf16.whole "Error")
    | v => toText h v
  let message ← match ← getName h this "message" with
    | .undefined => pure (Utf16.whole "")
    | v => toText h v
  return .string (if name.isEmpty then message else if message.isEmpty then name
    else name ++ .whole ": " ++ message)

end Library
end Script
end Restyle
