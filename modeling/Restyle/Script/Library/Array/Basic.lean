import Restyle.Script.Library.Basic

/-!
# Restyle.Script.Library.Array.Basic

Making arrays, and what `Array` itself offers.

A method that makes a new array asks the old one for the constructor to make it with, so that
classes which extend arrays get their own kind back.
-/

namespace Restyle
namespace Script
namespace Library

open Run

/-- Functions of `Array`, with their number of parameters. -/
def arrayTable : List (String × Nat) := [("isArray", 1), ("from", 1), ("of", 0)]

/-- The greatest length of a list. -/
def maxLength : Nat := 9007199254740991

/-- An array of a length, without items. -/
def emptyArray (n : Nat) : Run Value := do
  if n > 4294967295 then rangeError "array exceeded max size"
  newObject Ref.arrayProto (.array #[] n) #[]

/-- Is the value the constructor of arrays that the library provides? -/
def isArrayMaker (v : Value) : Run Bool := do
  match v with
  | .object ref =>
    match (← obj ref).kind with
    | .native f => return f == ⟨.constructor, "Array"⟩
    | _ => return false
  | _ => return false

/-- The constructor for arrays that are made from one; undefined for plain arrays. -/
def speciesOf (h : Host) (v : Value) : Run Value := do
  if !(← isArray v) then return .undefined
  let c ← getName h v "constructor"
  if !c.isObject then return c
  match ← getProp h c (.symbol Symbols.species) with
  | .null => return .undefined
  | s => return s

/-- An empty array of the kind of another one, for a number of items. -/
def arrayLike (h : Host) (v : Value) (n : Nat) : Run Value := do
  match ← speciesOf h v with
  | .undefined => emptyArray n
  | c =>
    if ← isArrayMaker c then emptyArray n
    else if ← isConstructor c then h.construct c [.nat n] c
    else typeError "object is not a constructor"

/-- Puts an item at the end of the items of an array, if that is its place; whether it was. -/
def append (ref i : Nat) (v : Value) : Run Bool := fun m =>
  let fits := match m.heap[ref]? with
    | some o => o.itemCount == i && o.isArray && o.extensible && !o.lengthFixed && o.props.isEmpty
    | none => false
  if fits then .ok true { m with heap := m.heap.modify ref (·.putItem i (some v)) }
  else .ok false m

/-- Gives a new list an item. -/
def createItem (h : Host) (a : Value) (i : Nat) (v : Value) : Run Unit := do
  let ref ← refOf a
  if ← append ref i v then return
  create h ref (Key.ofNat i) v

/-- Gives a new list items from a position on; the position after them. -/
def createItems (h : Host) (a : Value) (i : Nat) : List Value → Run Nat
  | [] => return i
  | v :: vs => do
    createItem h a i v
    createItems h a (i + 1) vs

def setLengthOf (h : Host) (v : Value) (n : Nat) : Run Unit := setProp h v "length" (.nat n)

/-- A new list by a constructor, or an array if the value is none. -/
def listBy (h : Host) (c : Value) (args : List Value) : Run Value := do
  if ← isArrayMaker c then emptyArray 0
  else if ← isConstructor c then h.construct c args c
  else emptyArray 0

/-- A function that is applied to items before they are taken; undefined for none. -/
def mapped (h : Host) (f this v : Value) (i : Nat) : Run Value := do
  match f with
  | .undefined => return v
  | f => h.call f this [v, .nat i]

def arrayFrom (h : Host) (c : Value) (args : List Value) : Run Value := do
  let v := arg args 0
  let f := arg args 1
  let this := arg args 2
  if !f.isUndefined && !(← isCallable f) then typeError "mapping function is not callable"
  match ← method? h v (.symbol Symbols.iterator) with
  | some iterator =>
    let a ← listBy h c []
    let it ← iterateBy h v iterator
    let count ← gather a f this itemBound 0 it
    setLengthOf h a count
    return a
  | none =>
    let v := Value.object (← toObject v)
    let n ← lengthOf h v
    let a ← listBy h c [.nat n]
    eachUp (fun i => do createItem h a i (← mapped h f this (← itemAt h v i) i)) n 0
    setLengthOf h a n
    return a
where
  /-- Takes items one after the other; their number. -/
  gather (a f this : Value) : Nat → Nat → Iteration → Run Nat
    | 0, _, _ => throw .limit
    | fuel + 1, i, it => do
      match ← it.next? h with
      | none => return i
      | some (v, it) =>
        it.guard h do createItem h a i (← mapped h f this v i)
        gather a f this fuel (i + 1) it

def array : Body := fun h name this args => do
  match name with
  | "isArray" => return .boolean (← isArray (arg args 0))
  | "of" =>
    let a ← listBy h this [.nat args.length]
    let n ← createItems h a 0 args
    setLengthOf h a n
    return a
  | "from" => arrayFrom h this args
  | "species" => return this
  | _ => unknown name

/-! ## Items of arrays at a stroke -/

/-- How many items at most are changed at a stroke. -/
def strokeBound : Nat := 10000000

/-- All items of an array that can be changed freely, with holes; nothing for other objects. -/
def freeItems? (v : Value) : Run (Option (Array (Option Value))) := do
  match v with
  | .object ref =>
    let o ← obj ref
    match o.items? with
    | some (items, n) =>
      if o.extensible && !o.lengthFixed && n ≤ strokeBound && o.props.all (·.1.index?.isNone) then
        return some (items ++ Array.replicate (n - items.size) none)
      return none
    | none => return none
  | _ => return none

/-- Like `freeItems?`, for arrays without holes. -/
def denseItems? (v : Value) : Run (Option (Array (Option Value))) := do
  return (← freeItems? v).filter (·.all Option.isSome)

/-- Puts other items into an array. -/
def replaceItems (v : Value) (items : Array (Option Value)) : Run Unit := do
  setKind (← refOf v) (.array items items.size)

/-- Moves an item of a list to another position; a hole leaves a hole. -/
def moveItem (h : Host) (v : Value) (source target : Nat) : Run Unit := do
  match ← present h v source with
  | some x => setProp h v (Key.ofNat target) x
  | none =>
    let _ ← delete h v (Key.ofNat target)

end Library
end Script
end Restyle
