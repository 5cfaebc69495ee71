import Restyle.Script.Library.Regex

/-!
# Restyle.Script.Library.Iterator

Iterators over lists, collections, texts and matches, and generators. What an iterator has not
given yet is read when it is asked for.
-/

namespace Restyle
namespace Script
namespace Library

open Run

/-- Methods of generators, with their number of parameters. -/
def generatorMethodTable : List (String × Nat) := [("next", 1), ("return", 1), ("throw", 1)]

/-- What a call for the next item gives. -/
def iteratorResult (v : Value) (done : Bool) : Run Value :=
  plainObject [("value", v), ("done", .boolean done)]

def endResult : Run Value := iteratorResult .undefined true

/-- The next item of a list. -/
def listNext (h : Host) (ref : Nat) (subject : Option Value) (i : Nat) (listing : Listing) :
    Run Value := do
  match subject with
  | none => endResult
  | some v =>
    if i < (← lengthOf h v) then
      setKind ref (.listIterator subject (i + 1) listing)
      match listing with
      | .keys => iteratorResult (.nat i) false
      | .values => do iteratorResult (← itemAt h v i) false
      | .entries => do iteratorResult (← arrayOf #[.nat i, ← itemAt h v i]) false
    else
      setKind ref (.listIterator none i listing)
      endResult

/-- The next entry of a map or a set. -/
def entryNext (ref : Nat) (isMap : Bool) (subject : Option Nat) (i : Nat) (listing : Listing) :
    Run Value := do
  match subject with
  | none => endResult
  | some source =>
    match ← entryFrom? source i with
    | some (i, k, v) =>
      setKind ref (.entryIterator isMap subject (i + 1) listing)
      iteratorResult (← listed listing k v) false
    | none =>
      setKind ref (.entryIterator isMap none i listing)
      endResult

/-- The next match of an expression. -/
def matchNext (h : Host) (ref : Nat) (regex : Value) (s : Utf16) (isGlobal isUnicode : Bool) :
    Run Value := do
  let finish : Run Unit := setKind ref (.matchIterator regex s isGlobal isUnicode true)
  match ← exec h regex s with
  | .null =>
    finish
    endResult
  | result =>
    if isGlobal then passEmpty h regex s (← toText h (← getProp h result "0")) isUnicode
    else finish
    iteratorResult result false

/-- Asks an iterator for its next item, by the name of its sort. -/
def iteratorMethod : Body := fun h name this _ => do
  match name with
  | "iterator" => return this
  | _ =>
    let ref ← refOf this
    match name, (← obj ref).kind with
    | "list", .listIterator subject i listing => listNext h ref subject i listing
    | "map", .entryIterator true subject i listing => entryNext ref true subject i listing
    | "set", .entryIterator false subject i listing => entryNext ref false subject i listing
    | "text", .characterIterator units =>
      match firstCharacter units with
      | some (c, rest) =>
        setKind ref (.characterIterator rest)
        iteratorResult (.string (Utf16.ofUnits c)) false
      | none => endResult
    | "match", .matchIterator _ _ _ _ true => endResult
    | "match", .matchIterator regex s isGlobal isUnicode false =>
      matchNext h ref regex s isGlobal isUnicode
    | _, _ => typeError "value is not an iterator of this sort"

/-- How a method sends a generator on its way. -/
def signalOf (name : String) (v : Value) : Signal :=
  match name with
  | "return" => .return v
  | "throw" => .throw v
  | _ => .next v

def generatorMethod : Body := fun h name this args => do
  let ref ← refOf this
  match (← obj ref).kind with
  | .generator _ => h.resume ref (signalOf name (arg args 0))
  | _ => typeError "value is not a generator"

/-- A generator that waits gives promises, whatever becomes of it. -/
def asyncGeneratorMethod : Body := fun h name this args => do
  match this with
  | .object ref =>
    match (← obj ref).kind with
    | .asyncGenerator _ => h.resume ref (signalOf name (arg args 0))
    | _ => newObject Ref.promiseProto .promise #[]
  | _ => newObject Ref.promiseProto .promise #[]

end Library
end Script
end Restyle
