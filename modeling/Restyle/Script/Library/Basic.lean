import Restyle.Script.Iteration

/-!
# Restyle.Script.Library.Basic

What the functions of the library have in common: their arguments, the functions themselves, and
going through positions of lists.
-/

namespace Restyle
namespace Script
namespace Library

open Run

/-- What a function of the library does, by its name: object and arguments. -/
abbrev Body := Host → String → Value → List Value → Run Value

def arg (args : List Value) (i : Nat) : Value := args.getD i .undefined

def unknown (name : String) : Run Value := typeError (name ++ " is not supported")

/-- A function that an argument must be. -/
def callback (v : Value) : Run Value := do
  if ← isCallable v then return v
  typeError "callback is not a function"

/-- The object of a value that must be one. -/
def refOf (v : Value) : Run Nat := do
  match v with
  | .object ref => return ref
  | _ => typeError "value is not an object"

/-! ## Making functions -/

/-- A function of the library as an object. -/
def native (family : Family) (name : String) (label : Utf16) (arity : Nat) : Run Value := do
  return .object (← alloc {
    parent := some Ref.functionProto, kind := .native ⟨family, name⟩
    props := functionProps label arity })

/-- Stores functions under their names. -/
def putAll (ref : Nat) (family : Family) : List (String × Nat) → Run Unit
  | [] => pure ()
  | (name, arity) :: rest => do
    put ref (.name name) (.quiet (← native family name name arity))
    putAll ref family rest

/-- Stores a getter. -/
def putGetter (ref : Nat) (k : Key) (family : Family) (name : String) (label : Utf16) :
    Run Unit := do
  let f ← native family name ("get " ++ label) 0
  put ref k ⟨.accessor f .undefined, true, false, true⟩

/-! ## Positions -/

/-- Goes through a number of positions upwards until one gives a result. -/
def upward {β : Type} (f : Nat → Run (Option β)) : Nat → Nat → Run (Option β)
  | 0, _ => return none
  | left + 1, i => do
    match ← f i with
    | some b => return some b
    | none => upward f left (i + 1)

/-- Goes through the positions below one downwards until one gives a result. -/
def downward {β : Type} (f : Nat → Run (Option β)) : Nat → Run (Option β)
  | 0 => return none
  | i + 1 => do
    match ← f i with
    | some b => return some b
    | none => downward f i

/-- Takes something through a number of positions upwards. -/
def through {β : Type} (f : β → Nat → Run β) : Nat → Nat → β → Run β
  | 0, _, b => return b
  | left + 1, i, b => do through f left (i + 1) (← f b i)

/-- Does something at a number of positions upwards. -/
def eachUp (f : Nat → Run Unit) : Nat → Nat → Run Unit
  | 0, _ => return
  | left + 1, i => do
    f i
    eachUp f left (i + 1)

/-- Does something at the positions below one downwards. -/
def eachDown (f : Nat → Run Unit) : Nat → Run Unit
  | 0 => return
  | i + 1 => do
    f i
    eachDown f i

/-- The item at a position of an object, if there is one. -/
def present (h : Host) (v : Value) (i : Nat) : Run (Option Value) := do
  match ← plainItem? v i with
  | some x => return some x
  | none =>
    if ← hasProperty h (← toObject v) (Key.ofNat i) then return some (← getProp h v (Key.ofNat i))
    return none

/-! ## Sorting -/

/-- Puts an item into sorted items, greatest first, behind those that come after it. -/
def insertInto (before : Value → Value → Run Bool) (x : Value) : List Value → Run (List Value)
  | [] => return [x]
  | y :: ys => do
    if ← before x y then return y :: (← insertInto before x ys) else return x :: y :: ys

/-- Sorts by putting one item after the other into its place; the result is reversed. -/
def insertAll (before : Value → Value → Run Bool) : List Value → List Value → Run (List Value)
  | [], out => return out
  | x :: xs, out => do insertAll before xs (← insertInto before x out)

/-- Merges two sorted lists. -/
def merge (before : Value → Value → Run Bool) : Nat → List Value → List Value → List Value →
    Run (List Value)
  | 0, xs, ys, out => return out.reverse ++ xs ++ ys
  | _ + 1, [], ys, out => return out.reverse ++ ys
  | _ + 1, xs, [], out => return out.reverse ++ xs
  | fuel + 1, x :: xs, y :: ys, out => do
    if ← before y x then merge before fuel (x :: xs) ys (y :: out)
    else merge before fuel xs (y :: ys) (x :: out)

/-- Up to how many items are sorted by insertion. -/
def insertionBound : Nat := 20

/-- Sorts with a comparison that may run a script; values that compare equal keep their
order. -/
def sortValues (before : Value → Value → Run Bool) : Nat → List Value → Run (List Value)
  | 0, xs => return xs
  | fuel + 1, xs => do
    if xs.length ≤ insertionBound then return (← insertAll before xs []).reverse
    let half := xs.length / 2
    let a ← sortValues before fuel (xs.take half)
    let b ← sortValues before fuel (xs.drop half)
    merge before (xs.length + 1) a b []

end Library
end Script
end Restyle
