import Restyle.Script.Library.Array.Basic

/-!
# Restyle.Script.Library.Array.Change

Methods that change the list they are called on: its ends, parts of it, or its order. Lists that
only look like arrays are changed item by item.
-/

namespace Restyle
namespace Script
namespace Library

open Run

/-- Adds items at the end of an array that can be changed freely; its length. -/
def pushFree (v : Value) (new : List Value) : Run (Option Nat) := fun m =>
  match v with
  | .object ref =>
    match m.heap[ref]? with
    | none => .ok none m
    | some o =>
      let n := match o.items? with
        | some (items, n) =>
          if o.extensible && !o.lengthFixed && items.size == n && o.props.isEmpty then some n
          else none
        | none => none
      match n with
      | none => .ok none m
      | some n =>
        let heap := m.heap.modify ref fun o =>
          match o with
          | ⟨parent, .array items n, props, extensible, fixed⟩ =>
            ⟨parent, .array (new.foldl (fun out x => out.push (some x)) items) (n + new.length),
              props, extensible, fixed⟩
          | o => o
        .ok (some (n + new.length)) { m with heap }
  | _ => .ok none m

/-- Sets items from a position on. -/
def setItems (h : Host) (v : Value) : List Value → Nat → Run Unit
  | [], _ => return
  | x :: xs, i => do
    setProp h v (Key.ofNat i) x
    setItems h v xs (i + 1)

def checkLength (n : Nat) : Run Unit :=
  if n > maxLength then typeError "the length of the list would be too great" else pure ()

def push (h : Host) (v : Value) (new : List Value) : Run Value := do
  match ← pushFree v new with
  | some n => return .nat n
  | none =>
    let n ← lengthOf h v
    checkLength (n + new.length)
    setItems h v new n
    setLengthOf h v (n + new.length)
    return .nat (n + new.length)

/-- Takes the last item off an array that can be changed freely. -/
def popFree (v : Value) : Run (Option Value) := fun m =>
  match v with
  | .object ref =>
    match m.heap[ref]? with
    | none => .ok none m
    | some o =>
      let last := match o.items? with
        | some (items, n) =>
          if o.extensible && !o.lengthFixed && items.size == n then items.back?.getD none else none
        | none => none
      match last with
      | none => .ok none m
      | some x =>
        let heap := m.heap.modify ref fun o =>
          match o with
          | ⟨parent, .array items n, props, extensible, fixed⟩ =>
            ⟨parent, .array items.pop (n - 1), props, extensible, fixed⟩
          | o => o
        .ok (some x) { m with heap }
  | _ => .ok none m

def pop (h : Host) (v : Value) : Run Value := do
  match ← popFree v with
  | some x => return x
  | none =>
    let n ← lengthOf h v
    if n == 0 then
      setLengthOf h v 0
      return .undefined
    let x ← itemAt h v (n - 1)
    let _ ← delete h v (Key.ofNat (n - 1))
    setLengthOf h v (n - 1)
    return x

def shift (h : Host) (v : Value) : Run Value := do
  match ← denseItems? v with
  | some items =>
    replaceItems v (items.extract 1 items.size)
    return ((items[0]?).getD none).getD .undefined
  | none =>
    let n ← lengthOf h v
    if n == 0 then
      setLengthOf h v 0
      return .undefined
    let first ← itemAt h v 0
    eachUp (fun i => moveItem h v i (i - 1)) (n - 1) 1
    let _ ← delete h v (Key.ofNat (n - 1))
    setLengthOf h v (n - 1)
    return first

def unshift (h : Host) (v : Value) (new : List Value) : Run Value := do
  match ← denseItems? v with
  | some items =>
    replaceItems v ((new.map some).toArray ++ items)
    return .nat (items.size + new.length)
  | none =>
    let n ← lengthOf h v
    if !new.isEmpty then
      checkLength (n + new.length)
      eachDown (fun i => moveItem h v i (i + new.length)) n
      setItems h v new 0
    setLengthOf h v (n + new.length)
    return .nat (n + new.length)

/-- The range that a call of `splice` takes out: its start and its size. -/
def spliceRange (h : Host) (args : List Value) (n : Nat) : Run (Nat × Nat) := do
  let start ← toRelative h (arg args 0) n 0
  match args with
  | [] => return (start, 0)
  | [_] => return (start, n - start)
  | _ => return (start, min (clamp (← toInteger h (arg args 1)) n) (n - start))

def splice (h : Host) (v : Value) (args : List Value) : Run Value := do
  let n ← lengthOf h v
  let (start, count) ← spliceRange h args n
  let new := args.drop 2
  checkLength (n + new.length - count)
  let out ← arrayLike h v count
  eachUp (fun i => do
    match ← present h v (start + i) with
    | some x => createItem h out i x
    | none => pure ()) count 0
  setLengthOf h out count
  match ← denseItems? v with
  | some items =>
    replaceItems v
      (items.extract 0 start ++ (new.map some).toArray ++ items.extract (start + count) items.size)
  | none =>
    let size := n - count + new.length
    if new.length < count then
      eachUp (fun i => moveItem h v (i + count) (i + new.length)) (n - count - start) start
      eachDown (fun i => do
        let _ ← delete h v (Key.ofNat (size + i))) (n - size)
    else if new.length > count then
      eachDown (fun i => moveItem h v (start + i + count) (start + i + new.length)) (n - count - start)
    setItems h v new start
    setLengthOf h v size
  return out

def reverse (h : Host) (v : Value) : Run Value := do
  match ← denseItems? v with
  | some items => replaceItems v items.reverse
  | none =>
    let n ← lengthOf h v
    eachUp (fun i => do
      let j := n - 1 - i
      let a ← present h v i
      let b ← present h v j
      putOr i b a
      putOr j a b) (n / 2) 0
  return v
where
  /-- Puts an item at a position, or takes the old one away if there is none. -/
  putOr (i : Nat) (x old : Option Value) : Run Unit := do
    match x with
    | some x => setProp h v (Key.ofNat i) x
    | none =>
      if old.isSome then
        let _ ← delete h v (Key.ofNat i)

/-- Which of two items comes first when sorted. -/
def sortsBefore (h : Host) (compare : Value) (a b : Value) : Run Bool := do
  match a, b with
  | .undefined, _ => return false
  | _, .undefined => return true
  | a, b =>
    match compare with
    | .undefined => do
      let x ← toText h a
      return x.before (← toText h b)
    | f => return (← toNumber h (← h.call f .undefined [a, b])) < 0.0

def sorted (h : Host) (compare : Value) (items : List Value) : Run (List Value) :=
  sortValues (sortsBefore h compare) 64 items

/-- A comparison for sorting, which may be left out. -/
def checkCompare (compare : Value) : Run Unit := do
  if !compare.isUndefined && !(← isCallable compare) then
    typeError "comparison is not a function"

def sort (h : Host) (v compare : Value) : Run Value := do
  checkCompare compare
  let v := Value.object (← toObject v)
  let n ← lengthOf h v
  let there ← through (fun out i => do
    match ← present h v i with
    | some x => return out.push x
    | none => return out) n 0 #[]
  let out ← sorted h compare there.toList
  match ← freeItems? v with
  | some items =>
    let holes := Array.replicate (n - out.length) none
    replaceItems v ((out.map some).toArray ++ holes ++ items.extract n items.size)
  | none =>
    setItems h v out 0
    eachUp (fun i => do
      let _ ← delete h v (Key.ofNat i)) (n - out.length) out.length
  return v

def fill (h : Host) (v : Value) (args : List Value) : Run Value := do
  let n ← lengthOf h v
  let first ← toRelative h (arg args 1) n 0
  let last ← toRelative h (arg args 2) n n
  match ← freeItems? v with
  | some items =>
    replaceItems v (items.mapIdx fun i x => if first ≤ i && i < last then some (arg args 0) else x)
  | none => eachUp (fun i => setProp h v (Key.ofNat i) (arg args 0)) (last - first) first
  return v

def copyWithin (h : Host) (v : Value) (args : List Value) : Run Value := do
  let n ← lengthOf h v
  let target ← toRelative h (arg args 0) n 0
  let first ← toRelative h (arg args 1) n 0
  let last ← toRelative h (arg args 2) n n
  let count := min (last - first) (n - target)
  if first < target && target < first + count then
    eachDown (fun i => moveItem h v (first + i) (target + i)) count
  else eachUp (fun i => moveItem h v (first + i) (target + i)) count 0
  return v

end Library
end Script
end Restyle
