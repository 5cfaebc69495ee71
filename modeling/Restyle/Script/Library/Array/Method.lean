import Restyle.Script.Library.Array.Change
import Restyle.Script.Library.Object

/-!
# Restyle.Script.Library.Array.Method

The methods of arrays, which work on all lists: searching, testing, combining, and making new
arrays.
-/

namespace Restyle
namespace Script
namespace Library

open Run

def arrayMethodTable : List (String × Nat) :=
  [("at", 1), ("concat", 1), ("copyWithin", 2), ("entries", 0), ("every", 1), ("fill", 1),
    ("filter", 1), ("find", 1), ("findIndex", 1), ("findLast", 1), ("findLastIndex", 1),
    ("flat", 0), ("flatMap", 1), ("forEach", 1), ("includes", 1), ("indexOf", 1), ("join", 1),
    ("keys", 0), ("lastIndexOf", 1), ("map", 1), ("pop", 0), ("push", 1), ("reduce", 1),
    ("reduceRight", 1), ("reverse", 0), ("shift", 0), ("slice", 2), ("some", 1), ("sort", 1),
    ("splice", 2), ("toLocaleString", 0), ("toReversed", 0), ("toSorted", 1), ("toSpliced", 2),
    ("toString", 0), ("unshift", 1), ("values", 0), ("with", 2)]

/-- Methods that are younger than the statement which they would disturb. -/
def unscopableNames : List String :=
  ["at", "copyWithin", "entries", "fill", "find", "findIndex", "findLast", "findLastIndex", "flat",
    "flatMap", "includes", "keys", "toReversed", "toSorted", "toSpliced", "values"]

/-- Runs while a list counts as being joined; nothing if it is already. -/
def whileJoining (ref : Nat) (run : Run Utf16) : Run Utf16 := do
  if (← get).joining.contains ref then return ""
  modify fun m => { m with joining := ref :: m.joining }
  andFinally run (modify fun m => { m with joining := m.joining.drop 1 })

/-- Texts of items with a separator between them; nothing for undefined and null. -/
def joinItems (h : Host) (v : Value) (n : Nat) (sep : Utf16) (textOf : Value → Run Utf16) :
    Run Utf16 := do
  let parts ← through (fun out i => do
    let x ← itemAt h v i
    let t ← if x.isNullish then pure (Utf16.whole "") else textOf x
    return out.push t) n 0 #[]
  return Utf16.join sep parts.toList

def join (h : Host) (v sep : Value) : Run Value := do
  let s ← whileJoining (← refOf v) do
    let n ← lengthOf h v
    let sep ← match sep with
      | .undefined => pure (Utf16.whole ",")
      | v => toText h v
    joinItems h v n sep (toText h)
  return .string s

/-- Like `join`, with the texts that items have for readers. -/
def joinLocal (h : Host) (v : Value) : Run Value := do
  let s ← whileJoining (← refOf v) do
    let n ← lengthOf h v
    joinItems h v n "," fun x => do
      let f ← callback (← getName h x "toLocaleString")
      toText h (← h.call f x [])
  return .string s

/-- Are the items of a value taken in place of it by `concat`? -/
def isSpread (h : Host) (v : Value) : Run Bool := do
  match v with
  | .object _ =>
    match ← getProp h v (.symbol Symbols.isConcatSpreadable) with
    | .undefined => isArray v
    | s => return s.truthy
  | _ => return false

def concat (h : Host) (v : Value) (args : List Value) : Run Value := do
  let out ← arrayLike h v 0
  let n ← (v :: args).foldlM (fun n x => do
    if ← isSpread h x then
      let size ← lengthOf h x
      checkLength (n + size)
      eachUp (fun i => do
        match ← present h x i with
        | some y => createItem h out (n + i) y
        | none => pure ()) size 0
      return n + size
    else
      checkLength (n + 1)
      createItem h out n x
      return n + 1) 0
  setLengthOf h out n
  return out

/-- The items of a list after given ones, those of arrays in place of the arrays, down to a
depth. The outermost items may be changed before. -/
def flattenInto (h : Host) (change : Nat → Value → Run Value) :
    Nat → Nat → Value → Array Value → Run (Array Value)
  | 0, _, _, _ => throw .limit
  | fuel + 1, depth, v, out => do
    let n ← lengthOf h v
    through (fun out i => do
      match ← present h v i with
      | none => return out
      | some x =>
        let x ← change i x
        if depth > 0 && (← isArray x) then
          flattenInto h (fun _ x => pure x) fuel (depth - 1) x out
        else return out.push x) n 0 out

/-- How deeply arrays that are flattened may be nested. -/
def flattenBound : Nat := 100000

def flat (h : Host) (v depth : Value) : Run Value := do
  let depth ← match depth with
    | .undefined => pure 1
    | d => do pure (clamp (← toInteger h d) flattenBound)
  let out ← arrayLike h v 0
  let _ ← createItems h out 0 (← flattenInto h (fun _ x => pure x) flattenBound depth v #[]).toList
  return out

/-- Calls a function on an item, its position and the list. -/
def apply (h : Host) (f this v : Value) (i : Nat) (x : Value) : Run Value :=
  h.call f this [x, .nat i, v]

def flatMap (h : Host) (v f this : Value) : Run Value := do
  let f ← callback f
  let out ← arrayLike h v 0
  let items ← flattenInto h (apply h f this v) flattenBound 1 v #[]
  let _ ← createItems h out 0 items.toList
  return out

/-- The first item, from one end or the other, for which a test holds, with its position. -/
def findItem (h : Host) (v f this : Value) (fromEnd : Bool) : Run (Option (Nat × Value)) := do
  let n ← lengthOf h v
  let f ← callback f
  let test (i : Nat) : Run (Option (Nat × Value)) := do
    let x ← itemAt h v i
    if (← apply h f this v i x).truthy then return some (i, x) else return none
  if fromEnd then downward test n else upward test n 0

/-- Does a test hold for all items? Holes are left out. -/
def holdsForAll (h : Host) (v f this : Value) (test : Bool → Bool) : Run Bool := do
  let n ← lengthOf h v
  let f ← callback f
  let r ← upward (fun i => do
    match ← present h v i with
    | none => return none
    | some x => if test (← apply h f this v i x).truthy then return none else return some ()) n 0
  return r.isNone

/-- Combines an item with what there is so far, if that is something. -/
def combine (h : Host) (v f : Value) (acc : Option Value) (i : Nat) : Run (Option Value) := do
  match ← present h v i with
  | none => return acc
  | some x =>
    match acc with
    | none => return some x
    | some a => return some (← h.call f .undefined [a, x, .nat i, v])

def reduce (h : Host) (v : Value) (args : List Value) (fromEnd : Bool) : Run Value := do
  let n ← lengthOf h v
  let f ← callback (arg args 0)
  let first := if args.length > 1 then some (arg args 1) else none
  let r ← through (fun acc i => combine h v f acc (if fromEnd then n - 1 - i else i)) n 0 first
  match r with
  | some r => return r
  | none => typeError "cannot reduce an empty array without an initial value"

def position? : Option Nat → Value
  | some i => .nat i
  | none => .number (-1.0)

def lastIndexOf (h : Host) (v : Value) (args : List Value) : Run Value := do
  let n ← lengthOf h v
  if n == 0 then return position? none
  let x ← if args.length > 1 then toInteger h (arg args 1) else pure (Float.ofNat n - 1.0)
  let x := if x < 0.0 then x + Float.ofNat n else x
  if x < 0.0 then return position? none
  return position? (← downward (fun i => do
    return if (← present h v i).any (·.same (arg args 0)) then some i else none)
    (min (clamp x n + 1) n))

/-- A position that is counted from the end if it is negative, if it is one of a list. -/
def within? (x : Float) (n : Nat) : Option Nat :=
  let x := if x < 0.0 then x + Float.ofNat n else x
  if x ≥ 0.0 && x < Float.ofNat n then some x.toUInt64.toNat else none

def slice (h : Host) (v : Value) (args : List Value) : Run Value := do
  let n ← lengthOf h v
  let first ← toRelative h (arg args 0) n 0
  let last ← toRelative h (arg args 1) n n
  let count := last - first
  let out ← arrayLike h v count
  eachUp (fun i => do
    match ← present h v (first + i) with
    | some x => createItem h out i x
    | none => pure ()) count 0
  setLengthOf h out count
  return out

/-- All items of a list, undefined for holes. -/
def allItems (h : Host) (v : Value) : Run (Array Value) := do
  let n ← lengthOf h v
  if n > 4294967295 then rangeError "array exceeded max size"
  through (fun out i => do return out.push (← itemAt h v i)) n 0 #[]

def toSpliced (h : Host) (v : Value) (args : List Value) : Run Value := do
  let n ← lengthOf h v
  let (start, count) ← spliceRange h args n
  checkLength (n + (args.drop 2).length - count)
  let items ← allItems h v
  arrayOf (items.extract 0 start ++ (args.drop 2).toArray ++ items.extract (start + count) items.size)

def iteratorOver (v : Value) (listing : Listing) : Run Value :=
  newObject Ref.arrayIteratorProto (.listIterator (some v) 0 listing) #[]

/-- What the methods do, on an object. -/
def listMethod (h : Host) (name : String) (v : Value) (args : List Value) : Run Value := do
  let a := arg args 0
  let b := arg args 1
  match name with
  | "push" => push h v args
  | "map" =>
    let n ← lengthOf h v
    let f ← callback a
    let out ← arrayLike h v n
    eachUp (fun i => do
      match ← present h v i with
      | some x => createItem h out i (← apply h f b v i x)
      | none => pure ()) n 0
    return out
  | "forEach" =>
    let n ← lengthOf h v
    let f ← callback a
    eachUp (fun i => do
      match ← present h v i with
      | some x =>
        let _ ← apply h f b v i x
      | none => pure ()) n 0
    return .undefined
  | "filter" =>
    let n ← lengthOf h v
    let f ← callback a
    let out ← arrayLike h v 0
    let _ ← through (fun k i => do
      match ← present h v i with
      | some x =>
        if (← apply h f b v i x).truthy then
          createItem h out k x
          return k + 1
        return k
      | none => return k) n 0 0
    return out
  | "some" => return .boolean !(← holdsForAll h v a b not)
  | "every" => return .boolean (← holdsForAll h v a b id)
  | "find" => return ((← findItem h v a b false).map (·.2)).getD .undefined
  | "findIndex" => return position? ((← findItem h v a b false).map (·.1))
  | "findLast" => return ((← findItem h v a b true).map (·.2)).getD .undefined
  | "findLastIndex" => return position? ((← findItem h v a b true).map (·.1))
  | "reduce" => reduce h v args false
  | "reduceRight" => reduce h v args true
  | "join" => join h v a
  | "toLocaleString" => joinLocal h v
  | "includes" =>
    let n ← lengthOf h v
    let start ← if n == 0 then pure 0 else toRelative h b n 0
    let r ← upward (fun i => do
      return if (← itemAt h v i).sameOrNan a then some () else none) (n - start) start
    return .boolean r.isSome
  | "indexOf" =>
    let n ← lengthOf h v
    let start ← if n == 0 then pure 0 else toRelative h b n 0
    return position? (← upward (fun i => do
      return if (← present h v i).any (·.same a) then some i else none) (n - start) start)
  | "lastIndexOf" => lastIndexOf h v args
  | "at" =>
    let n ← lengthOf h v
    match within? (← toInteger h a) n with
    | some i => itemAt h v i
    | none => return .undefined
  | "slice" => slice h v args
  | "concat" => concat h v args
  | "flat" => flat h v a
  | "flatMap" => flatMap h v a b
  | "pop" => pop h v
  | "shift" => shift h v
  | "unshift" => unshift h v args
  | "splice" => splice h v args
  | "toSpliced" => toSpliced h v args
  | "reverse" => reverse h v
  | "toReversed" => arrayOf (← allItems h v).reverse
  | "fill" => fill h v args
  | "copyWithin" => copyWithin h v args
  | "with" =>
    let n ← lengthOf h v
    match within? (← toInteger h a) n with
    | some i => arrayOf ((← allItems h v).setIfInBounds i b)
    | none => rangeError "invalid index"
  | "keys" => iteratorOver v .keys
  | "values" => iteratorOver v .values
  | "entries" => iteratorOver v .entries
  | _ => unknown name

/-- The text of a list, by its own method for joining items. -/
def listText (h : Host) (v : Value) : Run Value := do
  let f ← getName h v "join"
  if ← isCallable f then h.call f v [] else objectText h v

/-- The methods of arrays. -/
def arrayMethod : Body := fun h name this args => do
  match name with
  | "sort" => sort h this (arg args 0)
  | "toSorted" =>
    checkCompare (arg args 0)
    let items ← allItems h (.object (← toObject this))
    arrayOfList (← sorted h (arg args 0) items.toList)
  | "toString" => listText h (.object (← toObject this))
  | name => listMethod h name (.object (← toObject this)) args

end Library
end Script
end Restyle
