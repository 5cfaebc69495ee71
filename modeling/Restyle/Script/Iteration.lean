import Restyle.Script.Operator

/-!
# Restyle.Script.Iteration

Going through the items of a value one after the other, and making functions and the objects
that calls need.
-/

namespace Restyle
namespace Script
namespace Run

/-- Is a method of an object still the one that the library provides? -/
def isProvided (ref : Nat) (k : Key) : Run Bool := do
  match (← obj ref).own? k with
  | some { content := .data (.object f), .. } =>
    match (← obj f).kind with
    | .native _ => return true
    | _ => return false
  | _ => return false

/-- What is left to iterate over in a value whose iterators the library provides. -/
def knownItems? (f : Native) (v : Value) : Run (Option Iteration) := do
  match v, f.family, f.name with
  | .object ref, .arrayMethod, "values" =>
    if (← obj ref).isArray && (← isProvided Ref.arrayIteratorProto "next") then
      return some (.array ref 0)
    return none
  | .string s, .stringMethod, "iterator" =>
    return if ← isProvided Ref.stringIteratorProto "next" then some (.characters s.units) else none
  | .object ref, .mapMethod, "entries" =>
    match (← obj ref).kind with
    | .map _ =>
      return if ← isProvided Ref.mapIteratorProto "next" then some (.entries ref 0 .entries) else none
    | _ => return none
  | .object ref, .setMethod, "values" =>
    match (← obj ref).kind with
    | .set _ =>
      return if ← isProvided Ref.setIteratorProto "next" then some (.entries ref 0 .values) else none
    | _ => return none
  | _, _, _ => return none

/-- An iterator with its method for the next item. -/
def iterationOf (h : Host) (it : Value) : Run Iteration := do
  if !it.isObject then typeError "result of the iterator method is not an object"
  return .object it (← getName h it "next")

/-- Starts to go through the items of a value, with its method for that. -/
def iterateBy (h : Host) (v f : Value) : Run Iteration := do
  let known ← match f with
    | .object ref =>
      match (← obj ref).kind with
      | .native n => knownItems? n v
      | _ => pure none
    | _ => pure none
  match known with
  | some it => return it
  | none => iterationOf h (← h.call f v [])

/-- Starts to go through the items of a value. -/
def iterate (h : Host) (v : Value) : Run Iteration := do
  if v.isNullish then typeError "value is not iterable"
  match ← method? h v (.symbol Symbols.iterator) with
  | none => typeError "value is not iterable"
  | some f => iterateBy h v f

/-- The entry of a map or set at a position, none if it was deleted; nothing beyond the end. -/
def entryAt (kind : Kind) (i : Nat) : Option (Option (Value × Value)) :=
  match kind with
  | .map entries => entries[i]?
  | .set items => (items[i]?).map fun v => v.map fun v => (v, v)
  | _ => none

/-- What is listed of an entry. -/
def listed (listing : Listing) (k v : Value) : Run Value :=
  match listing with
  | .keys => pure k
  | .values => pure v
  | .entries => arrayOf #[k, v]

/-- The next entry of a map or set from a position on, with its position. -/
def nextEntry? (ref : Nat) : Nat → Nat → Run (Option (Nat × Value × Value))
  | 0, _ => return none
  | left + 1, i => do
    match entryAt (← obj ref).kind i with
    | none => return none
    | some none => nextEntry? ref left (i + 1)
    | some (some (k, v)) => return some (i, k, v)

/-- Number of the entries of a map or set, with those that were deleted. -/
def entryCount (kind : Kind) : Nat :=
  match kind with
  | .map entries => entries.size
  | .set items => items.size
  | _ => 0

def entryFrom? (ref i : Nat) : Run (Option (Nat × Value × Value)) := do
  nextEntry? ref (entryCount (← obj ref).kind + 1 - i) i

/-- The units of the first character of a text, and what follows. -/
def firstCharacter : List UInt16 → Option (List UInt16 × List UInt16)
  | [] => none
  | [u] => some ([u], [])
  | u :: v :: rest =>
    if Utf16.isHigh u && Utf16.isLow v then some ([u, v], rest) else some ([u], v :: rest)

end Run

namespace KeyWalk

open Run

/-- The next key that is listed and not hidden by one met before, and the walk after it. -/
def next? (h : Host) : Nat → KeyWalk → Run (Option (Key × KeyWalk))
  | 0, _ => throw .limit
  | fuel + 1, w => do
    match w.coming with
    | none => next? h fuel { w with coming := some ((← ownKeys h w.holder).filter (·.isText)) }
    | some (k :: ks) =>
      let after := { w with coming := some ks }
      if w.before.contains k then next? h fuel after
      else
        match ← ownSlot? h w.holder k with
        | none => next? h fuel after
        | some slot =>
          let after := { after with met := k :: w.met }
          if slot.enumerable then return some (k, after) else next? h fuel after
    | some [] =>
      match (← obj w.holder).parent with
      | some p => next? h fuel { holder := p, before := w.met ++ w.before }
      | none => return none

/-- All keys still to come. -/
def all (h : Host) : Nat → KeyWalk → Run (List Key)
  | 0, _ => throw .limit
  | fuel + 1, w => do
    match ← w.next? h fuel with
    | none => return []
    | some (k, w) => return k :: (← all h fuel w)

end KeyWalk

namespace Iteration

open Run

/-- The next item, if there is one, and the items after it. -/
def next? (h : Host) (it : Iteration) : Run (Option (Value × Iteration)) := do
  match it with
  | .characters us =>
    return (firstCharacter us).map fun (c, rest) => (.string (Utf16.ofUnits c), .characters rest)
  | .array ref i =>
    if i < (← lengthOf h (.object ref)) then
      return some (← itemAt h (.object ref) i, .array ref (i + 1))
    return none
  | .entries ref i listing =>
    match ← entryFrom? ref i with
    | some (i, k, v) => return some (← listed listing k v, .entries ref (i + 1) listing)
    | none => return none
  | .object iterator next =>
    let r ← h.call next iterator []
    if !r.isObject then typeError "iterator result is not an object"
    if (← getName h r "done").truthy then return none
    return some (← getName h r "value", it)

/-- Leaves the items still to come. -/
def close (h : Host) (it : Iteration) : Run Unit := do
  match it with
  | .object iterator _ =>
    match ← method? h iterator (.name "return") with
    | some f => if !(← h.call f iterator []).isObject then typeError "iterator result is not an object"
    | none => pure ()
  | _ => pure ()

/-- Leaves the items still to come because of a thrown value, which goes on. -/
def abandon {α : Type} (h : Host) (it : Iteration) (e : Value) : Run α := do
  match it with
  | .object iterator _ =>
    orCatch (do
      match ← method? h iterator (.name "return") with
      | some f =>
        let _ ← h.call f iterator []
      | none => pure ()) fun _ => pure ()
  | _ => pure ()
  throw (.thrown e)

/-- Does something with one item; if that throws, the items still to come are left. -/
def guard {α : Type} (h : Host) (it : Iteration) (run : Run α) : Run α :=
  orCatch run (it.abandon h)

/-- All items still to come, put after given ones; at most as many as a bound. -/
def collect (h : Host) : Nat → Iteration → Array Value → Run (Array Value)
  | 0, _, _ => throw .limit
  | fuel + 1, it, out => do
    match ← next? h it with
    | some (v, it) => collect h fuel it (out.push v)
    | none => return out

/-- Does something with each item still to come and its position. -/
def forEach (h : Host) (f : Nat → Value → Run Unit) : Nat → Nat → Iteration → Run Unit
  | 0, _, _ => throw .limit
  | fuel + 1, i, it => do
    match ← next? h it with
    | some (v, it) =>
      it.guard h (f i v)
      forEach h f fuel (i + 1) it
    | none => return

end Iteration

namespace Run

/-- Bound on the number of items that are gone through. -/
def itemBound : Nat := 1000000000

/-- The keys of a value that a loop over keys visits. -/
def keysAlong (h : Host) (v : Value) : Run (List Key) := do
  if v.isNullish then return []
  KeyWalk.all h itemBound { holder := ← toObject v }

/-- The items of a value. -/
def itemsOf (h : Host) (v : Value) : Run (Array Value) := do
  Iteration.collect h itemBound (← iterate h v) #[]

/-- Does something with each item of a value and its position. -/
def forItems (h : Host) (v : Value) (f : Nat → Value → Run Unit) : Run Unit := do
  Iteration.forEach h f itemBound 0 (← iterate h v)

/-! ## Functions -/

/-- Properties that every function has. -/
def functionProps (name : Utf16) (arity : Nat) : Array (Key × Slot) :=
  #[("length", .label (.nat arity)), ("name", .label (.string name))]

/-- The parent of a function, and that of what it makes as a generator. -/
def functionParents (t : FunctionTraits) : Nat × Option Nat :=
  match t.isAsync, t.isGenerator with
  | false, false => (Ref.functionProto, none)
  | false, true => (Ref.generatorFunctionProto, some Ref.generatorProto)
  | true, false => (Ref.asyncFunctionProto, none)
  | true, true => (Ref.asyncGeneratorFunctionProto, some Ref.asyncGeneratorProto)

/-- Makes a function of a script under a name. -/
def makeNamed (f : Func) (name : Utf16) (scope : Nat) (home : Option Nat) : Run Value := do
  let t := f.traits
  let (parent, made) := functionParents t
  let ref ← alloc {
    parent := some parent
    kind := .closure { func := f, scope, home }
    props := functionProps name t.arity }
  match made with
  | some made =>
    let p ← alloc { parent := some made }
    put ref "prototype" ⟨.data (.object p), true, false, false⟩
  | none =>
    if t.kind == .plain && !t.isAsync then
      let p ← alloc {
        parent := some Ref.objectProto, props := #[("constructor", .quiet (.object ref))] }
      put ref "prototype" ⟨.data (.object p), true, false, false⟩
  return .object ref

/-- Makes a function of a script. -/
def makeFunction (f : Func) (scope : Nat) (home : Option Nat) : Run Value :=
  makeNamed f f.traits.name scope home

/-- A property with a getter or setter beside the one that is there. -/
def accessorBeside (old : Option Slot) (isGetter listed : Bool) (f : Value) : Slot :=
  let (getter, setter) := match old.map Slot.content with
    | some (.accessor g s) => (g, s)
    | _ => (.undefined, .undefined)
  ⟨if isGetter then .accessor f setter else .accessor getter f, true, listed, true⟩

/-- Defines a getter or setter beside the one that is there. -/
def defineAccessor (ref : Nat) (k : Key) (isGetter listed : Bool) (f : Value) : Run Unit :=
  modifyObj ref fun o => o.define k (accessorBeside (o.own? k) isGetter listed f)

/-- The name of a function that is a property. -/
def keyName (k : Key) : Run Utf16 := fun m =>
  match k with
  | .name s => .ok s m
  | .hidden id =>
    match m.symbols[id]? with
    | some (.string s) => .ok s m
    | _ => .ok "" m
  | .symbol id =>
    match m.symbols[id]? with
    | some (.string s) => .ok ("[" ++ s ++ "]") m
    | _ => .ok "" m

/-- The object that holds the arguments of a call. -/
def argumentsObject (args : List Value) : Run Value := do
  let items : List (Key × Slot) := args.zipIdx.map fun (v, i) => (Key.ofNat i, .plain v)
  let thrower : Value := .object Ref.thrower
  let iterator := ((← obj Ref.arrayProto).own? "values").map fun s => (Key.symbol Symbols.iterator, s)
  let length : Key × Slot := ("length", .quiet (.nat args.length))
  let callee : Key × Slot := ("callee", ⟨.accessor thrower thrower, true, false, false⟩)
  newObject Ref.objectProto .arguments (items ++ length :: iterator.toList ++ [callee]).toArray

/-- A new symbol with a description. -/
def newSymbol (description : Value) : Run Nat := fun m =>
  .ok m.symbols.size { m with symbols := m.symbols.push description }

/-- Variables of a block before it runs. -/
def blockVariables (names : List LexicalName) : Array Variable :=
  (names.map fun n => { name := n.name, value := none, mutable := n.kind != .constant }).toArray

/-- Gives the functions that are declared among some statements their values. -/
def hoistFunctions (scope : Nat) : List Stmt → Run Unit
  | [] => pure ()
  | .function f :: rest => do
    initVariable scope f.traits.name (← makeFunction f scope none)
    hoistFunctions scope rest
  | .labelled _ (.function f) :: rest => do
    initVariable scope f.traits.name (← makeFunction f scope none)
    hoistFunctions scope rest
  | _ :: rest => hoistFunctions scope rest

/-- Gives the functions declared in the cases of a switch their values. -/
def hoistCases (scope : Nat) : List Stmt → Run Unit
  | [] => pure ()
  | .case _ body :: rest => do
    hoistFunctions scope body
    hoistCases scope rest
  | _ :: rest => hoistCases scope rest

end Run
end Script
end Restyle
