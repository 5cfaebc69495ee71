import Restyle.Script.Library.Object

/-!
# Restyle.Script.Library.Collection

Maps and sets, and those that hold objects without keeping them.

An entry that is deleted leaves its place, so that whoever goes through a collection meanwhile
neither misses an entry nor meets one twice.
-/

namespace Restyle
namespace Script
namespace Library

open Run

/-- Functions of `Map`. -/
def mapTable : List (String × Nat) := [("groupBy", 2)]

def mapMethodTable : List (String × Nat) :=
  [("clear", 0), ("delete", 1), ("entries", 0), ("forEach", 1), ("get", 1), ("has", 1),
    ("keys", 0), ("set", 2), ("values", 0)]

def setMethodTable : List (String × Nat) :=
  [("add", 1), ("clear", 0), ("delete", 1), ("entries", 0), ("forEach", 1), ("has", 1),
    ("values", 0)]

def weakMapMethodTable : List (String × Nat) := [("delete", 1), ("get", 1), ("has", 1), ("set", 2)]

def weakSetMethodTable : List (String × Nat) := [("add", 1), ("delete", 1), ("has", 1)]

def weakRefMethodTable : List (String × Nat) := [("deref", 0)]

/-- A key of a map, with one zero. -/
def mapKey (v : Value) : Value :=
  match v with
  | .number x => if x == 0.0 then .number 0.0 else v
  | v => v

/-- Calls a function for each entry, also for those that are added meanwhile. -/
def eachEntry (h : Host) (f this subject : Value) (ref : Nat) : Nat → Nat → Run Unit
  | 0, _ => throw .limit
  | fuel + 1, i => do
    match ← entryFrom? ref i with
    | none => return
    | some (i, k, v) =>
      let _ ← h.call f this [v, k, subject]
      eachEntry h f this subject ref fuel (i + 1)

def entryIterator (isMap : Bool) (ref : Nat) (listing : Listing) : Run Value :=
  newObject (if isMap then Ref.mapIteratorProto else Ref.setIteratorProto)
    (.entryIterator isMap (some ref) 0 listing) #[]

/-- How many places of entries are in use. -/
def liveCount (kind : Kind) : Nat :=
  match kind with
  | .map entries => entries.foldl (fun n e => if e.isSome then n + 1 else n) 0
  | .set items => items.foldl (fun n e => if e.isSome then n + 1 else n) 0
  | _ => 0

def map : Body := fun h name this args => do
  match name with
  | "species" => return this
  | "groupBy" =>
    checkPresent (arg args 0)
    let f ← callback (arg args 1)
    let groups ← groupItems h Value.sameOrNan (fun k => pure (mapKey k)) f itemBound 0
      (← iterate h (arg args 0)) []
    let entries ← groups.mapM fun (k, xs) => do return some (k, ← arrayOf xs)
    newObject Ref.mapProto (.map entries.toArray) #[]
  | _ => unknown name

/-- What becomes of a map when a key gets a value. -/
def withEntry (kind : Kind) (k v : Value) : Kind :=
  match kind with
  | .map entries =>
    match entries.findIdx? fun e => e.any fun e => e.1.sameOrNan k with
    | some i => .map (entries.modify i fun _ => some (k, v))
    | none => .map (entries.push (some (k, v)))
  | kind => kind

/-- Changes what an object is. -/
def changeKind (ref : Nat) (f : Kind → Kind) : Run Unit :=
  modifyObj ref fun o =>
    match o with
    | ⟨parent, kind, props, extensible, fixed⟩ => ⟨parent, f kind, props, extensible, fixed⟩

def mapMethod : Body := fun h name this args => do
  let ref ← refOf this
  let k := mapKey (arg args 0)
  match (← obj ref).kind with
  | .map entries =>
    let position := entries.findIdx? fun e => e.any fun e => e.1.sameOrNan k
    match name with
    | "get" => return ((position.bind (entries[·]?)).bind (·.map (·.2))).getD .undefined
    | "has" => return .boolean position.isSome
    | "set" =>
      changeKind ref (withEntry · k (arg args 1))
      return this
    | "delete" =>
      match position with
      | some i =>
        setKind ref (.map (entries.modify i fun _ => none))
        return .boolean true
      | none => return .boolean false
    | "clear" =>
      setKind ref (.map (entries.map fun _ => none))
      return .undefined
    | "size" => return .nat (liveCount (.map entries))
    | "forEach" =>
      eachEntry h (← callback (arg args 0)) (arg args 1) this ref itemBound 0
      return .undefined
    | "keys" => entryIterator true ref .keys
    | "values" => entryIterator true ref .values
    | "entries" => entryIterator true ref .entries
    | _ => unknown name
  | _ => typeError "'this' is not a Map"

/-- A set with an item. -/
def withItem (kind : Kind) (v : Value) : Kind :=
  match kind with
  | .set items => if items.any fun e => e.any (·.sameOrNan v) then .set items else .set (items.push (some v))
  | kind => kind

def setMethod : Body := fun h name this args => do
  let ref ← refOf this
  let k := mapKey (arg args 0)
  match (← obj ref).kind with
  | .set items =>
    let position := items.findIdx? fun e => e.any (·.sameOrNan k)
    match name with
    | "has" => return .boolean position.isSome
    | "add" =>
      changeKind ref (withItem · k)
      return this
    | "delete" =>
      match position with
      | some i =>
        setKind ref (.set (items.modify i fun _ => none))
        return .boolean true
      | none => return .boolean false
    | "clear" =>
      setKind ref (.set (items.map fun _ => none))
      return .undefined
    | "size" => return .nat (liveCount (.set items))
    | "forEach" =>
      eachEntry h (← callback (arg args 0)) (arg args 1) this ref itemBound 0
      return .undefined
    | "values" => entryIterator false ref .values
    | "entries" => entryIterator false ref .entries
    | _ => unknown name
  | _ => typeError "'this' is not a Set"

/-! ## Collections that do not keep what they hold -/

def weakMapMethod : Body := fun _ name this args => do
  let ref ← refOf this
  let k := arg args 0
  match (← obj ref).kind with
  | .weakMap entries =>
    let found := entries.find? (·.1.same k)
    let others := entries.filter (!·.1.same k)
    match name with
    | "get" => return (found.map (·.2)).getD .undefined
    | "has" => return .boolean found.isSome
    | "delete" =>
      setKind ref (.weakMap others)
      return .boolean found.isSome
    | "set" =>
      if !k.isObject then typeError "key must be an object"
      setKind ref (.weakMap ((k, arg args 1) :: others))
      return this
    | _ => unknown name
  | _ => typeError "'this' is not a WeakMap"

def weakSetMethod : Body := fun _ name this args => do
  let ref ← refOf this
  let v := arg args 0
  match (← obj ref).kind with
  | .weakSet items =>
    match name with
    | "has" => return .boolean (items.any (·.same v))
    | "delete" =>
      setKind ref (.weakSet (items.filter (!·.same v)))
      return .boolean (items.any (·.same v))
    | "add" =>
      if !v.isObject then typeError "value must be an object"
      setKind ref (.weakSet (v :: items.filter (!·.same v)))
      return this
    | _ => unknown name
  | _ => typeError "'this' is not a WeakSet"

def weakRefMethod : Body := fun _ _ this _ => do
  match (← obj (← refOf this)).kind with
  | .weakRef target => return target
  | _ => typeError "'this' is not a WeakRef"

end Library
end Script
end Restyle
