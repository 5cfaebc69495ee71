import Restyle.Script.Engine

/-!
# Restyle.Script.Realm

The machine that a script finds: prototypes, constructors and the other objects of the library,
and the variables that refer to them.
-/

namespace Restyle
namespace Script
namespace Realm

open Run Library

/-! ## Storing -/

/-- Stores a property that is not listed. -/
def putQuiet (ref : Nat) (k : Key) (v : Value) : Run Unit := put ref k (.quiet v)

/-- Stores a function of the library under another name than its own. -/
def putAs (ref : Nat) (k : Key) (family : Family) (name : String) (label : Utf16) (arity : Nat) :
    Run Unit := do
  putQuiet ref k (← native family name label arity)

/-- Lets one property have the value of another. -/
def putAlias (ref : Nat) (k : Key) (name : String) : Run Unit := do
  match (← obj ref).own? (.name name) with
  | some { content := .data v, .. } => putQuiet ref k v
  | _ => pure ()

/-- Stores the word for what an object is. -/
def putTag (ref : Nat) (tag : String) : Run Unit :=
  put ref (.symbol Symbols.toStringTag) (.label (.text tag))

/-- Stores the getter for the constructor with which methods make new objects. -/
def putSpecies (ref : Nat) (family : Family) : Run Unit :=
  putGetter ref (.symbol Symbols.species) family "species" "[Symbol.species]"

/-! ## Fixed objects -/

/-- Iterators by the name of their sort, with the word for what they are. -/
def iteratorSorts : List (Nat × String × String) :=
  [(Ref.arrayIteratorProto, "list", "Array Iterator"), (Ref.mapIteratorProto, "map", "Map Iterator"),
    (Ref.setIteratorProto, "set", "Set Iterator"), (Ref.stringIteratorProto, "text", "String Iterator"),
    (Ref.matchIteratorProto, "match", "RegExp String Iterator")]

/-- Parents of functions that are not plain: the name of the constructor, and the parent of what
such functions make. -/
def functionSorts : List (Nat × String × Option Nat) :=
  [(Ref.generatorFunctionProto, "GeneratorFunction", some Ref.generatorProto),
    (Ref.asyncFunctionProto, "AsyncFunction", none),
    (Ref.asyncGeneratorFunctionProto, "AsyncGeneratorFunction", some Ref.asyncGeneratorProto)]

/-- What the object with a number is from the start. -/
def kindAt (ref : Nat) : Kind :=
  if ref == Ref.functionProto then .native ⟨.functionMethod, "prototype"⟩
  else if ref == Ref.thrower then .native ⟨.functionMethod, "thrower"⟩
  else if ref == Ref.arrayProto then .array #[] 0
  else if ref == Ref.stringProto then .wrapper (.string "")
  else if ref == Ref.numberProto then .wrapper (.number 0.0)
  else if ref == Ref.booleanProto then .wrapper (.boolean false)
  else if ref == Ref.idle then .native ⟨.component, "idle"⟩
  else .ordinary

def parentAt (ref : Nat) : Option Nat :=
  if ref == Ref.objectProto then none
  else if ref == Ref.idle || ref == Ref.thrower || (functionSorts.lookup ref).isSome then
    some Ref.functionProto
  else if ref == Ref.generatorProto || (iteratorSorts.lookup ref).isSome then some Ref.iteratorProto
  else if ref == Ref.asyncGeneratorProto then some Ref.asyncIteratorProto
  else if (ErrorKind.all.drop 1).any fun k => Ref.errorProto k == ref then
    some (Ref.errorProto .plain)
  else some Ref.objectProto

/-- Makes the objects that have a fixed number. -/
def allocFixed : Run Unit := do
  for ref in List.range Ref.count do
    let isFunction := [Ref.functionProto, Ref.idle, Ref.thrower].contains ref
    let props := if isFunction then functionProps "" 0 else #[]
    let _ ← alloc { parent := parentAt ref, kind := kindAt ref, props }

/-! ## Methods -/

/-- Makes the methods that objects and functions have. -/
def putBasicMethods : Run Unit := do
  putAll Ref.objectProto .objectMethod objectMethodTable
  let getter ← native .objectMethod "getParent" "get __proto__" 0
  let setter ← native .objectMethod "setParent" "set __proto__" 1
  put Ref.objectProto "__proto__" ⟨.accessor getter setter, true, false, true⟩
  putAll Ref.functionProto .functionMethod functionMethodTable
  put Ref.functionProto (.symbol Symbols.hasInstance)
    (.fixed (← native .functionMethod "hasInstance" "[Symbol.hasInstance]" 1))
  let thrower := Value.object Ref.thrower
  for x in ["caller", "arguments"] do
    put Ref.functionProto (.name x) ⟨.accessor thrower thrower, true, false, true⟩
  put Ref.thrower "length" (.fixed (.nat 0))
  put Ref.thrower "name" (.fixed (.text ""))
  modifyObj Ref.thrower fun o => { o with extensible := false }

/-- Makes the methods of primitive values. -/
def putPrimitiveMethods : Run Unit := do
  putAll Ref.stringProto .stringMethod stringMethodTable
  putAs Ref.stringProto (.symbol Symbols.iterator) .stringMethod "iterator" "[Symbol.iterator]" 0
  putAll Ref.numberProto .numberMethod numberMethodTable
  putAll Ref.booleanProto .booleanMethod booleanMethodTable
  putAll Ref.symbolProto .symbolMethod symbolMethodTable
  putGetter Ref.symbolProto "description" .symbolMethod "description" "description"
  put Ref.symbolProto (.symbol Symbols.toPrimitive)
    (.label (← native .symbolMethod "toPrimitive" "[Symbol.toPrimitive]" 1))
  putTag Ref.symbolProto "Symbol"
  putAll Ref.bigintProto .bigintMethod bigintMethodTable
  putTag Ref.bigintProto "BigInt"

/-- Makes the methods of arrays. -/
def putArrayMethods : Run Unit := do
  putAll Ref.arrayProto .arrayMethod arrayMethodTable
  putAlias Ref.arrayProto (.symbol Symbols.iterator) "values"
  let hidden ← alloc {
    parent := none
    props := (unscopableNames.map fun x => (Key.name (.whole x), Slot.plain (.boolean true))).toArray }
  put Ref.arrayProto (.symbol Symbols.unscopables) (.label (.object hidden))

/-- Makes the methods of regular expressions and dates. -/
def putFormMethods : Run Unit := do
  putAll Ref.regexProto .regexMethod regexMethodTable
  for x in ["source", "flags"] ++ regexFlagNames.map (·.1) do
    putGetter Ref.regexProto (.name x) .regexMethod x x
  for (name, symbol, arity) in regexSymbolTable do
    putAs Ref.regexProto (.symbol symbol) .regexMethod name ("[Symbol." ++ name ++ "]") arity
  putAll Ref.dateProto .dateMethod dateMethodTable
  put Ref.dateProto (.symbol Symbols.toPrimitive)
    (.label (← native .dateMethod "toPrimitive" "[Symbol.toPrimitive]" 1))

/-- Makes the methods of collections. -/
def putCollectionMethods : Run Unit := do
  putAll Ref.mapProto .mapMethod mapMethodTable
  putGetter Ref.mapProto "size" .mapMethod "size" "size"
  putAlias Ref.mapProto (.symbol Symbols.iterator) "entries"
  putAll Ref.setProto .setMethod setMethodTable
  putGetter Ref.setProto "size" .setMethod "size" "size"
  putAlias Ref.setProto "keys" "values"
  putAlias Ref.setProto (.symbol Symbols.iterator) "values"
  putAll Ref.weakMapProto .weakMapMethod weakMapMethodTable
  putAll Ref.weakSetProto .weakSetMethod weakSetMethodTable
  putAll Ref.weakRefProto .weakRefMethod weakRefMethodTable
  for (ref, tag) in [(Ref.mapProto, "Map"), (Ref.setProto, "Set"), (Ref.weakMapProto, "WeakMap"),
      (Ref.weakSetProto, "WeakSet"), (Ref.weakRefProto, "WeakRef")] do
    putTag ref tag

/-- Makes the methods of iterators, generators and promises. -/
def putIteratorMethods : Run Unit := do
  putAs Ref.iteratorProto (.symbol Symbols.iterator) .iteratorMethod "iterator" "[Symbol.iterator]" 0
  putAs Ref.asyncIteratorProto (.symbol Symbols.asyncIterator) .iteratorMethod "iterator"
    "[Symbol.asyncIterator]" 0
  for (ref, name, tag) in iteratorSorts do
    putAs ref "next" .iteratorMethod name "next" 0
    putTag ref tag
  putAll Ref.generatorProto .generatorMethod generatorMethodTable
  putTag Ref.generatorProto "Generator"
  putAll Ref.asyncGeneratorProto .asyncGeneratorMethod generatorMethodTable
  putTag Ref.asyncGeneratorProto "AsyncGenerator"
  putAll Ref.promiseProto .promiseMethod promiseMethodTable
  putTag Ref.promiseProto "Promise"

/-- Makes the methods of errors. -/
def putErrorMethods : Run Unit := do
  putAll (Ref.errorProto .plain) .errorMethod errorMethodTable
  for kind in ErrorKind.all do
    putQuiet (Ref.errorProto kind) "name" (.text kind.name)
    putQuiet (Ref.errorProto kind) "message" (.text "")

/-! ## Constructors -/

/-- Functions that are properties of constructors. -/
def staticTable : List (String × Family × List (String × Nat)) :=
  [("Object", .object, objectTable), ("Array", .array, arrayTable), ("String", .string, stringTable),
    ("Number", .number, numberTable), ("Symbol", .symbol, symbolTable),
    ("BigInt", .bigint, bigintTable), ("Map", .map, mapTable), ("Promise", .promise, promiseTable),
    ("Date", .date, dateTable)]

/-- Constructors that methods ask for the constructor of new objects. -/
def speciesTable : List (String × Family) :=
  [("Array", .array), ("Map", .map), ("Set", .map), ("Promise", .promise), ("RegExp", .regexMethod)]

/-- Makes a constructor. -/
def putConstructor (parent : Nat) (name : String) (arity proto : Nat) : Run Nat := do
  let ref ← alloc {
    parent := some parent, kind := .native ⟨.constructor, name⟩, props := functionProps name arity }
  put ref "prototype" (.fixed (.object proto))
  putQuiet proto "constructor" (.object ref)
  match staticTable.lookup name with
  | some (family, table) => putAll ref family table
  | none => pure ()
  match speciesTable.lookup name with
  | some family => putSpecies ref family
  | none => pure ()
  return ref

/-- Makes constructors. -/
def putConstructors (parent : Nat) : List (String × Nat × Nat) → Run (List (String × Value))
  | [] => pure []
  | (name, arity, proto) :: rest => do
    let ref ← putConstructor parent name arity proto
    return (name, .object ref) :: (← putConstructors parent rest)

/-- Makes the constructors of errors. -/
def putErrorConstructors : Run (List (String × Value)) := do
  match errorTable with
  | [] => return []
  | (name, arity, proto) :: rest =>
    let ref ← putConstructor Ref.functionProto name arity proto
    return (name, .object ref) :: (← putConstructors ref rest)

/-- Stores what is known of numbers and symbols in their constructors. -/
def putConstants (number symbol : Nat) (functions : List (String × Value)) : Run Unit := do
  for (x, v) in numberConstants do
    put number (.name x) (.fixed (.number v))
  for x in ["parseFloat", "parseInt"] do
    putQuiet number (.name x) ((functions.lookup x).getD .undefined)
  for (x, id) in Symbols.names.zipIdx do
    put symbol (.name x) (.fixed (.symbol id))

/-- Makes the constructors of functions that are not plain, to which no variable refers. -/
def putFunctionSorts (function : Nat) : Run Unit := do
  for (ref, name, made) in functionSorts do
    let maker ← alloc {
      parent := some function, kind := .native ⟨.constructor, name⟩, props := functionProps name 1 }
    put maker "prototype" (.fixed (.object ref))
    put ref "constructor" (.label (.object maker))
    putTag ref name
    match made with
    | some proto =>
      put ref "prototype" (.label (.object proto))
      put proto "constructor" (.label (.object ref))
    | none => pure ()

/-! ## The machine -/

/-- Makes an object that holds functions. -/
def holder (family : Family) (tag : String) (table : List (String × Nat)) : Run Nat := do
  let ref ← alloc { parent := some Ref.objectProto }
  putAll ref family table
  putTag ref tag
  return ref

/-- The object of a variable. -/
def refIn (made : List (String × Value)) (x : String) : Nat :=
  match made.lookup x with
  | some (.object ref) => ref
  | _ => 0

/-- Makes all objects and the outermost variables. -/
def build : Run Unit := do
  modify fun m => { m with symbols := (Symbols.names.map fun x => Value.text ("Symbol." ++ x)).toArray }
  allocFixed
  putBasicMethods
  putPrimitiveMethods
  putArrayMethods
  putFormMethods
  putCollectionMethods
  putIteratorMethods
  putErrorMethods
  let plain ← putConstructors Ref.functionProto constructorTable
  let errors ← putErrorConstructors
  let functions ← globalTable.mapM fun (name, arity) => do
    return (name, ← native .global name name arity)
  putConstants (refIn plain "Number") (refIn plain "Symbol") functions
  putFunctionSorts (refIn plain "Function")
  let proxy ← native .constructor "Proxy" "Proxy" 2
  putAll (← refOf proxy) .reflect proxyTable
  let math ← holder .math "Math" mathTable
  for (x, v) in mathConstants do
    put math (.name x) (.fixed (.number v))
  let json ← holder .json "JSON" jsonTable
  let reflect ← holder .reflect "Reflect" reflectTable
  let changeable := plain ++ errors ++ functions ++
    [("Proxy", proxy), ("Math", .object math), ("JSON", .object json), ("Reflect", .object reflect)]
  let constant : List (String × Value) :=
    [("undefined", .undefined), ("NaN", .number Numeral.nan),
      ("Infinity", .number Numeral.infinity)]
  let cells :=
    constant.map (fun (x, v) => { name := x, value := some v, mutable := false : Variable }) ++
      changeable.map fun (x, v) => { name := x, value := some v }
  let _ ← newScope none cells.toArray

/-- The scope of the outermost variables. -/
def outermost : Nat := 0

/-- The machine from which every script starts. -/
def initial : Machine :=
  match build.run { bounds := ⟨0, 0, 0⟩ } with
  | .ok () m => m
  | .error _ m => m

/-- The machine from which a script with some bounds starts. -/
def start (bounds : Bounds) : Machine := { initial with bounds }

end Realm
end Script
end Restyle
