import Restyle.Script.Frame

/-!
# Restyle.Script.Machine

The machine that holds objects and variables, and runs on it.

A run returns the machine in every outcome. It stops early with a thrown value, which a script
can catch, or for a reason that it cannot: a limit was exceeded, or it waits for something that
never comes.
-/

namespace Restyle
namespace Script

/-- Families of functions that the library provides. -/
inductive Family where
  | object | objectMethod | functionMethod | array | arrayMethod | string | stringMethod
  | number | numberMethod | booleanMethod | symbol | symbolMethod | bigint | bigintMethod
  | math | json | errorMethod | regexMethod | map | mapMethod | setMethod | weakMapMethod
  | weakSetMethod | weakRefMethod | iteratorMethod | generatorMethod | asyncGeneratorMethod
  | promise | promiseMethod | date | dateMethod | reflect | global
  /-- Constructors, by the name of what they make. -/
  | constructor
  /-- Functions for components. -/
  | component
  deriving Repr, BEq, DecidableEq

/-- A function that the library provides. -/
structure Native where
  family : Family
  name : String
  deriving Repr, BEq, DecidableEq

/-- A field of a class, to be put into each new object. -/
structure FieldPlan where
  key : Key
  value : Option Value
  /-- Is the value a function that takes its name from the key? -/
  isAnonymous : Bool := false

/-- A function of a script with what it has captured. -/
structure Closure where
  func : Func
  scope : Nat
  /-- The object whose parent `super` refers to. -/
  home : Option Nat := none
  /-- Methods that each new object of a class gets, and no one else can reach. -/
  hiddenMethods : List (Key × Slot) := []
  fields : List FieldPlan := []

/-- What an object is besides its properties. -/
inductive Kind where
  | ordinary
  /-- Items that are plain properties. Those beyond the given ones, up to the length, and those
  that are not plain are kept among the properties. -/
  | array (items : Array (Option Value)) (length : Nat)
  | closure (c : Closure)
  | native (f : Native)
  | bound (target this : Value) (args : List Value)
  | error (kind : ErrorKind)
  | regex (body flags : String)
  /-- A primitive value as an object. -/
  | wrapper (v : Value)
  | map (entries : Array (Option (Value × Value)))
  | set (items : Array (Option Value))
  | weakMap (entries : List (Value × Value))
  | weakSet (items : List Value)
  | weakRef (target : Value)
  /-- Goes through a list as it will be then; nothing is left without a subject. -/
  | listIterator (subject : Option Value) (next : Nat) (listing : Listing)
  /-- Goes through the entries of a map, or of a set, as they will be then. -/
  | entryIterator (isMap : Bool) (subject : Option Nat) (next : Nat) (listing : Listing)
  | characterIterator (units : List UInt16)
  /-- Goes through the matches of an expression in a text, unless it has come to the end. -/
  | matchIterator (regex : Value) (text : Utf16) (isGlobal isUnicode isDone : Bool)
  | generator (progress : Progress)
  /-- A generator that waits: its scope and its body, as long as it has not begun. -/
  | asyncGenerator (start : Option (Nat × List Stmt))
  | promise
  | date (time : Float)
  | arguments
  /-- An object that hands all that is done with it to a handler; nothing is left of one that
  was revoked. -/
  | proxy (parts : Option (Nat × Nat)) (isCallable isConstructor : Bool)

structure Obj where
  parent : Option Nat
  kind : Kind := .ordinary
  props : Array (Key × Slot) := #[]
  extensible : Bool := true
  /-- Does an array keep its length? -/
  lengthFixed : Bool := false

instance : Inhabited Obj := ⟨{ parent := none }⟩

/-- A variable: its value once it has one. -/
structure Variable where
  name : String
  value : Option Value
  mutable : Bool := true
  deriving Inhabited

/-- Variables of a block or function, and the scope around it. -/
structure Scope where
  parent : Option Nat
  cells : Array Variable := #[]
  deriving Inhabited

/-- Bounds on what a script may do. -/
structure Bounds where
  frames : Nat
  stack : Nat
  iterations : Nat
  deriving Repr, BEq, DecidableEq

structure Machine where
  heap : Array Obj := #[]
  scopes : Array Scope := #[]
  /-- Descriptions of symbols. -/
  symbols : Array Value := #[]
  /-- Symbols that can be found by their description. -/
  registry : List (Utf16 × Nat) := []
  bounds : Bounds
  /-- Rounds that the loops of the running function have made. -/
  rounds : Nat := 0
  stack : Nat := 0
  /-- Templates that were handed to a function, by their site. -/
  templates : List (Nat × Nat) := []
  /-- Lists whose items are being joined. -/
  joining : List Nat := []
  /-- Number of identifiers given out. -/
  identifiers : Nat := 0

/-- Why a run stops early. -/
inductive Stop where
  | thrown (v : Value)
  /-- A limit was exceeded. -/
  | limit
  /-- The run waits for something that never comes. -/
  | parked
  /-- An optional link of a chain met nothing. -/
  | absent

abbrev Run := EStateM Stop Machine

/-- The ways to run a function, from inside one that is running. -/
structure Host where
  /-- Number of frames that are left for functions. -/
  room : Nat
  /-- Calls a function on an object with arguments. -/
  call : Value → Value → List Value → Run Value
  /-- Makes an object: constructor, arguments, and the function that `new` was applied to. -/
  construct : Value → List Value → Value → Run Value
  /-- Sends a generator on its way: what it yields, or what it returns at its end. -/
  resume : Nat → Signal → Run Value

/-! ## Objects that exist from the start -/

namespace Ref

def objectProto : Nat := 0
def functionProto : Nat := 1
def arrayProto : Nat := 2
def stringProto : Nat := 3
def numberProto : Nat := 4
def booleanProto : Nat := 5
def symbolProto : Nat := 6
def bigintProto : Nat := 7
def regexProto : Nat := 8
def mapProto : Nat := 9
def setProto : Nat := 10
def iteratorProto : Nat := 11
def promiseProto : Nat := 12
def dateProto : Nat := 13
def generatorProto : Nat := 14
def componentProto : Nat := 15
/-- Marks of elements: elements themselves, fragments, and wrappers of types. -/
def elementMark : Nat := 16
def fragmentMark : Nat := 17
def providerMark : Nat := 18
def consumerMark : Nat := 19
def memoMark : Nat := 20
def forwardMark : Nat := 21
def idle : Nat := 22
def errorProto (kind : ErrorKind) : Nat := 23 + ErrorKind.all.idxOf kind
def weakMapProto : Nat := 31
def weakSetProto : Nat := 32
def weakRefProto : Nat := 33
def arrayIteratorProto : Nat := 34
def mapIteratorProto : Nat := 35
def setIteratorProto : Nat := 36
def stringIteratorProto : Nat := 37
def matchIteratorProto : Nat := 38
/-- Parents of functions that are not plain, and of what they make. -/
def generatorFunctionProto : Nat := 39
def asyncFunctionProto : Nat := 40
def asyncGeneratorFunctionProto : Nat := 41
def asyncIteratorProto : Nat := 42
def asyncGeneratorProto : Nat := 43
/-- A function that throws whenever it is called. -/
def thrower : Nat := 44

/-- Number of the objects above. -/
def count : Nat := 45

end Ref

/-! ## Symbols that exist from the start -/

namespace Symbols

def iterator : Nat := 0
def hasInstance : Nat := 1
def toPrimitive : Nat := 2
def toStringTag : Nat := 3
def asyncIterator : Nat := 4
def isConcatSpreadable : Nat := 5
def match' : Nat := 6
def matchAll : Nat := 7
def replace : Nat := 8
def search : Nat := 9
def species : Nat := 10
def split : Nat := 11
def unscopables : Nat := 12

def names : List String :=
  ["iterator", "hasInstance", "toPrimitive", "toStringTag", "asyncIterator",
    "isConcatSpreadable", "match", "matchAll", "replace", "search", "species", "split",
    "unscopables"]

end Symbols

/-! ## Steps on the machine -/

namespace Run

/-- Makes an object. -/
def alloc (o : Obj) : Run Nat := fun m =>
  let ref := m.heap.size
  .ok ref { m with heap := m.heap.push o }

def obj (ref : Nat) : Run Obj := fun m => .ok (m.heap.getD ref default) m

def modifyObj (ref : Nat) (f : Obj → Obj) : Run Unit := fun m =>
  .ok () { m with heap := m.heap.modify ref f }

/-- Sets what an object is. -/
def setKind (ref : Nat) (kind : Kind) : Run Unit := modifyObj ref fun o => { o with kind }

def newObject (parent : Nat) (kind : Kind) (props : Array (Key × Slot)) : Run Value := do
  return .object (← alloc { parent := some parent, kind, props })

def plainObject (props : List (Key × Value)) : Run Value :=
  newObject Ref.objectProto .ordinary (props.map fun (k, v) => (k, Slot.plain v)).toArray

/-- An array with holes where there is no item. -/
def newArray (items : Array (Option Value)) : Run Value :=
  newObject Ref.arrayProto (.array items items.size) #[]

def arrayOf (items : Array Value) : Run Value := newArray (items.map some)

def arrayOfList (items : List Value) : Run Value := arrayOf items.toArray

/-- Throws a new error. -/
def raise {α : Type} (kind : ErrorKind) (message : String) : Run α := do
  let e ← newObject (Ref.errorProto kind) (.error kind) #[("message", .quiet (.text message))]
  throw (.thrown e)

def typeError {α : Type} (message : String) : Run α := raise .type message

def rangeError {α : Type} (message : String) : Run α := raise .range message

/-- Runs on, and then, whether it ended or threw, runs a last step. A run that cannot be caught
skips the last step. -/
def andFinally {α : Type} (run : Run α) (last : Run Unit) : Run α := fun m =>
  match run m with
  | .ok a m =>
    match last m with
    | .ok () m => .ok a m
    | .error e m => .error e m
  | .error (.thrown v) m =>
    match last m with
    | .ok () m => .error (.thrown v) m
    | .error e m => .error e m
  | .error e m => .error e m

/-- Runs, and hands a thrown value to a handler. -/
def orCatch {α : Type} (run : Run α) (handler : Value → Run α) : Run α := fun m =>
  match run m with
  | .error (.thrown v) m => handler v m
  | r => r

/-! ## Variables -/

def newScope (parent : Option Nat) (cells : Array Variable) : Run Nat := fun m =>
  let id := m.scopes.size
  .ok id { m with scopes := m.scopes.push { parent, cells } }

/-- Drops a scope that nothing has captured, if it is the latest. -/
def dropScope (id : Nat) : Run Unit := fun m =>
  if id + 1 == m.scopes.size then .ok () { m with scopes := m.scopes.pop } else .ok () m

/-- Where a variable is: its scope and its place there. Scopes end after as many steps as there
are. -/
def findVariable (x : String) (scopes : Array Scope) : Nat → Nat → Option (Nat × Nat)
  | 0, _ => none
  | fuel + 1, id =>
    match scopes[id]? with
    | none => none
    | some s =>
      match s.cells.findIdx? (·.name == x) with
      | some i => some (id, i)
      | none =>
        match s.parent with
        | some p => findVariable x scopes fuel p
        | none => none

def lookup? (scope : Nat) (x : String) : Run (Option Variable) := fun m =>
  match findVariable x m.scopes (scope + 1) scope with
  | some (id, i) => .ok ((m.scopes[id]?).bind (·.cells[i]?)) m
  | none => .ok none m

/-- The value of a variable. -/
def readVariable (scope : Nat) (x : String) : Run Value := do
  match ← lookup? scope x with
  | some { value := some v, .. } => return v
  | some { value := none, .. } => raise .reference ("access of uninitialized binding")
  | none => raise .reference (x ++ " is not defined")

def storeVariable (id i : Nat) (v : Value) : Run Unit := fun m =>
  .ok () { m with
    scopes := m.scopes.modify id fun s =>
      { s with cells := s.cells.modify i fun x => { x with value := some v } } }

/-- Assigns to a variable. -/
def assignVariable (scope : Nat) (x : String) (v : Value) : Run Unit := do
  let m ← get
  match findVariable x m.scopes (scope + 1) scope with
  | none => raise .reference ("cannot assign to undeclared " ++ x)
  | some (id, i) =>
    match (m.scopes[id]?).bind (·.cells[i]?) with
    | some { value := some _, mutable := true, .. } => storeVariable id i v
    | some { value := some _, mutable := false, .. } =>
      typeError ("cannot reassign an immutable binding")
    | _ => raise .reference ("cannot assign to uninitialized binding")

/-- Gives a variable of a scope its first value. -/
def initVariable (scope : Nat) (x : String) (v : Value) : Run Unit := fun m =>
  match findVariable x m.scopes (scope + 1) scope with
  | some (id, i) => storeVariable id i v m
  | none => .ok () m

/-! ## Limits -/

/-- Counts one round of a loop. -/
def countRound : Run Unit := fun m =>
  if m.rounds > m.bounds.iterations then .error .limit m
  else .ok () { m with rounds := m.rounds + 1 }

/-- Number of slots of the stack that a call takes besides its arguments. -/
def frameSize : Nat := 10

/-- Runs the body of a function in a frame of its own. -/
def framed {α : Type} (args : Nat) (run : Run α) : Run α := fun m =>
  if m.bounds.stack ≤ m.stack + args + 2 then .error .limit m
  else
    let rounds := m.rounds
    let stack := m.stack
    match run { m with rounds := 0, stack := stack + args + frameSize } with
    | .ok a m => .ok a { m with rounds, stack }
    | .error e m => .error e { m with rounds, stack }

end Run
end Script
end Restyle
