import Restyle.Script.Generator.Step
import Restyle.Script.Library.Constructor
import Restyle.Script.Library.Iterator
import Restyle.Script.Library.Json
import Restyle.Script.Library.Text

/-!
# Restyle.Script.Engine

Running functions. A function of a script runs in a frame, and there are only so many of them:
`Engine.host` is defined by recursion on the number that is left. Functions of the library run
in the frame of their caller and may call back a number of times.
-/

namespace Restyle
namespace Script
namespace Engine

open Run

/-! ## Functions of scripts -/

/-- The variables that every function but an arrow has. -/
def ownVariables (ref : Nat) (c : Closure) (this : Option Value) (newTarget : Value) :
    Array Variable :=
  if c.func.traits.kind == .arrow then #[]
  else
    let base : Array Variable :=
      #[{ name := "this", value := this }, { name := "new.target", value := some newTarget }]
    match c.home with
    | some home =>
      (base.push { name := "super", value := some (.object home) }).push
        { name := "callee", value := some (.object ref) }
    | none => base

/-- Binds parameters to arguments in order, and the rest of the arguments. -/
def bindParams (h : Host) (scope : Nat) (rest : Binder) : List Binder → List Value → Run Unit
  | [], args =>
    match rest with
    | .nothing => pure ()
    | rest => do bind h scope true rest (← arrayOfList args)
  | p :: ps, args => do
    match p with
    | .name x => initVariable scope x (args.headD .undefined)
    | p => bind h scope true p (args.headD .undefined)
    bindParams h scope rest ps args.tail

/-- Binds the arguments of a call in a new scope. -/
def prepare (h : Host) (ref : Nat) (c : Closure) (this : Option Value) (args : List Value)
    (newTarget : Value) : Run Nat := do
  match c.func with
  | .mk traits params rest names body =>
    let own := ownVariables ref c this newTarget
    let own ← if traits.usesArguments then do
        pure (own.push { name := "arguments", value := some (← argumentsObject args) })
      else pure own
    let own := traits.varNames.foldl (fun out x => out.push { name := x, value := some .undefined }) own
    let own := names.foldl (fun out (n : LexicalName) =>
      if n.kind == .function && traits.varNames.contains n.name then out
      else out.push { name := n.name, value := none, mutable := n.kind != .constant }) own
    let scope ← newScope (some c.scope) own
    bindParams h scope rest params args
    hoistFunctions scope body
    return scope

def bodyOf : Func → List Stmt
  | .mk _ _ _ _ body => body

/-- Runs the body of a function: how it ends, and its scope. -/
def enter (h : Host) (ref : Nat) (c : Closure) (this : Option Value) (args : List Value)
    (newTarget : Value) : Run (Flow × Nat) := do
  let scope ← prepare h ref c this args newTarget
  return (← stmts h scope (bodyOf c.func), scope)

def resultOf : Flow → Value
  | .returned v => v
  | _ => .undefined

/-- Runs a function that waits: it never comes back from its first wait, and what it throws is
not seen. -/
def detached (run : Run Value) : Run Value := fun m =>
  match run m with
  | .error (.thrown _) m | .error .parked m | .ok _ m => Library.newPromise m
  | .error e m => .error e m

/-- The parent of what a generator function makes. -/
def generatorParent (h : Host) (ref : Nat) (isAsync : Bool) : Run Nat := do
  match ← getName h (.object ref) "prototype" with
  | .object p => return p
  | _ => return if isAsync then Ref.asyncGeneratorProto else Ref.generatorProto

/-- Calls a function of a script in a new frame. -/
def callClosure (h : Host) (ref : Nat) (c : Closure) (this : Value) (args : List Value) :
    Run Value := do
  let t := c.func.traits
  match t.kind with
  | .baseConstructor | .derivedConstructor => typeError "class constructor cannot be invoked without 'new'"
  | _ =>
    if t.isGenerator then
      framed args.length do
        let scope ← prepare h ref c (some this) args .undefined
        let parent ← generatorParent h ref t.isAsync
        let body := bodyOf c.func
        newObject parent
          (if t.isAsync then .asyncGenerator (some (scope, body))
           else .generator (.suspended (Generator.start scope body) 0)) #[]
    else
      let run := framed args.length do return resultOf (← enter h ref c (some this) args .undefined).1
      if t.isAsync then detached run else run

/-- Makes an object by a function of a script. -/
def constructClosure (h : Host) (ref : Nat) (c : Closure) (args : List Value) (newTarget : Value) :
    Run Value := do
  let t := c.func.traits
  let constructs := match t.kind with
    | .plain => !t.isAsync && !t.isGenerator
    | .baseConstructor | .derivedConstructor => true
    | _ => false
  if !constructs then typeError "value is not a constructor"
  framed args.length do
    if t.kind == .derivedConstructor then
      let (flow, scope) ← enter h ref c none args newTarget
      match flow with
      | .returned (.object r) => return .object r
      | .returned .undefined | .next => thisValue scope
      | _ => typeError "derived constructor can only return an object or undefined"
    else
      let this ← Library.make h newTarget Ref.objectProto .ordinary
      initFields h (.object ref) this
      match (← enter h ref c (some this) args newTarget).1 with
      | .returned (.object r) => return .object r
      | _ => return this

/-- Begins a generator that waits, if it has not begun: it stands still at its first `yield` and
never comes back. -/
def beginAsync (h : Host) (ref : Nat) : Run Value := do
  match (← obj ref).kind with
  | .asyncGenerator (some (scope, body)) => do
    setKind ref (.asyncGenerator none)
    detached (framed 0 do return resultOf (← stmts h scope body))
  | _ => Library.newPromise

/-- Sends a generator on its way in a frame of its own. -/
def resumeIn (h : Host) (ref : Nat) (signal : Signal) : Run Value := do
  match (← obj ref).kind with
  | .asyncGenerator _ => beginAsync h ref
  | _ => framed 0 (Generator.resume h ref signal)

/-! ## Functions of the library -/

/-- What the functions of a family do. -/
def libraryBody (component : Library.Body) : Family → Library.Body
  | .object => Library.object
  | .objectMethod => Library.objectMethod
  | .functionMethod => Library.functionMethod
  | .array => Library.array
  | .arrayMethod => Library.arrayMethod
  | .string => Library.string
  | .stringMethod => Library.stringMethod
  | .number => Library.number
  | .numberMethod => Library.numberMethod
  | .booleanMethod => Library.booleanMethod
  | .symbol => Library.symbol
  | .symbolMethod => Library.symbolMethod
  | .bigint => Library.bigint
  | .bigintMethod => Library.bigintMethod
  | .math => Library.math
  | .json => Library.json
  | .errorMethod => Library.errorMethod
  | .regexMethod => Library.regexMethod
  | .map => Library.map
  | .mapMethod => Library.mapMethod
  | .setMethod => Library.setMethod
  | .weakMapMethod => Library.weakMapMethod
  | .weakSetMethod => Library.weakSetMethod
  | .weakRefMethod => Library.weakRefMethod
  | .iteratorMethod => Library.iteratorMethod
  | .generatorMethod => Library.generatorMethod
  | .asyncGeneratorMethod => Library.asyncGeneratorMethod
  | .promise => Library.promise
  | .promiseMethod => Library.promiseMethod
  | .date => Library.date
  | .dateMethod => Library.dateMethod
  | .reflect => Library.reflect
  | .global => Library.global
  | .constructor => fun h name _ args => Library.construct h name args .undefined
  | .component => component

/-! ## All functions -/

/-- How deeply functions of the library may call each other. -/
def libraryDepth : Nat := 400

/-- Calls any function; `inner` is the host of a new frame, `same` that of the running one. -/
def callAny (component : Library.Body) (inner same : Host) (f this : Value) (args : List Value) :
    Run Value := do
  match f with
  | .object ref =>
    match (← obj ref).kind with
    | .closure c => callClosure inner ref c this args
    | .native n =>
      if n.family == .component then framed args.length (component inner n.name this args)
      else libraryBody component n.family same n.name this args
    | .bound target this' args' => same.call target this' (args' ++ args)
    | .proxy _ true _ => do
      let (target, handler, trap) ← trap? same ref "apply"
      match trap with
      | none => same.call (.object target) this args
      | some trap => do
        same.call trap (.object handler) [.object target, this, ← arrayOfList args]
    | _ => typeError "not a callable function"
  | _ => typeError "not a callable function"

/-- Makes an object by any function. -/
def constructAny (component : Library.Body) (inner same : Host) (f : Value) (args : List Value)
    (newTarget : Value) : Run Value := do
  match f with
  | .object ref =>
    match (← obj ref).kind with
    | .closure c => constructClosure inner ref c args newTarget
    | .native n =>
      match n.family with
      | .constructor => Library.construct same n.name args newTarget
      | .component => framed args.length do
        let this ← Library.make inner newTarget Ref.objectProto .ordinary
        let r ← component inner n.name this args
        return if r.isObject then r else this
      | _ => typeError "value is not a constructor"
    | .bound target _ args' =>
      same.construct target (args' ++ args) (if newTarget.same f then target else newTarget)
    | .proxy _ _ true => do
      let (target, handler, trap) ← trap? same ref "construct"
      match trap with
      | none => same.construct (.object target) args newTarget
      | some trap => do
        let r ← same.call trap (.object handler) [.object target, ← arrayOfList args, newTarget]
        if r.isObject then return r else typeError "proxy must construct an object"
    | _ => typeError "value is not a constructor"
  | _ => typeError "value is not a constructor"

/-- The host that runs nothing any more. -/
def exhausted : Host :=
  { room := 0
    call := fun _ _ _ => throw .limit
    construct := fun _ _ _ => throw .limit
    resume := fun _ _ => throw .limit }

/-- The host of a frame, for functions of the library that call each other down to a depth. -/
def level (component : Library.Body) (inner : Host) : Nat → Host
  | 0 => exhausted
  | n + 1 =>
    { room := inner.room + 1
      call := fun f this args m => callAny component inner (level component inner n) f this args m
      construct := fun f args newTarget m =>
        constructAny component inner (level component inner n) f args newTarget m
      resume := fun ref signal m => resumeIn inner ref signal m }

/-- The host when a number of frames is left. -/
def host (component : Library.Body) : Nat → Host
  | 0 => exhausted
  | k + 1 =>
    { room := k + 1
      call := fun f this args m =>
        (level component (host component k) libraryDepth).call f this args m
      construct := fun f args newTarget m =>
        (level component (host component k) libraryDepth).construct f args newTarget m
      resume := fun ref signal m =>
        (level component (host component k) libraryDepth).resume ref signal m }

end Engine
end Script
end Restyle
