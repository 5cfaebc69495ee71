import Restyle.Script.Realm

/-!
# Restyle.Component.Toolkit

The functions that components are given: making elements, contexts and wrapped types, going
through children, the parent class of components, and hooks. A component is rendered once, so
hooks give first values, and setters and effects do nothing.

* `Toolkit.body` — what each function does.
* `Toolkit.make` — the objects that hold them.
-/

namespace Restyle
namespace Component
namespace Toolkit

open Script Script.Run Script.Library

/-- Gives up unless a number of frames is left. -/
def need (h : Script.Host) (wanted : Nat) : Run Unit :=
  if h.room < wanted then throw .limit else pure ()

/-- A function of this toolkit that scripts do not see. -/
def helper (name : String) : Run Value :=
  newObject Ref.functionProto (.native ⟨.component, name⟩) #[]

/-- Goes through the keys of a loop over an object. -/
def eachKey (f : Key → Run Unit) : List Key → Run Unit
  | [] => countRound
  | k :: rest => do
    countRound
    f k
    eachKey f rest

/-- Does nothing for each of the items but count a round of a loop after it. -/
def countItems : List Value → Run Unit
  | [] => pure ()
  | _ :: rest => do
    countRound
    countItems rest

def isMarked (h : Script.Host) (v : Value) (mark : Nat) : Run Bool := do
  match v with
  | .object _ =>
    if ← isCallable v then return false
    return (← getName h v "$$typeof").same (.object mark)
  | _ => return false

/-! ## Elements -/

/-- Copies a property of an element's configuration. -/
def copyConfig (h : Script.Host) (config : Value) (props : Value) (k : Key) : Run (Option Value) := do
  need h 2
  let owned ← match config with
    | .object ref => hasOwn h ref k
    | _ => pure true
  if !owned then return none
  if k == .name "key" then
    match ← getProp h config k with
    | .undefined => return some .null
    | v =>
      need h 1
      return some (← Library.construct h "String" [v] .undefined)
  setProp h props k (← getProp h config k)
  return none

/-- Copies the configuration; gives the key of the element. -/
def copyConfigs (h : Script.Host) (config props key : Value) : List Key → Run Value
  | [] => do
    countRound
    return key
  | k :: rest => do
    countRound
    let key' ← copyConfig h config props k
    copyConfigs h config props (key'.getD key) rest

def createElement (h : Script.Host) (args : List Value) : Run Value := do
  let type := arg args 0
  let config := arg args 1
  let props ← plainObject []
  let key ← if config.isNullish then pure .null
    else copyConfigs h config props .null (← keysAlong h config)
  match args.drop 2 with
  | [] => pure ()
  | [child] => setProp h props "children" child
  | children =>
    need h 1
    setProp h props "children" (← arrayOfList children)
  if type.truthy then
    let defaults ← getName h type "defaultProps"
    if defaults.truthy then
      eachKey (fun k => do
        if (← getProp h props k).same .undefined then
          setProp h props k (← getProp h (← getName h type "defaultProps") k))
        (← keysAlong h defaults)
  plainObject [("$$typeof", .object Ref.elementMark), ("type", type), ("key", key), ("props", props)]

def cloneElement (h : Script.Host) (args : List Value) : Run Value := do
  let element := arg args 0
  let config := arg args 1
  let merged ← plainObject []
  let props ← getName h element "props"
  eachKey (fun k => do setProp h merged k (← getProp h props k)) (← keysAlong h props)
  if config.truthy then
    eachKey (fun k => do setProp h merged k (← getProp h config k)) (← keysAlong h config)
  let type ← getName h element "type"
  countItems (args.drop 2)
  need h 1
  h.call (← helper "createElement") .undefined (type :: merged :: args.drop 2)

/-! ## Children -/

mutual

/-- The children in a value: those of lists in place of the lists, and nothing for what is not
shown. The number is that of the frames that are left. -/
def flatten (h : Script.Host) : Nat → Value → Run (List Value)
  | 0, _ => throw .limit
  | left + 1, v => framed 2 do
    if left == 0 then throw .limit
    if ← isArray v then flattenItems h left (← listItems h v)
    else
      match v with
      | .undefined | .null | .boolean _ => return []
      | v => return [v]

def flattenItems (h : Script.Host) (left : Nat) : List Value → Run (List Value)
  | [] => return []
  | v :: rest => do
    let out ← flatten h left v
    countRound
    return out ++ (← flattenItems h left rest)

end

def children (h : Script.Host) (v : Value) : Run (List Value) := flatten h h.room v

/-- Calls a function on each child with its position. -/
def eachChild (h : Script.Host) (f : Value) : Nat → List Value → Run (List Value)
  | _, [] => return []
  | i, v :: rest => do
    let r ← h.call (← helper "relay") f [v, .nat i]
    return r :: (← eachChild h f (i + 1) rest)

/-! ## Contexts and wrapped types -/

def createContext (default : Value) : Run Value := do
  let context ← plainObject [("currentValue", default)]
  match context with
  | .object ref =>
    add ref "Provider" (← plainObject [("$$typeof", .object Ref.providerMark), ("context", context)])
    add ref "Consumer" (← plainObject [("$$typeof", .object Ref.consumerMark), ("context", context)])
  | _ => pure ()
  return context

/-! ## Components -/

/-- Gives a new component its properties and context. -/
def initComponent (h : Script.Host) (this : Value) (args : List Value) : Run Value := do
  setProp h this "props" (arg args 0)
  setProp h this "context" (arg args 1)
  setProp h this "state" .null
  return .undefined

/-- A first value, and a setter that does nothing. -/
def withSetter (v : Value) : Run Value := arrayOfList [v, .object Ref.idle]

/-- A fresh identifier. -/
def nextIdentifier (h : Script.Host) : Run Value := do
  modify fun m => { m with identifiers := m.identifiers + 1 }
  need h 1
  return .text (":r" ++ Numeral.radix (Numeral.ofNat (← get).identifiers) 36 ++ ":")

/-! ## All functions -/

def onlyChild : String :=
  "React.Children.only expected to receive a single React element child."

/-- What a function does, by its name. -/
def body : Library.Body := fun h name this args => do
  let a := arg args 0
  let b := arg args 1
  match name with
  | "createElement" => createElement h args
  | "cloneElement" => cloneElement h args
  | "isValidElement" => return .boolean (← isMarked h a Ref.elementMark)
  | "createContext" => createContext a
  | "toArray" => arrayOfList (← children h a)
  | "count" => return .nat (← children h a).length
  | "map" =>
    let vs ← children h a
    need h 1
    arrayOfList (← eachChild h b 0 vs)
  | "forEach" =>
    let vs ← children h a
    need h 1
    let _ ← eachChild h b 0 vs
    return .undefined
  | "only" =>
    match ← children h a with
    | [v] => return v
    | _ =>
      need h 1
      raise .plain onlyChild
  | "relay" => callValue h this .undefined args
  | "Component" => initComponent h this args
  | "PureComponent" =>
    need h 1
    h.call (← helper "Component") this [a, b]
  | "memo" => plainObject [("$$typeof", .object Ref.memoMark), ("type", a)]
  | "forwardRef" => plainObject [("$$typeof", .object Ref.forwardMark), ("render", a)]
  | "useState" =>
    if ← isCallable a then withSetter (← h.call a .undefined []) else withSetter a
  | "useReducer" =>
    let init := arg args 2
    if ← isCallable init then withSetter (← h.call init .undefined [b]) else withSetter b
  | "useRef" => plainObject [("current", if a.same .undefined then .null else a)]
  | "useMemo" => callValue h a .undefined []
  | "useCallback" => return a
  | "useContext" => getName h a "currentValue"
  | "useId" => nextIdentifier h
  | _ => return .undefined

/-! ## Objects -/

/-- Functions and their numbers of parameters. -/
def functions : List (String × Nat) :=
  [("createElement", 2), ("cloneElement", 2), ("isValidElement", 1), ("createContext", 1)]

def childFunctions : List (String × Nat) :=
  [("toArray", 1), ("count", 1), ("map", 2), ("forEach", 2), ("only", 1)]

def wrappers : List (String × Nat) := [("memo", 1), ("forwardRef", 1)]

/-- Hooks; those without a number do nothing. -/
def hooks : List (String × Option Nat) :=
  [("useState", some 1), ("useEffect", none), ("useLayoutEffect", none),
    ("useInsertionEffect", none), ("useRef", some 1), ("useMemo", some 1), ("useCallback", some 1),
    ("useContext", some 1), ("useReducer", some 3), ("useId", some 0),
    ("useImperativeHandle", none), ("useDebugValue", none)]

/-- Hooks that components are given by name. -/
def namedHooks : List String :=
  ["useState", "useEffect", "useRef", "useMemo", "useCallback", "useContext", "useReducer"]

def marks : List (Nat × String) :=
  [(Ref.elementMark, "element"), (Ref.fragmentMark, "fragment"), (Ref.providerMark, "provider"),
    (Ref.consumerMark, "consumer"), (Ref.memoMark, "memo"), (Ref.forwardMark, "forward_ref")]

/-- Stores functions under their names, listed. -/
def addFunctions (ref : Nat) : List (String × Nat) → Run Unit
  | [] => pure ()
  | (name, arity) :: rest => do
    add ref (.name (.whole name)) (← Library.native .component name name arity)
    addFunctions ref rest

def addHooks (ref : Nat) : List (String × Option Nat) → Run Unit
  | [] => pure ()
  | (name, some arity) :: rest => do
    add ref (.name (.whole name)) (← Library.native .component name name arity)
    addHooks ref rest
  | (name, none) :: rest => do
    add ref (.name name) (.object Ref.idle)
    addHooks ref rest

/-- Stores a constructor of components with the prototype of what it makes. -/
def addConstructor (ref : Nat) (name : String) (proto : Nat) : Run Value := do
  let f ← Library.native .component name name 2
  match f with
  | .object r => put r "prototype" ⟨.data (.object proto), true, false, false⟩
  | _ => pure ()
  add ref (.name name) f
  return f

/-- Makes the object that holds all functions. -/
def makeHolder : Run Value := do
  for (ref, kind) in marks do
    add ref "kind" (.text kind)
  modifyObj Ref.idle fun o => { o with props := functionProps "noop" 0 }
  let ref ← alloc { parent := some Ref.objectProto }
  addFunctions ref functions
  let inner ← alloc { parent := some Ref.objectProto }
  addFunctions inner childFunctions
  add ref "Children" (.object inner)
  let component ← addConstructor ref "Component" Ref.componentProto
  put Ref.componentProto "constructor" (.quiet component)
  add Ref.componentProto "isReactComponent" (← plainObject [])
  add Ref.componentProto "setState" (.object Ref.idle)
  add Ref.componentProto "forceUpdate" (.object Ref.idle)
  let pureProto ← alloc { parent := some Ref.componentProto }
  let pureComponent ← addConstructor ref "PureComponent" pureProto
  add pureProto "constructor" pureComponent
  add ref "Fragment" (.object Ref.fragmentMark)
  add ref "StrictMode" (.object Ref.fragmentMark)
  addFunctions ref wrappers
  addHooks ref hooks
  return .object ref

/-- Names under which a component finds the toolkit and its hooks, and names that hide others. -/
def parameterNames : List String :=
  "React" :: namedHooks ++ ["globalThis", "window", "document", "self"]

/-- The values for these names. -/
def make (h : Script.Host) : Run (List Value) := do
  let holder ← makeHolder
  let named ← namedHooks.mapM fun x => getName h holder x
  return holder :: named ++ List.replicate 4 .undefined

end Toolkit
end Component
end Restyle
