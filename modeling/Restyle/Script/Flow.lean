import Restyle.Script.Iteration

/-!
# Restyle.Script.Flow

The loops and handlers that are put together from statements, hidden members, and what classes
and templates need.
-/

namespace Restyle
namespace Script

namespace Run

/-- A loop that tests before each round. -/
def loopWhile (labels : List String) (test : Run Bool) (body : Run Flow) : Nat → Run Flow
  | 0 => throw .limit
  | fuel + 1 => do
    countRound
    if ← test then
      match (← body).afterRound labels with
      | some flow => return flow
      | none => loopWhile labels test body fuel
    else return .next

/-- A loop that makes a round and then tests. -/
def loopUntil (labels : List String) (test : Run Bool) (body : Run Flow) : Nat → Run Flow
  | 0 => throw .limit
  | fuel + 1 => do
    match (← body).afterRound labels with
    | some flow => return flow
    | none =>
      countRound
      if ← test then loopUntil labels test body fuel else return .next

/-- Rounds of a loop with three heads; each round but the first is counted. -/
def loopRounds (labels : List String) (test : Nat → Run Bool) (next : Nat → Run Unit)
    (body : Nat → Run Flow) (renew : Nat → Run Nat) : Nat → Nat → Run Flow
  | 0, _ => throw .limit
  | fuel + 1, scope => do
    if ← test scope then
      match (← body scope).afterRound labels with
      | some flow => return flow
      | none =>
        countRound
        let scope ← renew scope
        next scope
        loopRounds labels test next body renew fuel scope
    else return .next

/-- A loop over keys. -/
def loopKeys (h : Host) (labels : List String) (body : Value → Run Flow) :
    Nat → KeyWalk → Run Flow
  | 0, _ => throw .limit
  | fuel + 1, walk => do
    countRound
    match ← walk.next? h itemBound with
    | none => return .next
    | some (k, walk) =>
      match (← body k.value).afterRound labels with
      | some flow => return flow
      | none => loopKeys h labels body fuel walk

/-- A loop over items; when it is left early, the items to come are given up. -/
def loopItems (h : Host) (labels : List String) (body : Value → Run Flow) :
    Nat → Iteration → Run Flow
  | 0, _ => throw .limit
  | fuel + 1, it => do
    countRound
    match ← it.next? h with
    | none => return .next
    | some (v, it) =>
      let flow ← it.guard h (body v)
      match flow.afterRound labels with
      | some flow =>
        it.close h
        return flow
      | none => loopItems h labels body fuel it

/-- Rounds that the limits allow any loop to make. -/
def roundBound : Run Nat := do return (← get).bounds.iterations + 3

/-- Runs a last statement after another one, however that ended; the last statement wins if it
does not end in the ordinary way. -/
def withFinal (run last : Run Flow) : Run Flow := fun m =>
  match run m with
  | .ok flow m =>
    match last m with
    | .ok .next m => .ok flow m
    | r => r
  | .error (.thrown v) m =>
    match last m with
    | .ok .next m => .error (.thrown v) m
    | r => r
  | .error e m => .error e m

/-- Ends as undefined where an optional link met nothing. -/
def chained (run : Run Value) : Run Value := fun m =>
  match run m with
  | .error .absent m => .ok .undefined m
  | r => r

/-- Like `chained`, for a function and the value on which it is called. -/
def orAbsent (run : Run (Option (Value × Value))) : Run (Option (Value × Value)) := fun m =>
  match run m with
  | .error .absent m => .ok (some (.undefined, .undefined)) m
  | r => r

/-- A new scope with the same variables. -/
def copyScope (id : Nat) : Run Nat := fun m =>
  match m.scopes[id]? with
  | some s => newScope s.parent s.cells m
  | none => .ok id m

/-- The value of a variable that every function has, or undefined. -/
def hiddenVariable (scope : Nat) (x : String) : Run Value := do
  match ← lookup? scope x with
  | some { value := some v, .. } => return v
  | _ => return .undefined

/-- The object on which the running function was called. -/
def thisValue (scope : Nat) : Run Value := do
  match ← lookup? scope "this" with
  | some { value := some v, .. } => return v
  | some { value := none, .. } =>
    raise .reference "'super' must be called before 'this' is used"
  | none => return .undefined

/-- The object that `super` refers to. -/
def superObject (h : Host) (scope : Nat) : Run Value := do
  match ← hiddenVariable scope "super" with
  | .object home =>
    match ← parent? h home with
    | some p => return .object p
    | none => return .null
  | _ => raise .form "'super' keyword unexpected here"

/-- The value of a property of the parent, as a property of an object. -/
def superProperty (h : Host) (scope : Nat) (k : Key) : Run Value := do
  let this ← thisValue scope
  match ← superObject h scope with
  | .object p => getOn h chainBound p k this
  | _ => typeError "cannot read property of 'super'"

/-- Sets a property of an object as a property of the parent. -/
def superSet (h : Host) (scope : Nat) (k : Key) (v : Value) : Run Unit := do
  let this ← thisValue scope
  match ← superObject h scope with
  | .object p => unless ← setFor h p k v this do typeError "cannot set property"
  | _ => typeError "cannot set property of 'super'"

/-! ## Hidden members -/

/-- How a hidden member is called among the variables of its class. -/
def hiddenName (x : String) : String := "#" ++ x

/-- The key of a hidden member. -/
def hiddenKey (scope : Nat) (x : String) : Run Key := do
  match ← lookup? scope (hiddenName x) with
  | some { value := some (.symbol id), .. } => return .hidden id
  | _ => raise .form "private name is not declared"

/-- The object that has a hidden member, and the member. -/
def hiddenSlot (v : Value) (k : Key) : Run (Nat × Slot) := do
  match v with
  | .object ref =>
    match (← obj ref).stored? k with
    | some s => return (ref, s)
    | none => typeError "private member is not defined on the object"
  | _ => typeError "private member is not defined on the value"

def getHidden (h : Host) (v : Value) (k : Key) : Run Value := do
  let (_, s) ← hiddenSlot v k
  match s.content with
  | .accessor .undefined _ => typeError "private accessor has no getter"
  | _ => readSlot h s v

def setHidden (h : Host) (v : Value) (k : Key) (new : Value) : Run Unit := do
  let (ref, s) ← hiddenSlot v k
  match s.content with
  | .accessor _ .undefined => typeError "private accessor has no setter"
  | .accessor _ f =>
    let _ ← h.call f v [new]
  | .data _ =>
    unless s.writable do typeError "private method cannot be changed"
    put ref k { s with content := .data new }

/-- Gives an object a hidden member that it does not have yet. -/
def addHidden (ref : Nat) (k : Key) (s : Slot) : Run Unit := do
  if ((← obj ref).stored? k).isSome then typeError "private member is defined twice"
  put ref k s

def hasHidden (v : Value) (k : Key) : Run Bool := do
  match v with
  | .object ref => return ((← obj ref).stored? k).isSome
  | _ => typeError "right-hand side of 'in' should be an object"

/-- The value of a member, hidden or not. -/
def getMember (h : Host) (v : Value) (k : Key) : Run Value :=
  if k.isHidden then getHidden h v k else getProp h v k

def setMember (h : Host) (v : Value) (k : Key) (new : Value) : Run Unit :=
  if k.isHidden then setHidden h v k new else setProp h v k new

/-! ## Classes -/

/-- Gives a function without a name the name of the property that it is the value of. -/
def nameAfter (k : Key) (isAnonymous : Bool) (v : Value) : Run Unit := do
  match isAnonymous, v with
  | true, .object ref =>
    match (← obj ref).own? "name" with
    | some { content := .data (.string _), writable := false, .. } | none => do
      let name ← keyName k
      put ref "name" (.label (.string name))
    | _ => pure ()
  | _, _ => pure ()

/-- Gives an object a field. -/
def defineField (h : Host) (ref : Nat) (p : FieldPlan) : Run Unit := do
  let v ← match p.value with
    | some f => h.call f (.object ref) []
    | none => pure .undefined
  nameAfter p.key p.isAnonymous v
  if p.key.isHidden then addHidden ref p.key (.plain v) else create h ref p.key v

/-- Gives a new object the hidden methods and the fields of its class. -/
def initFields (h : Host) (callee this : Value) : Run Unit := do
  match callee, this with
  | .object c, .object ref =>
    match (← obj c).kind with
    | .closure cl =>
      for (k, s) in cl.hiddenMethods do
        addHidden ref k s
      for p in cl.fields do
        defineField h ref p
    | _ => pure ()
  | _, _ => pure ()

/-- The constructor of the parent of the running one. -/
def superConstructor (h : Host) (scope : Nat) : Run Value := do
  match ← hiddenVariable scope "callee" with
  | .object c =>
    match ← parent? h c with
    | some p => return .object p
    | none => return .null
  | _ => raise .form "'super' keyword unexpected here"

/-- Calls the constructor of the parent, once. -/
def callSuper (h : Host) (scope : Nat) (parent : Value) (args : List Value) : Run Value := do
  let newTarget ← hiddenVariable scope "new.target"
  if !(← isConstructor parent) then typeError "super constructor is not a constructor"
  let this ← h.construct parent args newTarget
  match ← lookup? scope "this" with
  | some { value := some _, .. } => raise .reference "'super' can only be called once"
  | _ =>
    initVariable scope "this" this
    initFields h (← hiddenVariable scope "callee") this
    return this

/-- The texts of a template as the object that its function receives each time. -/
def templateObject (site : Nat) (texts : List (Option Utf16 × Utf16)) : Run Value := do
  match (← get).templates.lookup site with
  | some ref => return .object ref
  | none =>
    let raw ← arrayOfList (texts.map fun t => .string t.2)
    let cooked ← arrayOfList (texts.map fun t =>
      match t.1 with
      | some s => .string s
      | none => .undefined)
    match raw, cooked with
    | .object r, .object c =>
      modifyObj r (·.harden true)
      modifyObj c fun o => (o.store "raw" (.fixed raw)).harden true
      modify fun m => { m with templates := (site, c) :: m.templates }
    | _, _ => pure ()
    return cooked

/-- The constructor of a class that has none of its own. -/
def defaultConstructor (derived : Bool) : Func :=
  .mk { name := "constructor", kind := if derived then .derivedConstructor else .baseConstructor
        isAsync := false, isGenerator := false, ownName := false, usesArguments := false
        arity := 0, varNames := ["args"] } [] (.name "args") []
    (if derived then [.expression (.superCall [.spread (.name "args")])] else [])

/-- A step on a class itself: a field of it, or statements. -/
inductive StaticStep where
  | field (p : FieldPlan)
  | block (f : Value)

/-- What happens to the members of a class when it is made: what each of its objects gets, and
steps on the class itself. -/
structure ClassPlan where
  hiddenMethods : List (Key × Slot) := []
  fields : List FieldPlan := []
  statics : List StaticStep := []

/-- A class with what each of its objects gets. -/
def ClassPlan.applyTo (plan : ClassPlan) (o : Obj) : Obj :=
  match o.kind with
  | .closure c =>
    let c := { c with hiddenMethods := plan.hiddenMethods, fields := plan.fields.reverse }
    { o with kind := .closure c }
  | _ => o

/-- Runs the static steps of a class. -/
def runStatics (h : Host) (target : Nat) : List StaticStep → Run Unit
  | [] => pure ()
  | .field p :: rest => do
    defineField h target p
    runStatics h target rest
  | .block f :: rest => do
    let _ ← h.call f (.object target) []
    runStatics h target rest

end Run
end Script
end Restyle
