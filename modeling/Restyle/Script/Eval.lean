import Restyle.Script.Binder
import Restyle.Script.Flow
import Restyle.Script.Operator

/-!
# Restyle.Script.Eval

What expressions, targets, members and statements do. Each of them is run by recursion on its
parts; functions are run by the `Host`, which is given.
-/

namespace Restyle
namespace Script
namespace Run

/-- Whether targets are declared, and get their first value, or assigned to. -/
abbrev Declares := Bool

def bindName (scope : Nat) (declares : Declares) (x : String) (v : Value) : Run Unit :=
  if declares then initVariable scope x v else assignVariable scope x v

/-- Old and new value of a step up or down. -/
def stepped (h : Host) (up : Bool) (v : Value) : Run (Value × Value) := do
  match ← toNumeric h v with
  | .bigint n => return (.bigint n, .bigint (if up then n + 1 else n - 1))
  | .number x => return (.number x, .number (if up then x + 1.0 else x - 1.0))
  | v => return (v, v)

/-- Is the second operand of a logical operator needed? -/
def needsSecond (op : LogicalOp) (v : Value) : Bool :=
  match op with
  | .and => v.truthy
  | .or => !v.truthy
  | .coalesce => v.isNullish

/-- A property found by a value as key; quick for items of arrays. -/
def getIndexed (h : Host) (base k : Value) : Run Value := do
  match base, k with
  | .object _, .number x =>
    match asIndex? x with
    | some i => itemAt h base i
    | none => getProp h base (← toKey h k)
  | _, _ =>
    if base.isNullish then typeError "cannot convert 'null' or 'undefined' to object"
    getProp h base (← toKey h k)

/-- Calls a value that must be a function. -/
def callValue (h : Host) (f this : Value) (args : List Value) : Run Value := do
  if ← isCallable f then h.call f this args else typeError "not a callable function"

/-- The first of the flows of statements that is not ordinary decides. -/
def isNext : Flow → Bool
  | .next => true
  | _ => false

/-- Items of an array as arguments. -/
def argumentsOf (items : Array (Option Value)) : List Value :=
  items.toList.map (·.getD .undefined)

/-- The key that an expression with a value denotes. -/
def keyOf (h : Host) (scope : Nat) (e : Expr) (v : Value) : Run Key :=
  match e with
  | .hidden x => hiddenKey scope x
  | _ => toKey h v

/-- Where a value is put. -/
inductive Spot where
  | member (base : Value) (k : Key)
  | superMember (k : Key)

def putAt (h : Host) (scope : Nat) (v : Value) : Spot → Run Unit
  | .member base k => setMember h base k v
  | .superMember k => superSet h scope k v

/-- One more item for a target, undefined after the last. -/
def nextItem (h : Host) (it : Option Iteration) : Run (Value × Option Iteration) := do
  match it with
  | none => return (.undefined, none)
  | some it =>
    match ← it.next? h with
    | some (v, it) => return (v, some it)
    | none => return (.undefined, none)

/-- Does something while items may still come; if that throws, they are left. -/
def guarded {α : Type} (h : Host) (it : Option Iteration) (run : Run α) : Run α :=
  match it with
  | some it => it.guard h run
  | none => run

/-- The name of a method: getters and setters say what they are. -/
def methodName (kind : MethodKind) (k : Key) : Run Utf16 := do
  let name ← keyName k
  return match kind with
    | .ordinary => name
    | .getter => "get " ++ name
    | .setter => "set " ++ name

/-- The scope of a class: its own name, and symbols for its hidden members. -/
def classScope (scope : Nat) (name : Option String) (ms : List Member) : Run Nat := do
  let hidden ← (Member.hiddenNames ms).eraseDups.mapM fun x => do
    let id ← newSymbol (.text (hiddenName x))
    return ({ name := hiddenName x, value := some (.symbol id), mutable := false } : Variable)
  let own : List Variable := match name with
    | some x => [{ name := x, value := none, mutable := false }]
    | none => []
  newScope scope (own ++ hidden).toArray

/-- The parent of the prototype of a class, and that of the class. -/
def classParents (h : Host) (derived : Bool) (base : Value) : Run (Option Nat × Nat) := do
  if !derived then return (some Ref.objectProto, Ref.functionProto)
  match base with
  | .null => return (none, Ref.functionProto)
  | .object b =>
    if !(← isConstructor base) then typeError "superclass must be a constructor"
    match ← getName h base "prototype" with
    | .object p => return (some p, b)
    | .null => return (none, b)
    | _ => typeError "superclass prototype must be an object or null"
  | _ => typeError "superclass must be a constructor"

/-- Puts a method of a class in its place: a hidden one into the class or into the plan. -/
def placeMethod (target : Nat) (isStatic : Bool) (k : Key) (kind : MethodKind) (f : Value)
    (plan : ClassPlan) : Run ClassPlan := do
  if !k.isHidden then
    match kind with
    | .ordinary => modifyObj target (·.define k (.quiet f))
    | .getter => defineAccessor target k true false f
    | .setter => defineAccessor target k false false f
    return plan
  let slot (old : Option Slot) : Slot := match kind with
    | .ordinary => ⟨.data f, false, false, true⟩
    | .getter => accessorBeside old true false f
    | .setter => accessorBeside old false false f
  if isStatic then
    let old := (← obj target).stored? k
    put target k (slot old)
    return plan
  let others := plan.hiddenMethods.filter (·.1 != k)
  return { plan with hiddenMethods := others ++ [(k, slot (plan.hiddenMethods.lookup k))] }

mutual

/-- The value of an expression. -/
def expr (h : Host) (scope : Nat) : Expr → Run Value
  | .hole => pure .undefined
  | .known v => pure v
  | .number x => pure (.number x)
  | .bigint n => pure (.bigint n)
  | .string s => pure (.string s)
  | .boolean b => pure (.boolean b)
  | .null => pure .null
  | .regex body flags => newObject Ref.regexProto (.regex body flags) #[("lastIndex", ⟨.data (.number 0.0), true, false, false⟩)]
  | .template first values texts => templateText h scope values texts first
  | .tagged site tag texts values => do
    let (this, f) ← match ← callee? h scope tag with
      | some found => pure found
      | none => do pure (.undefined, ← expr h scope tag)
    let texts ← templateObject site texts
    let args ← items h scope values #[]
    callValue h f this (texts :: argumentsOf args)
  | .name x => readVariable scope x
  | .hidden _ => pure .undefined
  | .this => thisValue scope
  | .newTarget => hiddenVariable scope "new.target"
  | .array es => do
    newArray (← items h scope es #[])
  | .spread e => expr h scope e
  | .object ms => do
    let ref ← alloc { parent := some Ref.objectProto }
    members h scope ref ms
    return .object ref
  | .function f =>
    if f.traits.ownName then do
      let inner ← newScope scope #[{ name := f.traits.name, value := none, mutable := false }]
      let v ← makeFunction f inner none
      initVariable inner f.traits.name v
      return v
    else makeFunction f scope none
  | .classOf name parent make ms => do
    let inner ← classScope scope name ms
    let derived := match parent with
      | .hole => false
      | _ => true
    let (protoParent, classParent) ← classParents h derived (← expr h inner parent)
    let proto ← alloc { parent := protoParent }
    let f := match make with
      | .function f => f
      | _ => defaultConstructor derived
    let ref ← alloc {
      parent := some classParent
      kind := .closure { func := f.rename (name.getD ""), scope := inner, home := some proto }
      props := (functionProps (name.getD "") f.traits.arity).push
        ("prototype", .fixed (.object proto)) }
    put proto "constructor" (.quiet (.object ref))
    let plan ← classMembers h inner ref proto ms {}
    modifyObj ref plan.applyTo
    match name with
    | some x => initVariable inner x (.object ref)
    | none => pure ()
    runStatics h ref plan.statics.reverse
    return .object ref
  | .unary op e => do unary h op (← expr h scope e)
  | .typeOf e =>
    match e with
    | .name x => do
      match ← lookup? scope x with
      | some _ => return .text (← typeWord (← readVariable scope x))
      | none => return .text "undefined"
    | e => do return .text (← typeWord (← expr h scope e))
  | .delete e =>
    match e with
    | .member _ b k => do
      let base ← expr h scope b
      return .boolean (← delete h base (← toKey h (← expr h scope k)))
    | .chain (.member optional b k) => chained do
      let base ← expr h scope b
      if optional && base.isNullish then throw .absent
      return .boolean (← delete h base (← toKey h (← expr h scope k)))
    | .superMember _ => do
      let _ ← thisValue scope
      raise .reference "cannot delete a property of 'super'"
    | e => do
      let _ ← expr h scope e
      return .boolean true
  | .step up before e =>
    match e with
    | .name x => do
      let (old, new) ← stepped h up (← readVariable scope x)
      assignVariable scope x new
      return if before then new else old
    | .member _ b k => do
      let base ← expr h scope b
      let k ← keyOf h scope k (← expr h scope k)
      let (old, new) ← stepped h up (← getMember h base k)
      setMember h base k new
      return if before then new else old
    | .superMember k => do
      let k ← toKey h (← expr h scope k)
      let (old, new) ← stepped h up (← superProperty h scope k)
      superSet h scope k new
      return if before then new else old
    | _ => pure .undefined
  | .binary op a b =>
    match op, a with
    | .within, .hidden x => do
      let v ← expr h scope b
      return .boolean (← hasHidden v (← hiddenKey scope x))
    | _, _ => do
      let x ← expr h scope a
      binary h op x (← expr h scope b)
  | .logical op a b => do
    let v ← expr h scope a
    if needsSecond op v then expr h scope b else return v
  | .conditional c a b => do
    if (← expr h scope c).truthy then expr h scope a else expr h scope b
  | .assign target value =>
    match target with
    | .name x => do
      let v ← expr h scope value
      assignVariable scope x v
      return v
    | .place (.member _ b k) => do
      let base ← expr h scope b
      let key ← expr h scope k
      let v ← expr h scope value
      setMember h base (← keyOf h scope k key) v
      return v
    | target => do
      let v ← expr h scope value
      bind h scope false target v
      return v
  | .update op target value => do
    let second (old : Value) : Run (Option Value) := do
      match op with
      | .binary op => return some (← binary h op old (← expr h scope value))
      | .logical op => if needsSecond op old then return some (← expr h scope value) else return none
    match target with
    | .name x => do
      let old ← readVariable scope x
      match ← second old with
      | some v =>
        assignVariable scope x v
        return v
      | none => return old
    | .member _ b k => do
      let base ← expr h scope b
      let k ← keyOf h scope k (← expr h scope k)
      let old ← getMember h base k
      match ← second old with
      | some v =>
        setMember h base k v
        return v
      | none => return old
    | .superMember k => do
      let k ← toKey h (← expr h scope k)
      let old ← superProperty h scope k
      match ← second old with
      | some v =>
        superSet h scope k v
        return v
      | none => return old
    | _ => pure .undefined
  | .call optional f args => do
    let (this, f) ← match ← callee? h scope f with
      | some found => pure found
      | none => do pure (.undefined, ← expr h scope f)
    if optional && f.isNullish then throw .absent
    let args ← items h scope args #[]
    callValue h f this (argumentsOf args)
  | .construct f args => do
    let f ← expr h scope f
    let args ← items h scope args #[]
    if !(← isConstructor f) then typeError "not a constructor"
    h.construct f (argumentsOf args) f
  | .superCall args => do
    let parent ← superConstructor h scope
    let args ← items h scope args #[]
    callSuper h scope parent (argumentsOf args)
  | .member skip b k => do
    let base ← expr h scope b
    if skip && base.isNullish then throw .absent
    match k with
    | .string s => getProp h base (.name s)
    | .hidden x => do getHidden h base (← hiddenKey scope x)
    | k => do getIndexed h base (← expr h scope k)
  | .superMember k => do superProperty h scope (← toKey h (← expr h scope k))
  | .chain e => chained (expr h scope e)
  | .comma a b => do
    let _ ← expr h scope a
    expr h scope b
  | .yield _ e | .await e => do
    let _ ← expr h scope e
    throw .parked

/-- The function that a member denotes, and the value on which it is called. -/
def callee? (h : Host) (scope : Nat) : Expr → Run (Option (Value × Value))
  | .member skip b k => do
    let base ← expr h scope b
    if skip && base.isNullish then throw .absent
    match k with
    | .string s => return some (base, ← getProp h base (.name s))
    | .hidden x => do return some (base, ← getHidden h base (← hiddenKey scope x))
    | k => do return some (base, ← getIndexed h base (← expr h scope k))
  | .superMember k => do
    let k ← toKey h (← expr h scope k)
    return some (← thisValue scope, ← superProperty h scope k)
  | .chain e => orAbsent (callee? h scope e)
  | _ => return none

/-- The text of a template: what there is so far, then values and the texts after them. -/
def templateText (h : Host) (scope : Nat) : List Expr → List Utf16 → Utf16 → Run Value
  | e :: es, t :: ts, out => do
    let s ← toText h (← expr h scope e)
    templateText h scope es ts (out ++ s ++ t)
  | _, _, out => pure (.string out)

/-- Items of an array or a list of arguments, after given ones. -/
def items (h : Host) (scope : Nat) : List Expr → Array (Option Value) → Run (Array (Option Value))
  | [], out => pure out
  | .hole :: es, out => items h scope es (out.push none)
  | .spread e :: es, out => do
    let vs ← itemsOf h (← expr h scope e)
    items h scope es (out ++ vs.map some)
  | e :: es, out => do
    let v ← expr h scope e
    items h scope es (out.push (some v))

/-- Puts members into a new object. -/
def members (h : Host) (scope : Nat) (ref : Nat) : List Member → Run Unit
  | [] => pure ()
  | m :: ms => do
    match m with
    | .field k e => do
      let k ← toKey h (← expr h scope k)
      let v ← expr h scope e
      nameAfter k e.isAnonymous v
      add ref k v
    | .method k kind f => do
      let k ← toKey h (← expr h scope k)
      let f ← makeNamed f (← methodName kind k) scope (some ref)
      match kind with
      | .ordinary => add ref k f
      | .getter => defineAccessor ref k true true f
      | .setter => defineAccessor ref k false true f
    | .spread e => do copyProps h ref (← expr h scope e) []
    | .parent e => do
      match ← expr h scope e with
      | .object p => modifyObj ref fun o => { o with parent := some p }
      | .null => modifyObj ref fun o => { o with parent := none }
      | _ => pure ()
    | _ => pure ()
    members h scope ref ms

/-- Puts methods into a class and its prototype, and plans its fields. -/
def classMembers (h : Host) (scope : Nat) (ref proto : Nat) :
    List Member → ClassPlan → Run ClassPlan
  | [], plan => pure plan
  | m :: ms, plan => do
    let plan ← match m with
      | .shared m => classMember h scope ref true m plan
      | m => classMember h scope proto false m plan
    classMembers h scope ref proto ms plan

/-- Puts a method into its object, or plans a field. -/
def classMember (h : Host) (scope : Nat) (target : Nat) (isStatic : Bool) :
    Member → ClassPlan → Run ClassPlan
  | .method k kind f, plan => do
    let k ← keyOf h scope k (← expr h scope k)
    let f ← makeNamed f (← methodName kind k) scope (some target)
    placeMethod target isStatic k kind f plan
  | .field k e, plan => do
    let k ← keyOf h scope k (← expr h scope k)
    let (f, isAnonymous) ← match e with
      | .function f => do
        pure (some (← makeFunction f scope (some target)), f.givesAnonymous)
      | _ => pure (none, false)
    if isStatic then return { plan with statics := .field ⟨k, f, isAnonymous⟩ :: plan.statics }
    return { plan with fields := ⟨k, f, isAnonymous⟩ :: plan.fields }
  | .block f, plan => do
    let f ← makeFunction f scope (some target)
    return { plan with statics := .block f :: plan.statics }
  | _, plan => pure plan

/-- The place that an expression denotes. -/
def spot (h : Host) (scope : Nat) : Expr → Run Spot
  | .member _ b k => do
    let base ← expr h scope b
    return .member base (← keyOf h scope k (← expr h scope k))
  | .superMember k => do return .superMember (← toKey h (← expr h scope k))
  | _ => raise .reference "invalid target"

/-- Binds a value to a target. -/
def bind (h : Host) (scope : Nat) (declares : Declares) : Binder → Value → Run Unit
  | .nothing, _ => pure ()
  | .name x, v => bindName scope declares x v
  | .place e, v => do putAt h scope v (← spot h scope e)
  | .orElse t e, v => do
    match v with
    | .undefined => bind h scope declares t (← expr h scope e)
    | v => bind h scope declares t v
  | .field k t, v => do bind h scope declares t (← getProp h v (← toKey h (← expr h scope k)))
  | .object fields rest, v => do
    if v.isNullish then typeError "cannot destructure 'undefined' or 'null'"
    let keys ← bindFields h scope declares v fields []
    match rest with
    | .nothing => pure ()
    | rest => do
      let ref ← alloc { parent := some Ref.objectProto }
      copyProps h ref v keys
      bind h scope declares rest (.object ref)
  | .array targets rest, v => do
    let it ← iterate h v
    let left ← bindItems h scope declares targets (some it)
    match rest with
    | .nothing =>
      match left with
      | some it => it.close h
      | none => pure ()
    | rest => do
      let vs ← match left with
        | some it => Iteration.collect h itemBound it #[]
        | none => pure #[]
      bind h scope declares rest (← arrayOf vs)

/-- Binds fields of a value; the keys that were taken. A place is found before its value. -/
def bindFields (h : Host) (scope : Nat) (declares : Declares) (v : Value) :
    List Binder → List Key → Run (List Key)
  | [], keys => pure keys
  | .field k t :: rest, keys => do
    let k ← toKey h (← expr h scope k)
    match t with
    | .place e => do
      let p ← spot h scope e
      putAt h scope (← getProp h v k) p
    | .orElse (.place e) d => do
      let p ← spot h scope e
      match ← getProp h v k with
      | .undefined => putAt h scope (← expr h scope d) p
      | x => putAt h scope x p
    | t => bind h scope declares t (← getProp h v k)
    bindFields h scope declares v rest (k :: keys)
  | _ :: rest, keys => bindFields h scope declares v rest keys

/-- Binds items one after the other; what is left of them. A place is found before its value. -/
def bindItems (h : Host) (scope : Nat) (declares : Declares) :
    List Binder → Option Iteration → Run (Option Iteration)
  | [], it => pure it
  | t :: ts, it => do
    let it ← match t with
      | .place e => do
        let p ← guarded h it (spot h scope e)
        let (v, it) ← nextItem h it
        guarded h it (putAt h scope v p)
        pure it
      | .orElse (.place e) d => do
        let p ← guarded h it (spot h scope e)
        let (v, it) ← nextItem h it
        guarded h it do
          match v with
          | .undefined => putAt h scope (← expr h scope d) p
          | v => putAt h scope v p
        pure it
      | t => do
        let (v, it) ← nextItem h it
        guarded h it (bind h scope declares t v)
        pure it
    bindItems h scope declares ts it

/-- Runs a statement; `labels` are those written right before it. -/
def stmt (h : Host) (scope : Nat) (labels : List String) : Stmt → Run Flow
  | .empty => pure .next
  | .expression e => do
    let _ ← expr h scope e
    return .next
  | .declare kind bindings => do
    declareAll h scope kind bindings
    return .next
  | .function _ => pure .next
  | .classDecl name e => do
    initVariable scope name (← expr h scope e)
    return .next
  | .returns e => do return .returned (← expr h scope e)
  | .branch c yes no => do
    if (← expr h scope c).truthy then stmt h scope [] yes else stmt h scope [] no
  | .loop fresh captured start test next body => do
    let inner ← if fresh.isEmpty then pure scope else newScope scope (blockVariables fresh)
    let _ ← stmt h inner [] start
    let first ← if fresh.isEmpty || !captured then pure inner else copyScope inner
    let isEndless := match test with
      | .hole => true
      | _ => false
    let flow ← loopRounds labels
      (fun s => do if isEndless then return true else return (← expr h s test).truthy)
      (fun s => do
        let _ ← expr h s next)
      (fun s => stmt h s [] body)
      (fun s => if fresh.isEmpty || !captured then pure s else copyScope s)
      (← roundBound) first
    if !fresh.isEmpty && !captured then dropScope inner
    return flow
  | .each kind fresh captured target subject body => do
    let head ← if fresh.isEmpty then pure scope else newScope scope (blockVariables fresh)
    let v ← expr h head subject
    let round (v : Value) : Run Flow := do
      if fresh.isEmpty then
        bind h scope false target v
        stmt h scope [] body
      else
        let inner ← newScope scope (blockVariables fresh)
        bind h inner true target v
        let flow ← stmt h inner [] body
        if !captured then dropScope inner
        return flow
    match kind with
    | .keys =>
      if v.isNullish then return .next
      let holder ← toObject v
      loopKeys h labels round (← roundBound) { holder }
    | .items => do
      let it ← iterate h v
      loopItems h labels round (← roundBound) it
    | .awaited => do
      let it ← match ← method? h v (.symbol Symbols.asyncIterator) with
        | some f => do iterationOf h (← h.call f v [])
        | none => iterate h v
      let _ ← it.next? h
      throw .parked
  | .whileDo test body => do
    loopWhile labels (do return (← expr h scope test).truthy) (stmt h scope [] body) (← roundBound)
  | .doWhile body test => do
    loopUntil labels (do return (← expr h scope test).truthy) (stmt h scope [] body) (← roundBound)
  | .breaks label => pure (.broke label)
  | .continues label => pure (.continued label)
  | .throws e => do throw (.thrown (← expr h scope e))
  | .guarded body names param handler final =>
    let caught : Run Flow :=
      match handler with
      | .empty => stmt h scope [] body
      | handler => orCatch (stmt h scope [] body) fun v => do
        let inner ← newScope scope (blockVariables names)
        bind h inner true param v
        stmt h inner [] handler
    match final with
    | .empty => caught
    | final => withFinal caught (stmt h scope [] final)
  | .switch subject names cs => do
    let v ← expr h scope subject
    let inner ← newScope scope (blockVariables names)
    hoistCases inner cs
    let flow ← do
      match ← matching h inner v cs with
      | some n => casesFrom h inner n cs
      | none => pure .next
    return flow.atSwitch
  | .case _ body => stmts h scope body
  | .block names captured body =>
    if names.isEmpty then stmts h scope body
    else do
      let inner ← newScope scope (blockVariables names)
      hoistFunctions inner body
      let flow ← stmts h inner body
      if !captured then dropScope inner
      return flow
  | .labelled label s => do return (← stmt h scope (label :: labels) s).atLabel label

/-- Runs statements up to the first that does not end in the ordinary way. -/
def stmts (h : Host) (scope : Nat) : List Stmt → Run Flow
  | [] => pure .next
  | s :: rest => do
    let flow ← stmt h scope [] s
    if isNext flow then stmts h scope rest else return flow

/-- Position of the case that a value selects, the default if there is no other. -/
def matching (h : Host) (scope : Nat) (v : Value) : List Stmt → Run (Option Nat)
  | [] => pure none
  | .case test _ :: rest => do
    match test with
    | .hole => do
      match ← matching h scope v rest with
      | some n => return some (n + 1)
      | none => return some 0
    | test => do
      if v.same (← expr h scope test) then return some 0
      return (← matching h scope v rest).map (· + 1)
  | _ :: rest => do return (← matching h scope v rest).map (· + 1)

/-- Runs the cases from a position on. -/
def casesFrom (h : Host) (scope : Nat) : Nat → List Stmt → Run Flow
  | _, [] => pure .next
  | n + 1, _ :: rest => casesFrom h scope n rest
  | 0, s :: rest => do
    let flow ← stmt h scope [] s
    if isNext flow then casesFrom h scope 0 rest else return flow

/-- Runs the declarations of a statement. -/
def declareAll (h : Host) (scope : Nat) (kind : NameKind) : List Binder → Run Unit
  | [] => pure ()
  | b :: bs => do
    match kind, b with
    | .variable, .orElse t e => do bind h scope false t (← expr h scope e)
    | .variable, _ => pure ()
    | _, .orElse t e => do bind h scope true t (← expr h scope e)
    | _, t => bind h scope true t .undefined
    declareAll h scope kind bs

end

end Run
end Script
end Restyle
