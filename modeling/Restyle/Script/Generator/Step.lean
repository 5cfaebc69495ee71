import Restyle.Script.Eval
import Restyle.Script.Generator.Yields

/-!
# Restyle.Script.Generator.Step

The body of a generator runs in steps. What is left to do at any point is a list of frames; a
step looks at what is under way, hands values and ends of statements to the latest frame, and
runs whatever has no `yield` in it at once.

* `Generator.step` — one step.
* `Generator.advance` — steps up to the next `yield` or to the end.
* `Generator.resume` — sends a generator on its way: the object that says what it yields.
-/

namespace Restyle
namespace Script
namespace Generator

open Run

/-- What is under way. -/
inductive Control where
  | statement (scope : Nat) (labels : List String) (s : Stmt)
  | evaluate (scope : Nat) (e : Expr)
  | bind (scope : Nat) (declares : Bool) (target : Binder) (v : Value)
  | value (v : Value)
  | ended (flow : Flow)
  | thrown (v : Value)
  /-- An optional link of a chain met nothing. -/
  | absent

/-- What a step leads to. -/
inductive Outcome where
  | going (control : Control) (frames : List Frame)
  /-- Stands still at a `yield`. -/
  | yielded (v : Value) (frames : List Frame)
  /-- Stands still where another generator does, with the object that this one gave. -/
  | relayed (result : Value) (frames : List Frame)
  | finished (completion : Completion)

open Outcome (going)

abbrev Steps := List Frame → Run Outcome

variable (h : Host)

def go (control : Control) : Steps := fun fs => return going control fs

/-! ## Operands and arguments -/

/-- Is it a part that stays as it is when operands become known? -/
def isFixed : Expr → Bool
  | .hole | .hidden _ => true
  | _ => false

/-- The first of some parts whose value has to be found, the parts before it, last first, and the
parts after it. -/
def nextPart : List Expr → List Expr → Option (Expr × List Expr × List Expr)
  | _, [] => none
  | done, e :: todo => if isFixed e then nextPart (e :: done) todo else some (e, done, todo)

/-- What has to be evaluated for a part. -/
def inner : Expr → Expr
  | .spread e => e
  | e => e

/-- A part of which the value is known. -/
def known (e : Expr) (v : Value) : Run Expr := do
  match e with
  | .spread _ => return .spread (.known (← arrayOf (← itemsOf h v)))
  | _ => return .known v

/-- Goes on to the next operand, or to the whole. -/
def operandsFrom (scope : Nat) (whole : Expr) (done todo : List Expr) : Steps := fun fs => do
  match nextPart done todo with
  | some (e, done, todo) => go (.evaluate scope (inner e)) (.operands scope whole done (e :: todo) :: fs)
  | none =>
    go (.value (← expr h scope (whole.withOperands (done.reverse ++ todo)))) fs

/-- Goes on to the next argument, or to the call. -/
def argumentsFrom (scope : Nat) (this f : Value) (done todo : List Expr) : Steps := fun fs => do
  match nextPart done todo with
  | some (e, done, todo) => go (.evaluate scope (inner e)) (.arguments scope this f done (e :: todo) :: fs)
  | none =>
    let args ← items h scope (done.reverse ++ todo) #[]
    go (.value (← callValue h f this (argumentsOf args))) fs

/-! ## Statements -/

def sequence (scope : Nat) : List Stmt → Steps
  | [] => go (.ended .next)
  | s :: rest => fun fs => go (.statement scope [] s) (.sequence scope rest :: fs)

def declare (scope : Nat) (kind : NameKind) : List Binder → Steps
  | [] => go (.ended .next)
  | t :: rest => fun fs =>
    match kind, t with
    | _, .orElse t e => go (.evaluate scope e) (.declaring scope kind t rest :: fs)
    | .variable, _ => go (.ended .next) (.declarations scope kind rest :: fs)
    | _, t => go (.bind scope true t .undefined) (.declarations scope kind rest :: fs)

/-- A round of a loop that tests before it. -/
def testWhile (scope : Nat) (labels : List String) (test : Expr) (body : Stmt) : Steps := fun fs => do
  countRound
  go (.evaluate scope test) (.whileTested scope labels test body :: fs)

def testLoop (scope : Nat) (plan : LoopPlan) : Steps := fun fs =>
  go (.evaluate scope plan.test) (.loopTested scope plan :: fs)

def renew (scope : Nat) (plan : LoopPlan) : Run Nat :=
  if plan.renews then copyScope scope else pure scope

/-- Binds what a round of a loop over a subject is about. -/
def eachRound (plan : EachPlan) (v : Value) : Steps := fun fs => do
  if plan.fresh.isEmpty then
    go (.bind plan.scope false plan.target v) (.roundBound plan.scope plan.body :: fs)
  else
    let scope ← newScope plan.scope (blockVariables plan.fresh)
    go (.bind scope true plan.target v) (.roundBound scope plan.body :: fs)

def nextKey (plan : EachPlan) (walk : KeyWalk) : Steps := fun fs => do
  countRound
  match ← walk.next? h itemBound with
  | some (k, walk) => eachRound plan k.value (.keyRound plan walk :: fs)
  | none => go (.ended .next) fs

def nextItem (plan : EachPlan) (it : Iteration) : Steps := fun fs => do
  countRound
  match ← it.next? h with
  | some (v, it) => eachRound plan v (.itemRound plan it :: fs)
  | none => go (.ended .next) fs

/-- Starts a loop over a subject. -/
def startEach (kind : EachKind) (plan : EachPlan) (v : Value) : Steps := fun fs => do
  match kind with
  | .keys =>
    if v.isNullish then go (.ended .next) fs
    else do
      let holder ← toObject v
      nextKey h plan { holder } fs
  | _ => nextItem h plan (← iterate h v) fs

/-- Runs the cases of a switch from a position on. -/
def selectCase (scope : Nat) (cases : List Stmt) (position : Option Nat) : Steps :=
  match position with
  | some n => sequence scope (cases.drop n)
  | none => go (.ended .next)

/-- Position of the case without a test. -/
def defaultCase (cases : List Stmt) : Option Nat :=
  cases.findIdx? fun
    | .case .hole _ => true
    | _ => false

/-- Tests the cases of a switch from a position on. -/
def testCases (scope : Nat) (subject : Value) (all : List Stmt) : Nat → List Stmt → Steps
  | _, [] => selectCase scope all (defaultCase all)
  | n, .case test _ :: rest =>
    match test with
    | .hole => testCases scope subject all (n + 1) rest
    | test => fun fs => go (.evaluate scope test) (.caseTested scope subject all n :: fs)
  | n, _ :: rest => testCases scope subject all (n + 1) rest

def startSwitch (scope : Nat) (names : List LexicalName) (cases : List Stmt) (v : Value) : Steps :=
  fun fs => do
    let inner ← newScope scope (blockVariables names)
    hoistCases inner cases
    if Stmt.anyTestYields cases then testCases inner v cases 0 cases (.switched :: fs)
    else selectCase inner cases (← matching h inner v cases) (.switched :: fs)

/-- Begins a statement that may stand still. -/
def enterStatement (scope : Nat) (labels : List String) (s : Stmt) : Steps := fun fs => do
  match s with
  | .expression e => go (.evaluate scope e) (.discard :: fs)
  | .declare kind bindings => declare scope kind bindings fs
  | .classDecl name e => go (.evaluate scope e) (.naming scope name :: fs)
  | .returns e => go (.evaluate scope e) (.returning :: fs)
  | .throws e => go (.evaluate scope e) (.throwing :: fs)
  | .branch c yes no => go (.evaluate scope c) (.branch scope yes no :: fs)
  | .loop fresh _ start test next body =>
    let inner ← if fresh.isEmpty then pure scope else newScope scope (blockVariables fresh)
    let test := match test with
      | .hole => .boolean true
      | test => test
    go (.statement inner [] start)
      (.loopStarted inner ⟨labels, test, next, body, !fresh.isEmpty⟩ :: fs)
  | .each kind fresh _ target subject body =>
    let head ← if fresh.isEmpty then pure scope else newScope scope (blockVariables fresh)
    go (.evaluate head subject) (.subject kind ⟨labels, scope, fresh, target, body⟩ :: fs)
  | .whileDo test body => testWhile scope labels test body fs
  | .doWhile body test => go (.statement scope [] body) (.untilRound scope labels test body :: fs)
  | .guarded body names param handler final =>
    let fs := match final with
      | .empty => fs
      | final => .final scope final :: fs
    let fs := match handler with
      | .empty => fs
      | handler => .handler scope names param handler :: fs
    go (.statement scope [] body) fs
  | .switch subject names cases => go (.evaluate scope subject) (.selecting scope names cases :: fs)
  | .case _ body => sequence scope body fs
  | .block names _ body =>
    let inner ← if names.isEmpty then pure scope else newScope scope (blockVariables names)
    hoistFunctions inner body
    sequence inner body fs
  | .labelled label s => go (.statement scope (label :: labels) s) (.label label :: fs)
  | s => do go (.ended (← stmt h scope labels s)) fs

/-! ## Expressions and targets -/

/-- Begins an update: reads the old value, then goes on as for an assignment. -/
def startUpdate (scope : Nat) (op : AssignOp) (target value : Expr) (old : Value) : Steps :=
  let place : Binder := match target with
    | .name x => .name x
    | target => .place target
  match op with
  | .binary op => go (.evaluate scope (.assign place (.binary op (.known old) value)))
  | .logical op =>
    if needsSecond op old then go (.evaluate scope (.assign place value)) else go (.value old)

/-- Begins an expression that may stand still. -/
def enterExpression (scope : Nat) (e : Expr) : Steps := fun fs => do
  match e with
  | .yield delegate e =>
    go (.evaluate scope e) ((if delegate then .delegation else .yielding) :: fs)
  | .conditional c a b => go (.evaluate scope c) (.choose scope a b :: fs)
  | .logical op a b => go (.evaluate scope a) (.second scope op b :: fs)
  | .comma a b => go (.evaluate scope a) (.andThen scope b :: fs)
  | .chain e => go (.evaluate scope e) (.chained :: fs)
  | .member skip b k =>
    if b.yields then go (.evaluate scope b) (.base scope skip k :: fs)
    else
      let base ← expr h scope b
      if skip && base.isNullish then go .absent fs
      else operandsFrom h scope (.member false b k) [.known base] [k] fs
  | .call optional f args =>
    match f.yields, f with
    | true, .member skip b k =>
      if b.yields then go (.evaluate scope b) (.calleeBase scope optional skip k args :: fs)
      else
        let base ← expr h scope b
        if skip && base.isNullish then go .absent fs
        else go (.evaluate scope k) (.calleeKey scope optional base args :: fs)
    | true, f => go (.evaluate scope f) (.callee scope optional args :: fs)
    | false, f =>
      let (this, f) ← match ← callee? h scope f with
        | some found => pure found
        | none => do pure (.undefined, ← expr h scope f)
      if optional && f.isNullish then go .absent fs else argumentsFrom h scope this f [] args fs
  | .tagged site tag texts values =>
    let (this, f) ← match ← callee? h scope tag with
      | some found => pure found
      | none => do pure (.undefined, ← expr h scope tag)
    argumentsFrom h scope this f [.known (← templateObject site texts)] values fs
  | .assign target e =>
    match target with
    | .place (.member ..) | .place (.superMember _) =>
      operandsFrom h scope (.assign target e) [] (Expr.operands (.assign target e)) fs
    | target => go (.evaluate scope e) (.assigning scope target :: fs)
  | .update op target value =>
    if target.yields then operandsFrom h scope e [] e.operands fs
    else
      match target with
      | .member _ b k =>
        let base ← expr h scope b
        let key ← keyOf h scope k (← expr h scope k)
        let k := if key.isHidden then k else .known key.value
        startUpdate scope op (.member false (.known base) k) value (← getMember h base key) fs
      | .superMember k =>
        let key ← toKey h (← expr h scope k)
        startUpdate scope op (.superMember (.known key.value)) value (← superProperty h scope key) fs
      | target => startUpdate scope op target value (← expr h scope target) fs
  | e => operandsFrom h scope e [] e.operands fs

/-- Binds the next of some fields. -/
def bindFieldsFrom (scope : Nat) (declares : Bool) (source : Value) (rest : Binder) :
    List Binder → List Key → Steps
  | .field k t :: fields, taken => fun fs =>
    go (.evaluate scope k) (.fieldKey scope declares source t fields rest taken :: fs)
  | _, taken => fun fs => do
    match rest with
    | .nothing => go (.ended .next) fs
    | rest =>
      let ref ← alloc { parent := some Ref.objectProto }
      copyProps h ref source taken
      go (.bind scope declares rest (.object ref)) fs

/-- Binds the next of some items. -/
def bindItemsFrom (scope : Nat) (declares : Bool) (rest : Binder) (it : Option Iteration) :
    List Binder → Steps
  | t :: items => fun fs => do
    let (v, it) ← Run.nextItem h it
    go (.bind scope declares t v) (.bindItems scope declares items rest it :: fs)
  | [] => fun fs => do
    match rest with
    | .nothing =>
      match it with
      | some it => it.close h
      | none => pure ()
      go (.ended .next) fs
    | rest =>
      let vs ← match it with
        | some it => Iteration.collect h itemBound it #[]
        | none => pure #[]
      go (.bind scope declares rest (← arrayOf vs)) fs

/-- Binds a value to a target that may stand still. -/
def enterBinding (scope : Nat) (declares : Bool) (target : Binder) (v : Value) : Steps := fun fs => do
  match target with
  | .place e => go (.evaluate scope (.assign (.place e) (.known v))) (.discard :: fs)
  | .orElse t e =>
    match v with
    | .undefined => go (.evaluate scope e) (.binding scope declares t :: fs)
    | v => go (.bind scope declares t v) fs
  | .object fields rest =>
    if v.isNullish then typeError "cannot destructure 'undefined' or 'null'"
    bindFieldsFrom h scope declares v rest fields [] fs
  | .array items rest => bindItemsFrom h scope declares rest (some (← iterate h v)) items fs
  | target => do
    Run.bind h scope declares target v
    go (.ended .next) fs

/-! ## Delegation -/

/-- What follows from the answer of the iterator that is relayed. -/
def relay (iterator next answer : Value) (returns : Bool) : Steps := fun fs => do
  if !answer.isObject then typeError "iterator result is not an object"
  if (← getName h answer "done").truthy then
    let v ← getName h answer "value"
    if returns then go (.ended (.returned v)) fs else go (.value v) fs
  else return .relayed answer (.delegating iterator next :: fs)

/-- Hands a signal to the iterator that is relayed. -/
def delegate (iterator next : Value) (signal : Signal) : Steps := fun fs => do
  match signal with
  | .next v => relay h iterator next (← h.call next iterator [v]) false fs
  | .throw v =>
    match ← method? h iterator "throw" with
    | some f => relay h iterator next (← h.call f iterator [v]) false fs
    | none =>
      Iteration.close h (.object iterator next)
      typeError "iterator has no method 'throw'"
  | .return v =>
    match ← method? h iterator "return" with
    | some f => relay h iterator next (← h.call f iterator [v]) true fs
    | none => go (.ended (.returned v)) fs

/-- Begins to relay the items of a value. -/
def startDelegation (v : Value) : Steps := fun fs => do
  if v.isNullish then typeError "value is not iterable"
  match ← method? h v (.symbol Symbols.iterator) with
  | none => typeError "value is not iterable"
  | some f =>
    let it ← h.call f v []
    if !it.isObject then typeError "result of the iterator method is not an object"
    delegate h it (← getName h it "next") (.next .undefined) fs

/-! ## Steps -/

/-- Hands a value to a frame. -/
def deliver (v : Value) (f : Frame) : Steps := fun fs => do
  match f with
  | .discard => go (.ended .next) fs
  | .returning => go (.ended (.returned v)) fs
  | .throwing => go (.thrown v) fs
  | .branch scope yes no => go (.statement scope [] (if v.truthy then yes else no)) fs
  | .declaring scope kind target rest =>
    go (.bind scope (kind != .variable) target v) (.declarations scope kind rest :: fs)
  | .naming scope name =>
    initVariable scope name v
    go (.ended .next) fs
  | .whileTested scope labels test body =>
    if v.truthy then go (.statement scope [] body) (.whileRound scope labels test body :: fs)
    else go (.ended .next) fs
  | .untilTested scope labels test body =>
    if v.truthy then go (.statement scope [] body) (.untilRound scope labels test body :: fs)
    else go (.ended .next) fs
  | .loopTested scope plan =>
    if v.truthy then go (.statement scope [] plan.body) (.loopRound scope plan :: fs)
    else go (.ended .next) fs
  | .loopStepped scope plan => testLoop scope plan fs
  | .subject kind plan => startEach h kind plan v fs
  | .selecting scope names cases => startSwitch h scope names cases v fs
  | .caseTested scope subject cases n =>
    if subject.same v then selectCase scope cases (some n) fs
    else testCases scope subject cases (n + 1) (cases.drop (n + 1)) fs
  | .operands scope whole done todo => do
    operandsFrom h scope whole ((← known h (todo.headD .hole) v) :: done) todo.tail fs
  | .arguments scope this f done todo => do
    argumentsFrom h scope this f ((← known h (todo.headD .hole) v) :: done) todo.tail fs
  | .base scope skip k =>
    if skip && v.isNullish then go .absent fs
    else operandsFrom h scope (.member false (.known v) k) [.known v] [k] fs
  | .calleeBase scope optional skip k args =>
    if skip && v.isNullish then go .absent fs
    else go (.evaluate scope (.call optional (.member false (.known v) k) args)) fs
  | .calleeKey scope optional base args =>
    go (.evaluate scope (.call optional (.member false (.known base) (.known v)) args)) fs
  | .callee scope optional args =>
    if optional && v.isNullish then go .absent fs
    else argumentsFrom h scope .undefined v [] args fs
  | .choose scope yes no => go (.evaluate scope (if v.truthy then yes else no)) fs
  | .second scope op b => if needsSecond op v then go (.evaluate scope b) fs else go (.value v) fs
  | .andThen scope b => go (.evaluate scope b) fs
  | .assigning scope target => go (.bind scope false target v) (.result v :: fs)
  | .binding scope declares target => go (.bind scope declares target v) fs
  | .fieldKey scope declares source target fields rest taken => do
    let k ← toKey h v
    go (.bind scope declares target (← getProp h source k))
      (.bindFields scope declares source fields rest (k :: taken) :: fs)
  | .yielding => return .yielded v fs
  | .delegation => startDelegation h v fs
  | _ => go (.value v) fs

/-- Hands the end of a statement to a frame. One that waits for a value is dropped. -/
def finish (flow : Flow) (f : Frame) : Steps := fun fs => do
  match f, flow with
  | .sequence scope rest, .next => sequence scope rest fs
  | .declarations scope kind rest, .next => declare scope kind rest fs
  | .label name, flow => go (.ended (flow.atLabel name)) fs
  | .switched, flow => go (.ended flow.atSwitch) fs
  | .whileRound scope labels test body, flow =>
    match flow.afterRound labels with
    | some flow => go (.ended flow) fs
    | none => testWhile scope labels test body fs
  | .untilRound scope labels test body, flow =>
    match flow.afterRound labels with
    | some flow => go (.ended flow) fs
    | none =>
      countRound
      go (.evaluate scope test) (.untilTested scope labels test body :: fs)
  | .loopStarted scope plan, .next => do testLoop (← renew scope plan) plan fs
  | .loopRound scope plan, flow =>
    match flow.afterRound plan.labels with
    | some flow => go (.ended flow) fs
    | none =>
      countRound
      let scope ← renew scope plan
      go (.evaluate scope plan.next) (.loopStepped scope plan :: fs)
  | .keyRound plan walk, flow =>
    match flow.afterRound plan.labels with
    | some flow => go (.ended flow) fs
    | none => nextKey h plan walk fs
  | .itemRound plan it, flow =>
    match flow.afterRound plan.labels with
    | some flow => do
      it.close h
      go (.ended flow) fs
    | none => nextItem h plan it fs
  | .roundBound scope body, .next => go (.statement scope [] body) fs
  | .final scope last, flow => go (.statement scope [] last) (.afterFinal (.ended flow) :: fs)
  | .afterFinal pending, .next =>
    match pending with
    | .ended flow => go (.ended flow) fs
    | .thrown v => go (.thrown v) fs
  | .result v, .next => go (.value v) fs
  | .bindFields scope declares source fields rest taken, .next =>
    bindFieldsFrom h scope declares source rest fields taken fs
  | .bindItems scope declares items rest it, .next =>
    bindItemsFrom h scope declares rest it items fs
  | .bindItems _ _ _ _ (some it), flow => do
    it.close h
    go (.ended flow) fs
  | .handling scope handler, .next => go (.statement scope [] handler) fs
  | _, flow => go (.ended flow) fs

/-- Hands a thrown value to a frame. -/
def interrupt (v : Value) (f : Frame) : Steps := fun fs => do
  match f with
  | .handler scope names param handler =>
    let inner ← newScope scope (blockVariables names)
    go (.bind inner true param v) (.handling inner handler :: fs)
  | .final scope last => go (.statement scope [] last) (.afterFinal (.thrown v) :: fs)
  | .itemRound _ it | .bindItems _ _ _ _ (some it) => it.abandon h v
  | _ => go (.thrown v) fs

/-- What is thrown, and a chain that ends early, is a matter for the frames. -/
def contained (run : Steps) : Steps := fun fs m =>
  match run fs m with
  | .error (.thrown v) m => .ok (going (.thrown v) fs) m
  | .error .absent m => .ok (going .absent fs) m
  | r => r

/-- One step. -/
def step (control : Control) (frames : List Frame) : Run Outcome :=
  match control, frames with
  | .statement scope labels s, fs =>
    contained (fun fs => do
      if s.yields then enterStatement h scope labels s fs
      else go (.ended (← stmt h scope labels s)) fs) fs
  | .evaluate scope e, fs =>
    contained (fun fs => do
      if e.yields then enterExpression h scope e fs else go (.value (← expr h scope e)) fs) fs
  | .bind scope declares target v, fs =>
    contained (fun fs => do
      if target.yields then enterBinding h scope declares target v fs
      else
        Run.bind h scope declares target v
        go (.ended .next) fs) fs
  | .value v, f :: fs => contained (deliver h v f) fs
  | .ended flow, f :: fs => contained (finish h flow f) fs
  | .thrown v, f :: fs => contained (interrupt h v f) fs
  | .absent, .chained :: fs => go (.value .undefined) fs
  | .absent, _ :: fs => go .absent fs
  | .value v, [] => return .finished (.ended (.returned v))
  | .ended flow, [] => return .finished (.ended flow)
  | .thrown v, [] => return .finished (.thrown v)
  | .absent, [] => return .finished (.ended .next)

/-- Steps up to the next `yield` or to the end. -/
def advance : Nat → Control → List Frame → Run Outcome
  | 0, _, _ => throw .limit
  | fuel + 1, control, frames => do
    match ← step h control frames with
    | .going control frames => advance fuel control frames
    | outcome => return outcome

/-- Bound on the number of steps; a loop comes to its own limit before. -/
def stepBound : Nat := 1000000000000

/-- The frames of a body that has not begun. -/
def start (scope : Nat) (body : List Stmt) : List Frame := [.discard, .sequence scope body]

/-- What a call for the next item gives. -/
def iteratorResult (v : Value) (done : Bool) : Run Value :=
  plainObject [(.name "value", v), (.name "done", .boolean done)]

/-- Sends frames that stand still on their way. -/
def wake (signal : Signal) (frames : List Frame) : Run Outcome :=
  match frames with
  | .delegating iterator next :: fs => do
    match ← contained (delegate h iterator next signal) fs with
    | .going control frames => advance h stepBound control frames
    | outcome => return outcome
  | fs =>
    match signal with
    | .next v => advance h stepBound (.value v) fs
    | .throw v => advance h stepBound (.thrown v) fs
    | .return v => advance h stepBound (.ended (.returned v)) fs

/-- Sends a generator on its way: the object that says what it yields. -/
def resume (ref : Nat) (signal : Signal) : Run Value := do
  match (← obj ref).kind with
  | .generator .running => typeError "generator is already running"
  | .generator .finished =>
    match signal with
    | .next _ => iteratorResult .undefined true
    | .throw v => throw (.thrown v)
    | .return v => iteratorResult v true
  | .generator (.suspended frames rounds) => do
    setKind ref (.generator .running)
    modify fun m => { m with rounds }
    let outcome ← wake h signal frames
    let rounds := (← get).rounds
    match outcome with
    | .yielded v frames =>
      setKind ref (.generator (.suspended frames rounds))
      iteratorResult v false
    | .relayed result frames =>
      setKind ref (.generator (.suspended frames rounds))
      return result
    | .finished completion =>
      setKind ref (.generator .finished)
      match completion with
      | .thrown v => throw (.thrown v)
      | .ended (.returned v) => iteratorResult v true
      | .ended _ => iteratorResult .undefined true
    | .going .. => iteratorResult .undefined true
  | _ => typeError "value is not a generator"

end Generator
end Script
end Restyle
