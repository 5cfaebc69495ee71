import Restyle.Script.Tree

/-!
# Restyle.Script.Frame

How statements end, what is left to go through of a value, and what is left to do in the body
of a function that stands still at a `yield`.
-/

namespace Restyle
namespace Script

/-- How a statement ends. -/
inductive Flow where
  | next
  | returned (v : Value)
  | broke (label : Option String)
  | continued (label : Option String)
  deriving Repr, BEq, Inhabited

namespace Flow

/-- What a loop with some labels does after a round: `none` to go on. -/
def afterRound (labels : List String) : Flow → Option Flow
  | next => none
  | continued none => none
  | broke none => some next
  | continued (some l) => if labels.contains l then none else some (continued (some l))
  | broke (some l) => if labels.contains l then some next else some (broke (some l))
  | returned v => some (returned v)

/-- What a statement with a label makes of a jump out of it. -/
def atLabel (label : String) : Flow → Flow
  | broke (some l) => if l == label then next else broke (some l)
  | flow => flow

/-- What a switch makes of a jump out of it. -/
def atSwitch : Flow → Flow
  | broke none => next
  | flow => flow

end Flow

/-- What is listed of a collection. -/
inductive Listing where
  | keys | values | entries
  deriving Repr, BEq, DecidableEq

/-- Items still to come: characters of a text, items of an array or entries of a collection as
they will be then, or those of an object with a method for the next one. -/
inductive Iteration where
  | characters (units : List UInt16)
  | array (ref next : Nat)
  | entries (ref next : Nat) (listing : Listing)
  | object (iterator next : Value)
  deriving Repr, BEq, Inhabited

/-- A walk over the keys of an object and of its parents, as far as a loop over keys visits them:
whose keys are visited, those of them still to come (none if they are not read yet), those that
were met, and those that were met before at other objects, which count no more. -/
structure KeyWalk where
  holder : Nat
  coming : Option (List Key) := none
  met : List Key := []
  before : List Key := []
  deriving Repr, BEq, Inhabited

/-- How something that may end early has ended. -/
inductive Completion where
  | ended (flow : Flow)
  | thrown (v : Value)
  deriving Repr, BEq, Inhabited

/-- A loop with three heads, of which two may be left out. -/
structure LoopPlan where
  labels : List String
  test : Expr
  next : Expr
  body : Stmt
  /-- Are its variables new in every round? -/
  renews : Bool

/-- A loop over a subject. -/
structure EachPlan where
  labels : List String
  scope : Nat
  fresh : List LexicalName
  target : Binder
  body : Stmt

/-- What is done next with the value of an expression or with the end of a statement. -/
inductive Frame where
  -- with the value of an expression
  | discard
  | returning
  | throwing
  | branch (scope : Nat) (yes no : Stmt)
  | declaring (scope : Nat) (kind : NameKind) (target : Binder) (rest : List Binder)
  | naming (scope : Nat) (name : String)
  | whileTested (scope : Nat) (labels : List String) (test : Expr) (body : Stmt)
  | untilTested (scope : Nat) (labels : List String) (test : Expr) (body : Stmt)
  | loopTested (scope : Nat) (plan : LoopPlan)
  | loopStepped (scope : Nat) (plan : LoopPlan)
  | subject (kind : EachKind) (plan : EachPlan)
  | selecting (scope : Nat) (names : List LexicalName) (cases : List Stmt)
  /-- The value of the test of a case, among all cases, at a position. -/
  | caseTested (scope : Nat) (subject : Value) (cases : List Stmt) (position : Nat)
  /-- Operands of an expression: those that are known, last first, and those that are not. -/
  | operands (scope : Nat) (whole : Expr) (done todo : List Expr)
  | base (scope : Nat) (skip : Bool) (key : Expr)
  | calleeBase (scope : Nat) (optional skip : Bool) (key : Expr) (args : List Expr)
  | calleeKey (scope : Nat) (optional : Bool) (base : Value) (args : List Expr)
  | callee (scope : Nat) (optional : Bool) (args : List Expr)
  | arguments (scope : Nat) (this f : Value) (done todo : List Expr)
  | choose (scope : Nat) (yes no : Expr)
  | second (scope : Nat) (op : LogicalOp) (b : Expr)
  | andThen (scope : Nat) (b : Expr)
  | assigning (scope : Nat) (target : Binder)
  | binding (scope : Nat) (declares : Bool) (target : Binder)
  /-- The key of a field that is taken out of a value. -/
  | fieldKey (scope : Nat) (declares : Bool) (source : Value) (target : Binder)
      (fields : List Binder) (rest : Binder) (taken : List Key)
  | chained
  | yielding
  | delegation
  | delegating (iterator next : Value)
  -- with the end of a statement
  | sequence (scope : Nat) (rest : List Stmt)
  | declarations (scope : Nat) (kind : NameKind) (rest : List Binder)
  | label (name : String)
  | switched
  | whileRound (scope : Nat) (labels : List String) (test : Expr) (body : Stmt)
  | untilRound (scope : Nat) (labels : List String) (test : Expr) (body : Stmt)
  | loopStarted (scope : Nat) (plan : LoopPlan)
  | loopRound (scope : Nat) (plan : LoopPlan)
  | keyRound (plan : EachPlan) (walk : KeyWalk)
  | itemRound (plan : EachPlan) (it : Iteration)
  /-- The target of a round is bound; its body is to be run. -/
  | roundBound (scope : Nat) (body : Stmt)
  | handler (scope : Nat) (names : List LexicalName) (param : Binder) (handler : Stmt)
  | final (scope : Nat) (last : Stmt)
  | afterFinal (pending : Completion)
  | result (v : Value)
  | bindFields (scope : Nat) (declares : Bool) (source : Value) (fields : List Binder)
      (rest : Binder) (taken : List Key)
  | bindItems (scope : Nat) (declares : Bool) (items : List Binder) (rest : Binder)
      (it : Option Iteration)
  /-- The handler is bound; it is to be run. -/
  | handling (scope : Nat) (handler : Stmt)

/-- How a function that stands still is sent on its way again. -/
inductive Signal where
  | next (v : Value)
  | throw (v : Value)
  | return (v : Value)

/-- Where a generator stands. The rounds that its loops have made are counted on. -/
inductive Progress where
  | suspended (frames : List Frame) (rounds : Nat)
  | running
  | finished

end Script
end Restyle
