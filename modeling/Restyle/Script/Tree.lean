import Restyle.Script.Value

/-!
# Restyle.Script.Tree

Programs in the strict form of the language of component modules: expressions, statements,
functions, classes and the targets that values are bound to.
-/

namespace Restyle
namespace Script

inductive UnaryOp where
  | plus | minus | not | complement | discard
  deriving Repr, BEq, DecidableEq

inductive BinaryOp where
  | add | sub | mul | div | rem | power
  | bitAnd | bitOr | bitXor | shiftLeft | shiftRight | shiftRightUnsigned
  | same | different | equal | unequal
  | less | lessEqual | greater | greaterEqual
  | within | isInstance
  deriving Repr, BEq, DecidableEq

/-- Operators whose second operand may be left out. -/
inductive LogicalOp where
  | and | or | coalesce
  deriving Repr, BEq, DecidableEq

/-- What an assignment does with the old value. -/
inductive AssignOp where
  | binary (op : BinaryOp)
  | logical (op : LogicalOp)
  deriving Repr, BEq, DecidableEq

/-- How a name was declared. -/
inductive NameKind where
  | variable | changeable | constant | function | type
  deriving Repr, BEq, DecidableEq

structure LexicalName where
  name : String
  kind : NameKind
  deriving Repr, BEq, DecidableEq

inductive FunctionKind where
  /-- Declared or written with the keyword; can construct. -/
  | plain
  | arrow
  /-- A method or accessor, which cannot construct. -/
  | method
  | baseConstructor
  | derivedConstructor
  deriving Repr, BEq, DecidableEq

/-- What is known of a function before it runs. -/
structure FunctionTraits where
  name : String
  kind : FunctionKind
  isAsync : Bool
  isGenerator : Bool
  /-- Is it an expression that can call itself by its name? -/
  ownName : Bool
  usesArguments : Bool
  /-- Parameters before the first with a default. -/
  arity : Nat
  /-- Names of parameters and of variables hoisted to the function. -/
  varNames : List String
  deriving Repr, BEq, DecidableEq

inductive MethodKind where
  | ordinary | getter | setter
  deriving Repr, BEq, DecidableEq

/-- What a loop over a subject goes through. -/
inductive EachKind where
  | keys
  | items
  /-- Items that are waited for. -/
  | awaited
  deriving Repr, BEq, DecidableEq

mutual

/-- Expressions. One that is left out is a `hole`; so is a missing element of an array. -/
inductive Expr where
  | hole
  /-- A value that is there already. -/
  | known (v : Value)
  | number (x : Float)
  | bigint (n : Int)
  | string (s : Utf16)
  | boolean (b : Bool)
  | null
  | regex (body flags : String)
  /-- A template: the text before the first value, then the texts after each value. -/
  | template (first : Utf16) (values : List Expr) (texts : List Utf16)
  /-- A template that is handed to a function: its texts, as meant and as written, then the
  values. The site tells it from other templates. -/
  | tagged (site : Nat) (tag : Expr) (texts : List (Option Utf16 × Utf16)) (values : List Expr)
  | name (x : String)
  /-- The name of a member that only its class can reach. -/
  | hidden (x : String)
  | this
  | newTarget
  | array (items : List Expr)
  /-- Items in place of one, in an array or in a list of arguments. -/
  | spread (e : Expr)
  | object (members : List Member)
  | function (f : Func)
  /-- A class: its parent, its constructor and its other members. -/
  | classOf (name : Option String) (parent constructor : Expr) (members : List Member)
  | unary (op : UnaryOp) (e : Expr)
  | typeOf (e : Expr)
  | delete (e : Expr)
  /-- `++` and `--`; `before` if written before the target. -/
  | step (up before : Bool) (target : Expr)
  | binary (op : BinaryOp) (a b : Expr)
  | logical (op : LogicalOp) (a b : Expr)
  | conditional (c a b : Expr)
  | assign (target : Binder) (value : Expr)
  | update (op : AssignOp) (target value : Expr)
  | call (optional : Bool) (f : Expr) (args : List Expr)
  | construct (f : Expr) (args : List Expr)
  | superCall (args : List Expr)
  | member (optional : Bool) (e key : Expr)
  | superMember (key : Expr)
  /-- A chain that ends early, as undefined, where an optional link meets nothing. -/
  | chain (e : Expr)
  | comma (a b : Expr)
  | yield (delegate : Bool) (e : Expr)
  | await (e : Expr)

/-- Members of objects and classes. A fixed key is a string. -/
inductive Member where
  | field (key value : Expr)
  | method (key : Expr) (kind : MethodKind) (f : Func)
  | spread (e : Expr)
  | parent (e : Expr)
  /-- A name with a default, which only a target may hold. -/
  | nameDefault (x : String) (e : Expr)
  /-- A member of the class itself, not of its objects. -/
  | shared (m : Member)
  /-- Statements that run when the class is made. -/
  | block (f : Func)

/-- What a value is bound or assigned to. One that is left out is `nothing`. -/
inductive Binder where
  | nothing
  | name (x : String)
  | place (e : Expr)
  | orElse (target : Binder) (default : Expr)
  | field (key : Expr) (target : Binder)
  | object (fields : List Binder) (rest : Binder)
  | array (items : List Binder) (rest : Binder)

/-- A function: parameters, names declared in the body, and the body. -/
inductive Func where
  | mk (traits : FunctionTraits) (params : List Binder) (rest : Binder)
      (names : List LexicalName) (body : List Stmt)

/-- Statements. One that is left out is `empty`. -/
inductive Stmt where
  | empty
  | expression (e : Expr)
  | declare (kind : NameKind) (bindings : List Binder)
  | function (f : Func)
  | classDecl (name : String) (e : Expr)
  | returns (e : Expr)
  | branch (c : Expr) (yes no : Stmt)
  /-- A loop with three heads; `fresh` are its own variables, new in every round. They are
  `captured` if there is a function in it. -/
  | loop (fresh : List LexicalName) (captured : Bool) (start : Stmt) (test next : Expr)
      (body : Stmt)
  /-- A loop over keys or over items; `fresh` are its own variables, new in every round. -/
  | each (kind : EachKind) (fresh : List LexicalName) (captured : Bool) (target : Binder)
      (subject : Expr) (body : Stmt)
  | whileDo (test : Expr) (body : Stmt)
  | doWhile (body : Stmt) (test : Expr)
  | breaks (label : Option String)
  | continues (label : Option String)
  | throws (e : Expr)
  | guarded (body : Stmt) (names : List LexicalName) (param : Binder) (handler final : Stmt)
  | switch (subject : Expr) (names : List LexicalName) (cases : List Stmt)
  /-- A case of a switch; the default has no test. -/
  | case (test : Expr) (body : List Stmt)
  | block (names : List LexicalName) (captured : Bool) (body : List Stmt)
  | labelled (label : String) (s : Stmt)

end

instance : Inhabited Expr := ⟨.hole⟩

instance : Inhabited Binder := ⟨.nothing⟩

instance : Inhabited Stmt := ⟨.empty⟩

namespace Func

def traits : Func → FunctionTraits
  | mk t _ _ _ _ => t

/-- The function under another name. -/
def rename (f : Func) (name : String) : Func :=
  match f with
  | mk t ps r ns b => mk { t with name } ps r ns b

end Func
end Script
end Restyle
