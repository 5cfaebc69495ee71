import Restyle.Script.Binder
import Restyle.Script.Token

/-!
# Restyle.Script.Grammar.Basic

Readers of scripts look one word ahead and say which word does not fit. While they read they
keep track of the names that are declared, since a name may not be declared twice.

A reader that needs readers of its own kind again takes them from a `Grammar`, so that no
reader calls itself.
-/

namespace Restyle
namespace Script

/-- What is known of the function that is being read. -/
structure Surroundings where
  isAsync : Bool := false
  isGenerator : Bool := false
  labels : List String := []
  inLoop : Bool := false
  inSwitch : Bool := false
  deriving Inhabited

structure ParseState where
  /-- The word ahead. -/
  look : Lexeme
  /-- Names hoisted to the function, latest first. -/
  varNames : List String := []
  /-- Names declared in the block, latest first. -/
  lexicals : List LexicalName := []
  usesArguments : Bool := false
  /-- Number of functions so far. -/
  functions : Nat := 0
  surroundings : Surroundings := {}
  /-- Number of defaults that only a target may hold, not yet found to be in one. -/
  pending : Nat := 0
  /-- Was there a fault that is reported only if there is no other? -/
  late : Bool := false
  /-- Names of hidden members that are used, and not yet found to be members of a class. -/
  hiddenUses : List String := []
  deriving Inhabited

abbrev Parse := EStateM ScriptFault ParseState

namespace Parse

/-- Fails at the word ahead. -/
def fail {α : Type} : Parse α := do
  let x := (← get).look
  match x.token with
  | .finish => throw .malformed
  | _ => throw (.unexpected x.start.place)

def malformed {α : Type} : Parse α := throw .malformed

def peek : Parse Token := do return (← get).look.token

/-- Passes over the word ahead. -/
def advance : Parse Unit := do
  match (← get).look.stop.next with
  | .ok look => modify fun st => { st with look }
  | .error fault => throw fault

/-- The word after the word ahead, unless it is malformed. -/
def second? : Parse (Option Lexeme) := do
  match (← get).look.stop.next with
  | .ok x => return some x
  | .error _ => return none

/-- Is there a line break before the word ahead? -/
def isFresh : Parse Bool := do return (← get).look.fresh

def place : Parse Place := do return (← get).look.start.place

def isMark (m : String) : Parse Bool := do
  match ← peek with
  | .mark m' => return m == m'
  | _ => return false

/-- Is the word ahead a given word of the language? -/
def isWord (w : String) : Parse Bool := do
  match ← peek with
  | .name x false => return x == w
  | _ => return false

def acceptMark (m : String) : Parse Bool := do
  if ← isMark m then
    advance
    return true
  return false

def acceptWord (w : String) : Parse Bool := do
  if ← isWord w then
    advance
    return true
  return false

def expectMark (m : String) : Parse Unit := do
  unless ← acceptMark m do fail

def expectWord (w : String) : Parse Unit := do
  unless ← acceptWord w do fail

/-- The end of a statement: a semicolon, or none before a brace, a line break or the end. -/
def semicolon : Parse Unit := do
  if ← acceptMark ";" then return
  if (← isMark "\x7d") || (← isFresh) then return
  match ← peek with
  | .finish => return
  | _ => fail

/-- Reads ahead without passing over anything; `none` if that fails. -/
def ahead? {α : Type} (p : Parse α) : Parse (Option α) := fun st =>
  match p st with
  | .ok a _ => .ok (some a) st
  | .error _ _ => .ok none st

/-- Things with commas between them, up to a closing mark, which is passed over. -/
def commaList {α : Type} (item : Parse α) (close : String) : Nat → List α → Parse (List α)
  | 0, _ => fail
  | fuel + 1, out => do
    if ← acceptMark close then return out.reverse
    let a ← item
    if ← acceptMark close then return (a :: out).reverse
    expectMark ","
    commaList item close fuel (a :: out)

end Parse

/-! ## Names -/

/-- Words that are no names. -/
def reservedWords : List String :=
  ["break", "case", "catch", "class", "const", "continue", "debugger", "default", "delete", "do",
    "else", "enum", "export", "extends", "false", "finally", "for", "function", "if", "import",
    "in", "instanceof", "new", "null", "return", "super", "switch", "this", "throw", "true", "try",
    "typeof", "var", "void", "while", "with", "implements", "interface", "let", "package",
    "private", "protected", "public", "static", "yield"]

def isReserved (x : String) : Bool := reservedWords.contains x

namespace Parse

/-- Is the word ahead a name? -/
def isName : Parse Bool := do
  match ← peek with
  | .name x _ => return !isReserved x && !(x == "await" && (← get).surroundings.isAsync)
  | _ => return false

/-- Reads a name. -/
def name : Parse String := do
  unless ← isName do fail
  match ← peek with
  | .name x _ =>
    advance
    return x
  | _ => fail

/-- Reads a name that is declared. -/
def declaredName : Parse String := do
  let at' ← place
  let x ← name
  if isFixedName x then throw (.unexpected at')
  return x

/-- Takes note of names hoisted to the function. -/
def hoist (xs : List String) : Parse Unit :=
  modify fun st => { st with varNames := xs.reverse ++ st.varNames }

/-- Takes note of names declared in the block. -/
def declare (kind : NameKind) (xs : List String) : Parse Unit :=
  modify fun st =>
    { st with lexicals := (xs.map fun x => ⟨x, kind⟩).reverse ++ st.lexicals }

def noteLate : Parse Unit := modify fun st => { st with late := true }

/-- Takes note of a hidden member that is used. -/
def useHidden (x : String) : Parse Unit :=
  modify fun st => { st with hiddenUses := x :: st.hiddenUses }

/-- Reads with other surroundings. -/
def within {α : Type} (change : Surroundings → Surroundings) (p : Parse α) : Parse α := do
  let old := (← get).surroundings
  modify fun st => { st with surroundings := change old }
  let a ← p
  modify fun st => { st with surroundings := old }
  return a

end Parse

/-- Is there a name twice in a list? -/
def hasTwice : List String → Bool
  | [] => false
  | x :: xs => xs.contains x || hasTwice xs

namespace Parse

/-- Reads a block: the names that are declared in it, none of them twice, and whether there is
a function in it. -/
def blockOf {α : Type} (p : Parse α) : Parse (List LexicalName × Bool × α) := do
  let st ← get
  let first := st.look.start.place
  let outer := st.lexicals
  let hoisted := st.varNames.length
  let functions := st.functions
  set { st with lexicals := [] }
  let a ← p
  let st ← get
  let names := st.lexicals.reverse
  let xs := names.map (·.name)
  let varNames := st.varNames.take (st.varNames.length - hoisted)
  if hasTwice xs || varNames.any xs.contains then throw (.unexpected first)
  set { st with lexicals := outer }
  return (names, st.functions != functions, a)

end Parse

/-! ## Recursion -/

/-- How the parameters and the body of a function are read. -/
structure FunctionForm where
  name : String
  kind : FunctionKind
  isAsync : Bool := false
  isGenerator : Bool := false
  ownName : Bool := false
  /-- `false` for statements in braces alone. -/
  hasParams : Bool := true

/-- Readers of the parts that contain parts of their own kind. -/
structure Grammar where
  /-- Bound on the number of parts in a row. -/
  bound : Nat
  expression : (allowIn : Bool) → Parse Expr
  assignment : (allowIn : Bool) → Parse Expr
  binary : (allowIn : Bool) → (least : Nat) → Parse Expr
  unary : Parse Expr
  binder : Parse Binder
  statement : Parse Stmt
  /-- Parameters and body of a function. -/
  function : FunctionForm → Parse Func

end Script
end Restyle
