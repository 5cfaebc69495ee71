import Restyle.Script.Grammar.Expression

/-!
# Restyle.Script.Grammar.Statement

Readers of statements and functions, and the grammar as a whole.

* `Script.read` — the statements of a whole text.
-/

namespace Restyle
namespace Script
namespace Grammar

open Parse

/-- Statements up to a word that ends them, which is not passed over. -/
def statements (g : Grammar) (ends : Parse Bool) : Nat → List Stmt → Parse (List Stmt)
  | 0, _ => fail
  | fuel + 1, out => do
    if ← ends then return out.reverse
    let s ← g.statement
    statements g ends fuel (s :: out)

/-- Statements up to a closing brace, which is passed over. -/
def bracedStatements (g : Grammar) : Parse (List Stmt) := do
  let body ← statements g (isMark "\x7d") g.bound []
  expectMark "\x7d"
  return body

/-! ## Functions -/

/-- Reads parameters after their opening parenthesis: those in order, and the rest. -/
def params (g : Grammar) : Nat → List Binder → Parse (List Binder × Binder)
  | 0, _ => fail
  | fuel + 1, out => do
    if ← acceptMark ")" then return (out.reverse, .nothing)
    if ← acceptMark "..." then
      let rest ← g.binder
      expectMark ")"
      return (out.reverse, rest)
    let t ← itemBinder g
    if ← acceptMark ")" then return ((t :: out).reverse, .nothing)
    expectMark ","
    params g fuel (t :: out)

/-- Parameters before the first that may be left out. -/
def arity (ps : List Binder) : Nat :=
  (ps.takeWhile fun
    | .orElse _ _ => false
    | _ => true).length

/-- Reads the parameters that a form asks for. -/
def formParams (g : Grammar) (form : FunctionForm) : Parse (List Binder × Binder × Place) := do
  if !form.hasParams then return ([], .nothing, ← place)
  if form.kind == .arrow then
    let start ← place
    if ← acceptMark "(" then
      let (ps, rest) ← params g g.bound []
      return (ps, rest, start)
    return ([.name (← declaredName)], .nothing, start)
  expectMark "("
  let start := (← get).look.start.place
  let (ps, rest) ← params g g.bound []
  return (ps, rest, start)

/-- Reads the body that a form asks for. -/
def formBody (g : Grammar) (form : FunctionForm) : Parse (List Stmt) := do
  if form.kind == .arrow then
    if ← isFresh then fail
    expectMark "=>"
    if !(← isMark "\x7b") then return [.returns (← g.assignment true)]
  expectMark "\x7b"
  bracedStatements g

/-- Reads parameters and body of a function. -/
def functionBody (g : Grammar) (form : FunctionForm) : Parse Func := do
  let outer ← get
  set { outer with
    varNames := [], lexicals := [], usesArguments := false
    functions := outer.functions + 1
    surroundings := { isAsync := form.isAsync, isGenerator := form.isGenerator } }
  let (ps, rest, start) ← formParams g form
  let paramNames := Binder.allNames ps ++ rest.names
  let body ← formBody g form
  let inner ← get
  let lexicals := inner.lexicals.reverse
  let fixed := (lexicals.filter (·.kind != .function)).map (·.name)
  let hoisted := inner.varNames.reverse
  let functions := (lexicals.filter (·.kind == .function)).map (·.name)
  if hasTwice paramNames || hasTwice fixed || fixed.any (hoisted ++ functions).contains then
    malformed
  if fixed.any paramNames.contains then throw (.unexpected start)
  set { inner with
    varNames := outer.varNames, lexicals := outer.lexicals, surroundings := outer.surroundings
    usesArguments := outer.usesArguments || (form.kind == FunctionKind.arrow && inner.usesArguments) }
  let traits : FunctionTraits :=
    { name := form.name, kind := form.kind, isAsync := form.isAsync
      isGenerator := form.isGenerator, ownName := form.ownName
      usesArguments := inner.usesArguments && form.kind != FunctionKind.arrow
      arity := arity ps, varNames := (paramNames ++ hoisted).eraseDups }
  return .mk traits ps rest lexicals body

/-! ## Declarations -/

/-- Reads the value of a declared target, after the target. -/
def declaredValue (g : Grammar) (allowIn : Bool) (kind : NameKind) (t : Binder) :
    Parse Binder := do
  if ← acceptMark "=" then
    return t.withDefault (← g.assignment allowIn)
  match kind, t with
  | .constant, _ => fail
  | _, .name _ => return t
  | _, _ => fail

def noteNames (kind : NameKind) (t : Binder) : Parse Unit := do
  match kind with
  | .variable => hoist t.names
  | _ => declare kind t.names

/-- Reads further declarations after a comma. -/
def declarations (g : Grammar) (allowIn : Bool) (kind : NameKind) :
    Nat → List Binder → Parse (List Binder)
  | 0, _ => fail
  | fuel + 1, out => do
    if ← acceptMark "," then
      let t ← g.binder
      noteNames kind t
      declarations g allowIn kind fuel ((← declaredValue g allowIn kind t) :: out)
    else return out.reverse

/-- Reads a declaration after its keyword. -/
def declaration (g : Grammar) (kind : NameKind) : Parse Stmt := do
  let t ← g.binder
  noteNames kind t
  let first ← declaredValue g true kind t
  let all ← declarations g true kind g.bound [first]
  semicolon
  return .declare kind all

/-- The kind of declaration that the word ahead begins. -/
def declarationKind? : Parse (Option NameKind) := do
  if ← isWord "var" then return some .variable
  if ← isWord "let" then return some .changeable
  if ← isWord "const" then return some .constant
  return none

/-- Reads a function declaration after its keyword. -/
def functionDeclaration (g : Grammar) (isAsync : Bool) : Parse Stmt := do
  let isGenerator ← acceptMark "*"
  let name ← declaredName
  declare .function [name]
  return .function (← g.function { name, kind := .plain, isAsync, isGenerator })

def classDeclaration (g : Grammar) : Parse Stmt := do
  let name ← declaredName
  declare .type [name]
  return .classDecl name (← classRest g (some name) (leftHandSide g g.bound))

/-! ## Loops -/

def inLoop {α : Type} (p : Parse α) : Parse α := within (fun s => { s with inLoop := true }) p

/-- Reads the second and third head and the body of a loop. -/
def loopRest (g : Grammar) (start : Stmt) : Parse Stmt := do
  expectMark ";"
  let test ← if ← isMark ";" then pure .hole else g.expression true
  expectMark ";"
  let next ← if ← isMark ")" then pure .hole else g.expression true
  expectMark ")"
  return .loop [] false start test next (← inLoop g.statement)

/-- Reads the subject and body of a loop over keys or items, which may be waited for. -/
def eachRest (g : Grammar) (isAwaited : Bool) (target : Binder) : Parse Stmt := do
  let isOverKeys ← isWord "in"
  if isOverKeys && isAwaited then fail
  advance
  let subject ← if isOverKeys then g.expression true else g.assignment true
  expectMark ")"
  let kind := if isOverKeys then EachKind.keys else if isAwaited then .awaited else .items
  return .each kind [] false target subject (← inLoop g.statement)

def startsEach : Parse Bool := do return (← isWord "of") || (← isWord "in")

/-- Reads the heads and the body of a loop after the opening parenthesis. -/
def forRest (g : Grammar) (isAwaited : Bool) : Parse Stmt := do
  if !isAwaited && (← isMark ";") then return ← loopRest g .empty
  match ← declarationKind? with
  | some kind =>
    advance
    let t ← g.binder
    noteNames kind t
    if isAwaited || (← startsEach) then
      unless ← startsEach do fail
      return ← eachRest g isAwaited t
    let first ← declaredValue g false kind t
    let all ← declarations g false kind g.bound [first]
    loopRest g (.declare kind all)
  | none =>
    let pending := (← get).pending
    let e ← g.expression false
    if isAwaited || (← startsEach) then
      unless ← startsEach do fail
      match e.target? with
      | some t =>
        modify fun st => { st with pending }
        eachRest g isAwaited t
      | none => malformed
    else loopRest g (.expression e)

/-- A loop with its own variables. -/
def withFresh (names : List LexicalName) (captured : Bool) (s : Stmt) : Stmt :=
  match s with
  | .loop _ _ start test next body => .loop names captured start test next body
  | .each kind _ _ target subject body => .each kind names captured target subject body
  | s => s

/-! ## Other statements -/

/-- Reads statements in braces, with names of their own. -/
def block (g : Grammar) : Parse Stmt := do
  expectMark "\x7b"
  let (names, captured, body) ← blockOf (bracedStatements g)
  return .block names captured body

/-- Reads what `try` begins. -/
def guarded (g : Grammar) : Parse Stmt := do
  let body ← block g
  let (names, param, handler) ←
    if ← acceptWord "catch" then do
      let param ←
        if ← acceptMark "(" then do
          let t ← g.binder
          expectMark ")"
          pure t
        else pure Binder.nothing
      let handler ← block g
      pure ((param.names.map fun x => LexicalName.mk x .changeable), param, handler)
    else pure ([], Binder.nothing, Stmt.empty)
  let final ← if ← acceptWord "finally" then block g else pure .empty
  match handler, final with
  | .empty, .empty => fail
  | _, _ => return .guarded body names param handler final

/-- Reads the cases of a switch up to the closing brace. -/
def cases (g : Grammar) : Nat → Bool → List Stmt → Parse (List Stmt)
  | 0, _, _ => fail
  | fuel + 1, hasDefault, out => do
    if ← acceptMark "\x7d" then return out.reverse
    let ends : Parse Bool := do
      return (← isMark "\x7d") || (← isWord "case") || (← isWord "default")
    if ← acceptWord "case" then
      let test ← g.expression true
      expectMark ":"
      let body ← statements g ends g.bound []
      cases g fuel hasDefault (.case test body :: out)
    else
      if hasDefault then fail
      expectWord "default"
      expectMark ":"
      let body ← statements g ends g.bound []
      cases g fuel true (.case .hole body :: out)

def switch (g : Grammar) : Parse Stmt := do
  expectMark "("
  let subject ← g.expression true
  expectMark ")"
  expectMark "\x7b"
  let (names, _, cs) ←
    blockOf (within (fun s => { s with inSwitch := true }) (cases g g.bound false []))
  return .switch subject names cs

/-- Reads the label of a jump, if there is one on the line. -/
def jumpLabel : Parse (Option String) := do
  if !(← isFresh) && (← isName) then
    let x ← name
    unless (← get).surroundings.labels.contains x do noteLate
    return some x
  return none

/-- Reads an expression as a statement, or a statement with a label. -/
def expressionStatement (g : Grammar) : Parse Stmt := do
  let labelled ← (do
    if ← isName then return (← second?).any (·.token == .mark ":") else return false)
  if labelled then
    let x ← name
    expectMark ":"
    let s ← within (fun s => { s with labels := x :: s.labels }) g.statement
    return .labelled x s
  let e ← g.expression true
  semicolon
  return .expression e

/-- Reads a statement that begins with a word of the language. -/
def wordStatement (g : Grammar) (word : String) : Parse Stmt := do
  match word with
  | "var" =>
    advance
    declaration g .variable
  | "let" =>
    advance
    declaration g .changeable
  | "const" =>
    advance
    declaration g .constant
  | "function" =>
    advance
    functionDeclaration g false
  | "async" =>
    if ← followedBy (.name "function" false) then
      advance
      advance
      functionDeclaration g true
    else expressionStatement g
  | "class" =>
    advance
    classDeclaration g
  | "if" =>
    advance
    expectMark "("
    let c ← g.expression true
    expectMark ")"
    let yes ← g.statement
    let no ← if ← acceptWord "else" then g.statement else pure .empty
    return .branch c yes no
  | "for" =>
    advance
    let isAwaited ← if (← get).surroundings.isAsync then acceptWord "await" else pure false
    expectMark "("
    let (names, captured, s) ← blockOf (forRest g isAwaited)
    return withFresh names captured s
  | "while" =>
    advance
    expectMark "("
    let test ← g.expression true
    expectMark ")"
    return .whileDo test (← inLoop g.statement)
  | "do" =>
    advance
    let body ← inLoop g.statement
    expectWord "while"
    expectMark "("
    let test ← g.expression true
    expectMark ")"
    let _ ← acceptMark ";"
    return .doWhile body test
  | "return" =>
    advance
    let ends := (← isMark ";") || (← isMark "\x7d") || (← isFresh) || (← peek) == .finish
    let e ← if ends then pure .hole else g.expression true
    semicolon
    return .returns e
  | "break" =>
    advance
    let label ← jumpLabel
    let s := (← get).surroundings
    if label.isNone && !s.inLoop && !s.inSwitch then noteLate
    semicolon
    return .breaks label
  | "continue" =>
    advance
    let label ← jumpLabel
    if !(← get).surroundings.inLoop then noteLate
    semicolon
    return .continues label
  | "throw" =>
    advance
    if ← isFresh then fail
    let e ← g.expression true
    semicolon
    return .throws e
  | "try" =>
    advance
    guarded g
  | "switch" =>
    advance
    switch g
  | "debugger" =>
    advance
    semicolon
    return .empty
  | _ => expressionStatement g

def statementBody (g : Grammar) : Parse Stmt := do
  match ← peek with
  | .mark "\x7b" => block g
  | .mark ";" =>
    advance
    return .empty
  | .name x false => wordStatement g x
  | _ => expressionStatement g

end Grammar

/-! ## The grammar as a whole -/

/-- Readers of parts nested up to a depth. -/
def grammar : Nat → Grammar
  | 0 =>
    { bound := 0
      expression := fun _ => Parse.fail
      assignment := fun _ => Parse.fail
      binary := fun _ _ => Parse.fail
      unary := Parse.fail
      binder := Parse.fail
      statement := Parse.fail
      function := fun _ => Parse.fail }
  | n + 1 =>
    { bound := n
      expression := fun allowIn st => (grammar n).expressionBody allowIn st
      assignment := fun allowIn st => (grammar n).assignmentBody allowIn st
      binary := fun allowIn least st => (grammar n).binaryBody allowIn least st
      unary := fun st => (grammar n).unaryBody st
      binder := fun st => (grammar n).binderBody st
      statement := fun st => (grammar n).statementBody st
      function := fun form st => (grammar n).functionBody form st }

/-- Reads a text as a script. Every level of nesting takes a character at least. -/
def read (text : List Char) : Except ScriptFault (List Stmt) :=
  let depth := 4 * text.length + 40
  let isFinish : Parse Bool := do return (← Parse.peek) == .finish
  match Reader.next (.ofText text) with
  | .error fault => .error fault
  | .ok look =>
    match (grammar depth).statements isFinish depth [] { look } with
    | .error fault _ => .error fault
    | .ok body st => if st.pending != 0 || st.late || !st.hiddenUses.isEmpty then .error .malformed else .ok body

end Script
end Restyle
