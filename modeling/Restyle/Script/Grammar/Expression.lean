import Restyle.Script.Grammar.Basic

/-!
# Restyle.Script.Grammar.Expression

Readers of expressions, from single words up to assignments.
-/

namespace Restyle
namespace Script
namespace Grammar

open Parse

/-! ## Keys, members, items -/

/-- Reads the key of a member. -/
def key (g : Grammar) : Parse Expr := do
  match ← peek with
  | .name x _ =>
    advance
    return .string x
  | .string s _ =>
    advance
    return .string s
  | .number x =>
    advance
    return .string (Numeral.text x)
  | .bigint n =>
    advance
    return .string (toString n)
  | .mark "[" =>
    advance
    let e ← g.assignment true
    expectMark "]"
    return e
  | _ => fail

/-- Reads the key of a member of a class, which may be hidden. -/
def classKey (g : Grammar) : Parse Expr := do
  match ← peek with
  | .hidden x =>
    if x == "constructor" then fail
    advance
    return .hidden x
  | _ => key g

/-- Does a key follow, so that the word before it is a modifier? -/
def keyFollows : Parse Bool := do
  match ← second? with
  | some x =>
    match x.token with
    | .name .. | .string .. | .number _ | .bigint _ | .hidden _ | .mark "[" => return true
    | _ => return false
  | none => return true

/-- Reads an item of an array or an argument list. -/
def item (g : Grammar) : Parse Expr := do
  if ← acceptMark "..." then return .spread (← g.assignment true)
  g.assignment true

/-- Reads the items of an array after its opening bracket. -/
def items (g : Grammar) : Nat → List Expr → Parse (List Expr)
  | 0, _ => fail
  | fuel + 1, out => do
    if ← acceptMark "]" then return out.reverse
    if ← acceptMark "," then return ← items g fuel (.hole :: out)
    let e ← item g
    if ← acceptMark "]" then return (e :: out).reverse
    expectMark ","
    items g fuel (e :: out)

def arguments (g : Grammar) : Parse (List Expr) := commaList (item g) ")" g.bound []

/-- Reads the parameters and body of a method. -/
def methodOf (g : Grammar) (k : Expr) (isAsync isGenerator : Bool) : Parse Func :=
  g.function { name := k.keyText, kind := .method, isAsync, isGenerator }

/-- Reads a getter after its key; it has no parameters. -/
def getterOf (g : Grammar) (k : Expr) : Parse Member := do
  if ← isMark "(" then
    match ← second? with
    | some x => if x.token != .mark ")" then throw (.unexpected x.start.place)
    | none => malformed
  return .method k .getter (← methodOf g k false false)

/-- Reads a setter after its key; it has one parameter. -/
def setterOf (g : Grammar) (k : Expr) : Parse Member := do
  let start ← second?
  let f ← methodOf g k false false
  match f, start with
  | .mk _ [_] .nothing _ _, _ => return .method k .setter f
  | _, some x => throw (.unexpected x.start.place)
  | _, none => malformed

/-- Reads a method or field that starts with its key, in an object literal. -/
def plainMember (g : Grammar) : Parse Member := do
  let word ← peek
  let isName' ← isName
  let k ← key g
  if ← isMark "(" then return .method k .ordinary (← methodOf g k false false)
  if ← acceptMark ":" then
    let e ← g.assignment true
    let proto := match word with
      | .name x _ => x == "__proto__"
      | .string s _ => s == "__proto__"
      | _ => false
    if proto then return .parent e
    return .field k (e.named k.keyText)
  match word with
  | .name x _ =>
    if !isName' then fail
    if x == "arguments" then modify fun st => { st with usesArguments := true }
    if ← acceptMark "=" then
      let e ← g.assignment true
      modify fun st => { st with pending := st.pending + 1 }
      return .nameDefault x (e.named x)
    return .field k (.name x)
  | _ => fail

/-- Reads a member of an object literal. -/
def objectMember (g : Grammar) : Parse Member := do
  if ← acceptMark "..." then return .spread (← g.assignment true)
  if ← acceptMark "*" then
    let k ← key g
    return .method k .ordinary (← methodOf g k false true)
  match ← peek with
  | .name "get" false =>
    if ← keyFollows then
      advance
      getterOf g (← key g)
    else plainMember g
  | .name "set" false =>
    if ← keyFollows then
      advance
      setterOf g (← key g)
    else plainMember g
  | .name "async" false =>
    let star := match ← second? with
      | some x => x.token == .mark "*"
      | none => false
    if star || (← keyFollows) then
      advance
      let isGenerator ← acceptMark "*"
      let k ← key g
      return .method k .ordinary (← methodOf g k true isGenerator)
    plainMember g
  | _ => plainMember g

/-! ## Templates -/

/-- Reads the rest of a template after its first piece: values, and the texts after them. -/
def templateRest (g : Grammar) : Nat → List Expr → List (Option Utf16 × Utf16) →
    Parse (List Expr × List (Option Utf16 × Utf16))
  | 0, _, _ => fail
  | fuel + 1, values, texts => do
    let e ← g.expression true
    unless ← isMark "\x7d" do fail
    match Reader.template (← get).look with
    | .error fault => throw fault
    | .ok look =>
      modify fun st => { st with look }
      match look.token with
      | .template cooked raw last =>
        advance
        let values := e :: values
        let texts := (cooked, raw) :: texts
        if last then return (values.reverse, texts.reverse)
        templateRest g fuel values texts
      | _ => fail

/-- Reads a template: its texts, then its values. -/
def template (g : Grammar) : Parse (List (Option Utf16 × Utf16) × List Expr) := do
  match ← peek with
  | .template cooked raw last =>
    advance
    if last then return ([(cooked, raw)], [])
    let (values, texts) ← templateRest g g.bound [] []
    return ((cooked, raw) :: texts, values)
  | _ => fail

/-- Reads a template that stands alone; its escapes must be well-formed. -/
def templateText (g : Grammar) : Parse Expr := do
  let (texts, values) ← template g
  match texts.mapM (·.1) with
  | some (first :: rest) => return .template first values rest
  | _ => malformed

/-! ## Classes -/

/-- A function whose body is one expression. -/
def bodyOf (name : String) (usesArguments : Bool) (e : Expr) : Func :=
  .mk { name, kind := .method, isAsync := false, isGenerator := false, ownName := false,
        usesArguments, arity := 0, varNames := [] } [] .nothing [] [.returns e]

/-- Reads a field of a class after its key. -/
def classField (g : Grammar) (k : Expr) : Parse Member := do
  if ← acceptMark "=" then
    let e ← within (fun s => { s with isAsync := false, isGenerator := false }) (g.assignment true)
    semicolon
    return .field k (.function (bodyOf k.keyText false (e.named k.keyText)))
  semicolon
  return .field k .hole

/-- Reads a method or field of a class that starts with its key. -/
def classPlain (g : Grammar) (isAsync isGenerator : Bool) : Parse Member := do
  let k ← classKey g
  if isAsync || isGenerator || (← isMark "(") then
    return .method k .ordinary (← methodOf g k isAsync isGenerator)
  classField g k

/-- Reads a member of a class after `static`, if that is there. -/
def classMember (g : Grammar) : Parse Member := do
  if ← acceptMark "*" then return ← classPlain g false true
  match ← peek with
  | .name "get" false =>
    if ← keyFollows then
      advance
      getterOf g (← classKey g)
    else classPlain g false false
  | .name "set" false =>
    if ← keyFollows then
      advance
      setterOf g (← classKey g)
    else classPlain g false false
  | .name "async" false =>
    let star := match ← second? with
      | some x => x.token == .mark "*" && !x.fresh
      | none => false
    let freshKey := match ← second? with
      | some x => x.fresh
      | none => false
    if star || ((← keyFollows) && !freshKey) then
      advance
      let isGenerator ← acceptMark "*"
      classPlain g true isGenerator
    else classPlain g false false
  | _ => classPlain g false false

/-- Does a member of a class use up the name of a hidden member that another one has? A getter and
a setter may share one, if both belong to the class or both to its objects. -/
def clashes (a b : Member) : Bool :=
  match a, b with
  | .shared (.method _ .getter _), .shared (.method _ .setter _)
  | .shared (.method _ .setter _), .shared (.method _ .getter _)
  | .method _ .getter _, .method _ .setter _
  | .method _ .setter _, .method _ .getter _ => false
  | a, b => (Member.hiddenNames [a]).any (Member.hiddenNames [b]).contains

/-- Reads the members of a class up to the closing brace. -/
def classMembers (g : Grammar) (derived : Bool) : Nat → Expr → List Member →
    Parse (Expr × List Member)
  | 0, _, _ => fail
  | fuel + 1, make, out => do
    if ← acceptMark "\x7d" then return (make, out.reverse)
    if ← acceptMark ";" then return ← classMembers g derived fuel make out
    let start ← place
    let marks := match ← second? with
      | some x => [Token.mark "(", .mark "=", .mark ";", .mark "\x7d"].contains x.token
      | none => false
    let add (m : Member) : Parse (List Member) := do
      if out.any (clashes m) then throw (.unexpected start)
      return m :: out
    if (← isWord "static") && !marks then
      advance
      if ← isMark "\x7b" then
        let f ← g.function { name := "", kind := .method, hasParams := false }
        classMembers g derived fuel make (.shared (.block f) :: out)
      else
        let m ← classMember g
        classMembers g derived fuel make (← add (.shared m))
    else if (← isWord "constructor") && (← second?).any (·.token == .mark "(") then
      advance
      match make with
      | .hole =>
        let f ← g.function
          { name := "constructor", kind := if derived then .derivedConstructor else .baseConstructor }
        classMembers g derived fuel (.function f) out
      | _ => throw (.unexpected start)
    else
      let m ← classMember g
      classMembers g derived fuel make (← add m)

/-- Reads a class after its name. Hidden members that are used in it are members of it, or of a
class around it. -/
def classRest (g : Grammar) (name : Option String) (heritage : Parse Expr) : Parse Expr := do
  let parent ← if ← acceptWord "extends" then heritage else pure .hole
  expectMark "\x7b"
  let derived := match parent with
    | .hole => false
    | _ => true
  let outer := (← get).hiddenUses
  modify fun st => { st with functions := st.functions + 1, hiddenUses := [] }
  let (make, members) ← classMembers g derived g.bound .hole []
  let own := Member.hiddenNames members
  modify fun st => { st with hiddenUses := st.hiddenUses.filter (!own.contains ·) ++ outer }
  return .classOf name parent make members

/-! ## Primary expressions -/

/-- Reads a function expression after its keyword. -/
def functionExpression (g : Grammar) (isAsync : Bool) : Parse Expr := do
  let isGenerator ← acceptMark "*"
  if ← isMark "(" then
    return .function (← g.function { name := "", kind := .plain, isAsync, isGenerator })
  let name ← declaredName
  return .function
    (← g.function { name, kind := .plain, isAsync, isGenerator, ownName := true })

/-- Is the word ahead followed by another on the same line? -/
def followedBy (t : Token) : Parse Bool := do
  return (← second?).any fun x => x.token == t && !x.fresh

/-- Reads an expression that no operator is part of. -/
def primary (g : Grammar) (heritage : Parse Expr) : Parse Expr := do
  match ← peek with
  | .number x =>
    advance
    return .number x
  | .bigint n =>
    advance
    return .bigint n
  | .string s _ =>
    advance
    return .string s
  | .template .. => templateText g
  | .mark "(" =>
    advance
    let e ← g.expression true
    expectMark ")"
    return e
  | .mark "[" =>
    advance
    return .array (← items g g.bound [])
  | .mark "\x7b" =>
    advance
    return .object (← commaList (objectMember g) "\x7d" g.bound [])
  | .mark m =>
    if m == "/" || m == "/=" then
      match Reader.regex (← get).look with
      | .error fault => throw fault
      | .ok look =>
        modify fun st => { st with look }
        match look.token with
        | .regex body flags =>
          advance
          return .regex body flags
        | _ => fail
    else fail
  | .name x false =>
    match x with
    | "this" =>
      advance
      return .this
    | "null" =>
      advance
      return .null
    | "true" =>
      advance
      return .boolean true
    | "false" =>
      advance
      return .boolean false
    | "function" =>
      advance
      functionExpression g false
    | "class" =>
      advance
      if (← isMark "\x7b") || (← isWord "extends") then classRest g none heritage
      else
        let name ← declaredName
        classRest g (some name) heritage
    | "async" =>
      if ← followedBy (.name "function" false) then
        advance
        advance
        functionExpression g true
      else
        advance
        return .name x
    | _ =>
      unless ← isName do fail
      if x == "arguments" then modify fun st => { st with usesArguments := true }
      advance
      return .name x
  | .name x true =>
    unless ← isName do fail
    advance
    return .name x
  | _ => fail

/-! ## Members and calls -/

/-- Reads what follows a point: the key of a member. -/
def memberKey : Parse Expr := do
  match ← peek with
  | .name x _ =>
    advance
    return .string x
  | .hidden x =>
    useHidden x
    advance
    return .hidden x
  | _ => fail

/-- Reads members, and calls if they are allowed, after an expression; whether one of them is
optional. -/
def suffixes (g : Grammar) (calls : Bool) : Nat → Expr → Bool → Parse (Expr × Bool)
  | 0, _, _ => fail
  | fuel + 1, e, optional => do
    match ← peek with
    | .mark "." =>
      advance
      let k ← memberKey
      suffixes g calls fuel (.member false e k) optional
    | .mark "[" =>
      advance
      let k ← g.expression true
      expectMark "]"
      suffixes g calls fuel (.member false e k) optional
    | .mark "(" =>
      if calls then
        advance
        let args ← arguments g
        suffixes g calls fuel (.call false e args) optional
      else return (e, optional)
    | .mark "?." =>
      if !calls then fail
      advance
      match ← peek with
      | .mark "(" =>
        advance
        let args ← arguments g
        suffixes g calls fuel (.call true e args) true
      | .mark "[" =>
        advance
        let k ← g.expression true
        expectMark "]"
        suffixes g calls fuel (.member true e k) true
      | _ =>
        let k ← memberKey
        suffixes g calls fuel (.member true e k) true
    | .template .. =>
      if optional then fail
      let site := (← get).look.start.left
      let (texts, values) ← template g
      suffixes g calls fuel (.tagged site e texts values) optional
    | _ => return (e, optional)

/-- Reads what follows `super`. -/
def superRest (g : Grammar) : Parse Expr := do
  if ← acceptMark "(" then return .superCall (← arguments g)
  if ← acceptMark "." then return .superMember (← memberKey)
  expectMark "["
  let k ← g.expression true
  expectMark "]"
  return .superMember k

/-- Reads what `new` applies to, after as many `new`. -/
def construction (g : Grammar) (heritage : Parse Expr) : Nat → Parse Expr
  | 0 => fail
  | fuel + 1 => do
    if ← acceptMark "." then
      unless ← isWord "target" do fail
      advance
      return .newTarget
    let callee ←
      if ← acceptWord "new" then construction g heritage fuel
      else if ← acceptWord "super" then superRest g
      else primary g heritage
    let (callee, _) ← suffixes g false g.bound callee false
    if ← acceptMark "(" then return .construct callee (← arguments g)
    return .construct callee []

/-- Reads members and calls of a primary expression. -/
def leftHandSide (g : Grammar) : Nat → Parse Expr
  | 0 => fail
  | fuel + 1 => do
    let heritage := leftHandSide g fuel
    let e ←
      if ← acceptWord "new" then construction g heritage g.bound
      else if ← acceptWord "super" then superRest g
      else primary g heritage
    let (e, optional) ← suffixes g true g.bound e false
    return if optional then .chain e else e

/-! ## Operators -/

/-- Can the expression be stepped or updated? -/
def isSimpleTarget : Expr → Bool
  | .name x => !isFixedName x
  | .member false _ _ | .superMember _ => true
  | _ => false

def stepOf (up before : Bool) (e : Expr) : Parse Expr :=
  if isSimpleTarget e then return .step up before e else malformed

/-- Reads an expression with steps after it. -/
def postfixed (g : Grammar) : Parse Expr := do
  let e ← leftHandSide g g.bound
  if !(← isFresh) then
    if ← isMark "++" then
      let e ← stepOf true false e
      advance
      return e
    if ← isMark "--" then
      let e ← stepOf false false e
      advance
      return e
  return e

/-- Reads an expression with operators before it. -/
def unaryBody (g : Grammar) : Parse Expr := do
  match ← peek with
  | .mark "!" =>
    advance
    return .unary .not (← g.unary)
  | .mark "-" =>
    advance
    return .unary .minus (← g.unary)
  | .mark "+" =>
    advance
    return .unary .plus (← g.unary)
  | .mark "~" =>
    advance
    return .unary .complement (← g.unary)
  | .mark "++" =>
    advance
    stepOf true true (← g.unary)
  | .mark "--" =>
    advance
    stepOf false true (← g.unary)
  | .name "typeof" false =>
    advance
    return .typeOf (← g.unary)
  | .name "void" false =>
    advance
    return .unary .discard (← g.unary)
  | .name "delete" false =>
    advance
    match ← g.unary with
    | .name _ | .member _ _ (.hidden _) | .chain (.member _ _ (.hidden _)) => malformed
    | e => return .delete e
  | .name "await" false =>
    if (← get).surroundings.isAsync then
      advance
      return .await (← g.unary)
    postfixed g
  | .hidden x =>
    useHidden x
    advance
    unless ← isWord "in" do fail
    return .hidden x
  | _ => postfixed g

/-- Reads an operand of binary operators. A power may not start with an operator. -/
def operand (g : Grammar) : Parse Expr := do
  let prefixed := match ← peek with
    | .mark m => ["!", "-", "+", "~"].contains m
    | .name x false => ["typeof", "void", "delete"].contains x
    | _ => false
  let e ← unaryBody g
  if prefixed then return e
  if ← acceptMark "**" then return .binary .power e (← g.binary true 12)
  return e

/-- Operators between two expressions and how strongly they bind. -/
def binaryOps : List (String × Nat × BinaryOp) :=
  [("|", 4, .bitOr), ("^", 5, .bitXor), ("&", 6, .bitAnd), ("==", 7, .equal), ("!=", 7, .unequal),
    ("===", 7, .same), ("!==", 7, .different), ("<", 8, .less), ("<=", 8, .lessEqual),
    (">", 8, .greater), (">=", 8, .greaterEqual), ("<<", 9, .shiftLeft), (">>", 9, .shiftRight),
    (">>>", 9, .shiftRightUnsigned), ("+", 10, .add), ("-", 10, .sub), ("*", 11, .mul),
    ("/", 11, .div), ("%", 11, .rem)]

def logicalOps : List (String × Nat × LogicalOp) :=
  [("??", 1, .coalesce), ("||", 2, .or), ("&&", 3, .and)]

/-- An operator and how strongly it binds. -/
def operator? (allowIn : Bool) (t : Token) : Option (Nat × (BinaryOp ⊕ LogicalOp)) :=
  match t with
  | .mark m =>
    match binaryOps.lookup m with
    | some (n, op) => some (n, .inl op)
    | none => (logicalOps.lookup m).map fun (n, op) => (n, .inr op)
  | .name "in" false => if allowIn then some (8, .inl .within) else none
  | .name "instanceof" false => some (8, .inl .isInstance)
  | _ => none

/-- Is an expression without parentheses made by `&&` or `||`? -/
inductive Mixed where
  | neither | junction | coalescence
  deriving BEq

/-- Reads operators that bind at least as strongly as a bound, and what follows them. -/
def binaryRest (g : Grammar) (allowIn : Bool) (least : Nat) :
    Nat → Mixed → Expr → Parse Expr
  | 0, _, _ => fail
  | fuel + 1, mixed, e => do
    match operator? allowIn (← peek) with
    | none => return e
    | some (n, op) =>
      if n < least then return e
      match op with
      | .inl op =>
        advance
        binaryRest g allowIn least fuel mixed (.binary op e (← g.binary allowIn (n + 1)))
      | .inr op =>
        let kind := if op == .coalesce then Mixed.coalescence else Mixed.junction
        if (mixed == .coalescence && kind == .junction) ||
            (mixed == .junction && kind == .coalescence) then fail
        advance
        let least' := if op == .coalesce then 4 else n + 1
        let e := .logical op e (← g.binary allowIn least')
        binaryRest g allowIn least fuel kind e

/-- Reads an expression whose operators bind at least as strongly as a bound. -/
def binaryBody (g : Grammar) (allowIn : Bool) (least : Nat) : Parse Expr := do
  let e ← operand g
  binaryRest g allowIn least g.bound .neither e

/-- Reads a conditional. -/
def conditional (g : Grammar) (allowIn : Bool) : Parse Expr := do
  let c ← g.binary allowIn 1
  if ← acceptMark "?" then
    let a ← g.assignment true
    expectMark ":"
    let b ← g.assignment allowIn
    return .conditional c a b
  return c

/-! ## Assignments -/

def assignOps : List (String × AssignOp) :=
  [("+=", .binary .add), ("-=", .binary .sub), ("*=", .binary .mul), ("/=", .binary .div),
    ("%=", .binary .rem), ("**=", .binary .power), ("<<=", .binary .shiftLeft),
    (">>=", .binary .shiftRight), (">>>=", .binary .shiftRightUnsigned), ("&=", .binary .bitAnd),
    ("|=", .binary .bitOr), ("^=", .binary .bitXor), ("&&=", .logical .and), ("||=", .logical .or),
    ("??=", .logical .coalesce)]

/-- Does an arrow function start here? -/
def startsArrow (g : Grammar) : Parse Bool := do
  if ← isMark "(" then
    let found ← ahead? do
      advance
      let _ ← commaList (do
        if ← acceptMark "..." then g.binder
        else
          let t ← g.binder
          if ← acceptMark "=" then
            let _ ← g.assignment true
          return t) ")" g.bound []
      if ← isFresh then fail
      unless ← isMark "=>" do fail
    return found.isSome
  if ← isName then followedBy (.mark "=>") else return false

/-- Reads `yield` and what it yields. -/
def yieldRest (g : Grammar) (allowIn : Bool) : Parse Expr := do
  if !(← isFresh) then
    if ← acceptMark "*" then return .yield true (← g.assignment allowIn)
    match ← peek with
    | .finish => return .yield false .hole
    | .mark m =>
      if [")", "]", "\x7d", ",", ";", ":"].contains m then return .yield false .hole
    | .name "in" false => return .yield false .hole
    | _ => pure ()
    return .yield false (← g.assignment allowIn)
  return .yield false .hole

/-- Reads the operator and value of an assignment to an expression, if there are any. -/
def assignRest (g : Grammar) (allowIn : Bool) (pending : Nat) (target : Expr) : Parse Expr := do
  match ← peek with
  | .mark "=" =>
    match target.target? with
    | none => malformed
    | some b =>
      modify fun st => { st with pending }
      advance
      let e ← g.assignment allowIn
      match b with
      | .name x => return .assign b (e.named x)
      | _ => return .assign b e
  | .mark m =>
    match assignOps.lookup m with
    | some op =>
      unless isSimpleTarget target do malformed
      advance
      let e ← g.assignment allowIn
      match op, target with
      | .logical _, .name x => return .update op target (e.named x)
      | _, _ => return .update op target e
    | none => return target
  | _ => return target

/-- Reads an expression that is no list of expressions. -/
def assignmentBody (g : Grammar) (allowIn : Bool) : Parse Expr := do
  if (← isWord "yield") && (← get).surroundings.isGenerator then
    advance
    return ← yieldRest g allowIn
  if ← startsArrow g then
    return .function (← g.function { name := "", kind := .arrow })
  if ← isWord "async" then
    let found ← ahead? do
      advance
      if ← isFresh then fail
      unless ← startsArrow g do fail
    if found.isSome then
      advance
      return .function (← g.function { name := "", kind := .arrow, isAsync := true })
  let pending := (← get).pending
  let e ← conditional g allowIn
  assignRest g allowIn pending e

/-- Reads further expressions after commas. -/
def commaRest (g : Grammar) (allowIn : Bool) : Nat → Expr → Parse Expr
  | 0, _ => fail
  | fuel + 1, e => do
    if ← acceptMark "," then
      commaRest g allowIn fuel (.comma e (← g.assignment allowIn))
    else return e

def expressionBody (g : Grammar) (allowIn : Bool) : Parse Expr := do
  commaRest g allowIn g.bound (← g.assignment allowIn)

/-! ## Targets of declarations -/

/-- Reads a target with a default, or without. -/
def itemBinder (g : Grammar) : Parse Binder := do
  let t ← g.binder
  if ← acceptMark "=" then return t.withDefault (← g.assignment true)
  return t

/-- Reads the items of an array target after its opening bracket. -/
def arrayBinder (g : Grammar) : Nat → List Binder → Parse Binder
  | 0, _ => fail
  | fuel + 1, out => do
    if ← acceptMark "]" then return .array out.reverse .nothing
    if ← acceptMark "," then return ← arrayBinder g fuel (.nothing :: out)
    if ← acceptMark "..." then
      let rest ← g.binder
      expectMark "]"
      return .array out.reverse rest
    let t ← itemBinder g
    if ← acceptMark "]" then return .array (t :: out).reverse .nothing
    expectMark ","
    arrayBinder g fuel (t :: out)

/-- Reads the fields of an object target after its opening brace. -/
def objectBinder (g : Grammar) : Nat → List Binder → Parse Binder
  | 0, _ => fail
  | fuel + 1, out => do
    if ← acceptMark "\x7d" then return .object out.reverse .nothing
    if ← acceptMark "..." then
      let x ← declaredName
      expectMark "\x7d"
      return .object out.reverse (.name x)
    let word ← peek
    let isName' ← isName
    let k ← key g
    let t ←
      if ← acceptMark ":" then itemBinder g
      else
        match word with
        | .name x _ =>
          if !isName' || isFixedName x then fail
          if ← acceptMark "=" then pure (Binder.withDefault (.name x) (← g.assignment true))
          else pure (.name x)
        | _ => fail
    let out := .field k t :: out
    if ← acceptMark "\x7d" then return .object out.reverse .nothing
    expectMark ","
    objectBinder g fuel out

def binderBody (g : Grammar) : Parse Binder := do
  if ← acceptMark "[" then return ← arrayBinder g g.bound []
  if ← acceptMark "\x7b" then return ← objectBinder g g.bound []
  return .name (← declaredName)

end Grammar
end Script
end Restyle
