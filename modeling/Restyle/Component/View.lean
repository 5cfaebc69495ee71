import Restyle.Component.Render
import Restyle.Component.Toolkit

/-!
# Restyle.Component.View

The values of scripts as the renderer sees them.

* `View.surface` — the surface of these values.
* `View.thrownText` — what is said of a thrown value that nothing catches.
-/

namespace Restyle
namespace Component
namespace View

open Script Script.Run

/-- The host that runs functions when a number of frames is left. -/
def host (left : Nat) : Script.Host := Engine.host Toolkit.body left

/-- Throws an error with a message. -/
def failure {α : Type} (message : Utf16) : Run α := do
  let e ← newObject (Ref.errorProto .plain) (.error .plain) #[("message", .quiet (.string message))]
  throw (.thrown e)

variable (h : Script.Host)

def content (v : Value) : Run (Content Value) := do
  match v with
  | .undefined | .null | .boolean _ => return .nothing
  | .string s => return .text s
  | .number x => return .text (Numeral.text x)
  | .bigint n => return .text (toString n)
  | .symbol _ => return .invalid
  | .object _ =>
    if ← isArray v then return .items (← listItems h v)
    if ← isCallable v then return .function
    if ← Toolkit.isMarked h v Ref.elementMark then
      return .element (← getName h v "type") (← getName h v "props")
    return .invalid

def kind (type : Value) : Run (ElementKind Value) := do
  match type with
  | .string s => return .host s
  | .object ref =>
    if ref == Ref.fragmentMark then return .fragment
    if ← isCallable type then return .component
    match ← getName h type "$$typeof" with
    | .object mark =>
      if mark == Ref.providerMark then return .provider (← getName h type "context")
      if mark == Ref.consumerMark then return .consumer (← getName h type "context")
      if mark == Ref.memoMark then return .memo (← getName h type "type")
      if mark == Ref.forwardMark then return .forward
      return .invalid
    | _ => return .invalid
  | _ => return .invalid

def datum (v : Value) : Run Datum := do
  match v with
  | .undefined | .null => return .nothing
  | .boolean b => return .truth b
  | .number x => return .number (x == 0.0) (Numeral.text x)
  | .string s => return .text s
  | .bigint _ | .symbol _ => return .other
  | .object _ => return if ← isCallable v then .function else .object

def keys (v : Value) : Run (List Utf16) := do
  return (← keysAlong h v).filterMap fun
    | .name s => some s
    | _ => none

def owns (v : Value) (k : Utf16) : Run Bool := do
  match v with
  | .object ref => hasOwn h ref (.name k)
  | _ => return true

def text (left : Nat) (v : Value) : Run Utf16 := do
  if left == 0 then throw .limit
  match ← Library.construct (host left) "String" [v] .undefined with
  | .string s => return s
  | _ => return ""

/-- Makes an object of a class and asks it for its content. -/
def runClass (left : Nat) (type props : Value) : Run Value := do
  let h := host left
  let instance' ← h.construct type [props] type
  setProp h instance' "props" props
  let derive ← getName h type "getDerivedStateFromProps"
  if ← isCallable derive then
    let derived ← h.call derive type [props, ← getName h instance' "state"]
    if derived.truthy then
      if left == 0 then throw .limit
      let state ← getName h instance' "state"
      let merged ← plainObject []
      match merged with
      | .object ref =>
        copyProps h ref state []
        copyProps h ref derived []
      | _ => pure ()
      setProp h instance' "state" merged
  callValue h (← getName h instance' "render") instance' []

def run (left : Nat) (type props : Value) : Run Value := do
  let h := host left
  let proto ← getName h type "prototype"
  let isClass ← if proto.truthy then do pure (← getName h proto "isReactComponent").truthy
    else pure false
  if isClass then runClass left type props else h.call type .undefined [props]

def forwarded (left : Nat) (type props : Value) : Run Value := do
  callValue (host left) (← getName (host left) type "render") type [props, .null]

def consumed (left : Nat) (props value : Value) : Run (Option Value) := do
  let f ← getName (host left) props "children"
  if ← isCallable f then return some (← (host left).call f props [value])
  return none

def rawMarkup (props : Value) : Run (Option Value) := do
  let inner ← getName h props "dangerouslySetInnerHTML"
  if !inner.truthy then return none
  let markup ← getName h inner "__html"
  return if markup.isNullish then none else some markup

def describe (left : Nat) (v : Value) : Run Utf16 := do
  match v with
  | .null => return "null"
  | v =>
    if left < 2 then throw .limit
    match v with
    | .object ref =>
      if ← isArray v then return "array"
      if ← isCallable v then return "function"
      let names := (← listedKeys (host left) ref).filterMap fun
        | .name s => some s
        | _ => none
      return "object with keys \x7b" ++ Utf16.join ", " names ++ "\x7d"
    | v => return ← typeWord v

/-- The values of scripts; `h` runs getters. -/
def surface : Surface Run Value where
  content := content h
  kind := kind h
  datum := datum
  keys := keys h
  owns := owns h
  field v k := getProp h v (.name k)
  text := text
  run := run
  forwarded := forwarded
  consumed := consumed
  rawMarkup := rawMarkup h
  current context := getName h context "currentValue"
  provide context v := setProp h context "currentValue" v
  afterwards := andFinally
  frame := framed
  round := countRound
  exceeded := throw .limit
  fail := failure
  describe := describe

/-! ## Thrown values -/

/-- How deeply the text of a thrown value goes into objects. -/
def textDepth : Nat := 20

/-- A name at the right end of a number of columns. -/
def alignRight (width : Nat) (s : String) : String :=
  String.ofList (List.replicate (width - s.length) ' ') ++ s

/-- The text of a value with its properties, which are indented. -/
def display (width : Nat) : Nat → Value → Run String
  | 0, _ => return "[Cycle]"
  | depth + 1, v => do
    match v with
    | .string s => return "\"" ++ s.spell ++ "\""
    | .bigint n => return toString n ++ "n"
    | .symbol _ => return (← Library.construct (host 0) "String" [v] .undefined |> textOf)
    | .object ref =>
      let o ← obj ref
      match o.items? with
      | some (items, _) =>
        if items.isEmpty then return "[]"
        let parts ← items.toList.mapM fun x => display width depth (x.getD .undefined)
        return "[ " ++ ", ".intercalate parts ++ " ]"
      | none =>
        let parts ← (o.props.toList.filter (!·.1.isHidden)).mapM fun (k, slot) => do
          let shown ← match slot.content with
            | .data v => display (width + 4) depth v
            | .accessor .. => pure "[accessor]"
          return alignRight width (← keyName k).spell ++ ": " ++ shown
        return "\x7b\n" ++ ",\n".intercalate parts ++ "\n" ++ alignRight (width - 4) "" ++ "\x7d"
    | .number x => return if x == 0.0 && Numeral.isNegative x then "-0" else Numeral.text x
    | v => return (← primitiveText v).spell
where
  textOf (r : Run Value) : Run String := do
    match ← r with
    | .string s => return s.spell
    | _ => return ""

/-- What is said of an error: its kind and its message. -/
def errorText (kind : ErrorKind) (v message : Value) : Run String := do
  match message with
  | .string (.whole s) =>
    let s := Text.trim s
    return if s.isEmpty then kind.name else kind.name ++ ": " ++ s
  | message =>
    let part (v : Value) : Run String := do
      match v with
      | .string s => return s.spell
      | v => display 4 textDepth v
    let name ← part (← getName h v "name")
    let said ← part message
    return if name.isEmpty then said else if said.isEmpty then name else name ++ ": " ++ said

/-- What is said of a thrown value. -/
def thrownText (v : Value) : Run String := do
  match v with
  | .object ref =>
    match (← obj ref).kind with
    | .error kind =>
      let message ← if ← hasProperty h ref "message" then getName h v "message" else pure (.text "")
      errorText h kind v message
    | _ => display 4 textDepth v
  | v => display 4 textDepth v

/-- What is said when a limit was exceeded. -/
def limitText : String := "RuntimeLimit: exceeded"

/-- What is said of a run that stopped early. -/
def stopText (stop : Script.Stop) (m : Machine) : String :=
  match stop with
  | .thrown v =>
    match (thrownText h v).run m with
    | .ok s _ => s
    | .error _ _ => "Error"
  | _ => limitText

end View
end Component
end Restyle
