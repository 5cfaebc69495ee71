import Restyle.Component.View
import Restyle.Config.Basic
import Restyle.Markup.Reader
import Restyle.Script.Grammar.Statement
import Restyle.Source.Lowering
import Restyle.Source.ModuleForm

/-!
# Restyle.Component.Compile

From source to a component, and from a component to markup.

* `compile` — reads source and runs it once; the result holds the component function.
* `Compiled.renderMarkup` — the markup of one rendering. What the script has stored meanwhile is
  there in the next one.
* `Compiled.render` — the document for that markup.
-/

namespace Restyle

open Script (Machine Run Value Utf16)

/-- A component that can be rendered. -/
structure Compiled where
  /-- The name that the source gives it. -/
  name : String
  value : Value
  machine : Machine

namespace Component

def boundsOf (l : Limits) : Script.Bounds := ⟨l.recursion, l.stack, l.iterations⟩

/-- The function around the body of a module. It begins on a line of its own. -/
def wrap (m : Source.ModuleBody) : String :=
  "(function (" ++ ", ".intercalate Toolkit.parameterNames ++ ") \x7b \"use strict\";\n" ++ m.body ++
    "\n;return " ++ m.component ++ ";\n\x7d)"

/-- The position in the body of a module for a position in the text of the function. -/
def bodyPlace (fault : Script.ScriptFault) : Nat × Nat :=
  match fault with
  | .unexpected place => (max (place.line - 1) 1, place.column - 1)
  | .malformed => (1, 0)

/-- Runs statements for the value of the last one. -/
def evaluate (h : Script.Host) : List Script.Stmt → Run Value
  | [] => return .undefined
  | [.expression e] => Script.Run.expr h Script.Realm.outermost e
  | s :: rest => do
    let _ ← Script.Run.stmts h Script.Realm.outermost [s]
    evaluate h rest

/-- Frames that preparing a component takes. -/
def framesToStart : Nat := 3

/-- Runs the script of a module: the value that it gives as its component. -/
def instantiate (frames : Nat) (script : List Script.Stmt) : Run Value := do
  let factory ← evaluate (View.host (frames - 1)) script
  if frames < framesToStart then throw .limit
  let arguments ← Toolkit.make (View.host (frames - 1))
  Script.Run.framed 1 (Script.Run.callValue (View.host (frames - 1)) factory .undefined arguments)

/-- Renders a component without properties. -/
def renderOnce (frames : Nat) (component : Value) : Run (List Rendered) := do
  modify fun m => { m with identifiers := 0 }
  if frames < 2 then throw .limit
  Script.Run.framed 1 do
    let h := View.host (frames - 1)
    let element ← h.call (← Toolkit.helper "createElement") .undefined [component, .null]
    (View.surface h).renderNode (frames - 1) element

/-- Runs from a machine; an error that stops the run is given as text. -/
def outcome {α : Type} (run : Run α) (m : Machine) : Except String α × Machine :=
  match run.run m with
  | .ok a m => (.ok a, m)
  | .error stop m => (.error (View.stopText (View.host m.bounds.frames) stop m), m)

/-- Is the value a function? -/
def isFunction (v : Value) (m : Machine) : Bool :=
  match (Script.Run.isCallable v).run m with
  | .ok b _ => b
  | .error .. => false

def isTooLong (config : Config) (source : String) : Bool :=
  source.utf8ByteSize > config.maxSourceBytes

def tooLong (config : Config) (source : String) : String :=
  "Source is " ++ toString source.utf8ByteSize ++ " bytes; the limit is " ++
    toString config.maxSourceBytes ++ " bytes"

/-- The script of a module: its source without types and markup, read as a script. -/
def scriptOf (config : Config) (m : Source.ModuleBody) : Except EditorError (List Script.Stmt) :=
  match Source.lower m.body (.ofFilename config.filename) with
  | .error e =>
    let (line, column) := Source.lineColumn m.body e.offset
    .error (.source e.fault.message line column)
  | .ok body =>
    match Script.read (wrap { m with body }).toList with
    | .ok script => .ok script
    | .error fault =>
      let (line, column) := bodyPlace fault
      .error (.source "SyntaxError: unexpected token" line column)

/-- Runs the script of a module and keeps the component that it gives. -/
def start (config : Config) (name : String) (script : List Script.Stmt) :
    Except EditorError Compiled :=
  match outcome (instantiate config.limits.recursion script)
      (Script.Realm.start (boundsOf config.limits)) with
  | (.error e, _) => .error (.compile e)
  | (.ok value, machine) =>
    if isFunction value machine then .ok { name, value, machine }
    else .error (.compile "Component is not a function")

def compile (config : Config) (source : String) : Except EditorError Compiled :=
  if isTooLong config source then .error (.compile (tooLong config source))
  else
    match Source.normalize source with
    | none => .error (.compile Source.noDefaultExport)
    | some m =>
      match scriptOf config m with
      | .error e => .error e
      | .ok script => start config m.component script

end Component

namespace Compiled

/-- Renders once: the markup, and the component for the next time. -/
def renderMarkup (c : Compiled) : Except EditorError String × Compiled :=
  match c with
  | { name, value, machine } =>
    let frames := machine.bounds.frames
    match Component.outcome (Component.renderOnce frames value) machine with
    | (.ok rs, machine) => (.ok (Component.Rendered.markupAll rs).spell, { name, value, machine })
    | (.error e, machine) => (.error (.runtime e), { name, value, machine })

/-- Renders once: the document below a root of a class. -/
def render (c : Compiled) (rootClass : String) : Except EditorError Document × Compiled :=
  match c.renderMarkup with
  | (.ok markup, c) => (.ok (Document.ofMarkup markup rootClass), c)
  | (.error e, c) => (.error e, c)

end Compiled
end Restyle
