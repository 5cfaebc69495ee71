import Restyle.Editor.Screen
import Restyle.Session.Template
import Restyle.Session.Tools

/-!
# Restyle.Editor.Gesture

What a user does to the window: clicking, typing and pressing keys. After each gesture the
window comes to rest: time passes for the session, and the fields of the popover are filled anew
if another element is selected. Otherwise the fields keep what was typed.
-/

namespace Restyle
namespace Editor

variable {γ : Type}

/-- Fills the fields if another element is selected than they were filled for. -/
def fillFields (e : Editor γ) : Editor γ :=
  let path := e.session.selection.map (·.path)
  if path == e.fieldsFor then e
  else
    let fields := match e.session.currentStyles with
      | some styles => Property.all.map fun p => (p, styles.value p)
      | none => []
    { e with fields, fieldsFor := path }

/-- Lets the window come to rest. -/
def settle (e : Editor γ) (now : Nat) : Editor γ :=
  fillFields { e with session := (e.session.tick e.tools now).session }

/-- Opens the window on a session. -/
def start (session : Session γ) (tools : Tools γ) (filename : String) : Editor γ :=
  fillFields { session, tools, filename }

/-- Opens the window on a source under some settings. -/
def ofSource (config : Config) (source : String) : Editor Compiled :=
  start (Session.start config.tools config.guardMillis source) config.tools config.filename

/-- Runs an operation of the session. -/
def change (e : Editor γ) (f : Session γ → Change γ) : Editor γ :=
  { e with session := (f e.session).session }

/-- A click on the preview or beside it. -/
def clickPreview (e : Editor γ) (target : Option Handle) (alt : Bool) : Editor γ :=
  e.change (·.click e.tools { target, x := 0, y := 0, alt })

/-- A click on a place. Outside the preview and the popover it closes the popover. -/
def click (e : Editor γ) (spot : Spot) (alt : Bool) (now : Nat) : Editor γ :=
  let e := { e with focus := .nowhere }
  let outside := e.clickPreview none false
  match spot with
  | .status | .heading => outside.settle now
  | .clearButton => ((outside.settle now).change (·.clearOverrides e.tools)).settle now
  | .source => { outside with focus := .source }.settle now
  | .preview target => (e.clickPreview target alt).settle now
  | .popover => e
  | .closeButton => (e.change (·.clearSelection)).settle now
  | .field p => { e with focus := .field p }

/-- A click on an empty spot of the preview. -/
def clickBlank (e : Editor γ) (alt : Bool) (now : Nat) : Editor γ := e.click (.preview none) alt now

/-- Changes the text of a field of the popover. -/
def changeField (e : Editor γ) (p : Property) (text : String) (now : Nat) : Editor γ :=
  let fields := (p, text) :: e.fields.filter (·.1 != p)
  ({ e with fields }.change (·.updateStyle e.tools p text now)).settle now

/-- Replaces the text of a field that is clicked; an empty field is not emptied again. -/
def fill (e : Editor γ) (spot : Spot) (text : String) (now : Nat) : Editor γ :=
  match spot with
  | .field p =>
    let e := e.click spot false now
    if text.isEmpty && (e.fieldText p).isEmpty then e else e.changeField p text now
  | spot => e.click spot false now

/-- Replaces the source. -/
def edit (e : Editor γ) (source : String) (now : Nat) : Editor γ :=
  ((e.click .source false now).change (·.setSource e.tools source)).settle now

/-- Types a character at the end of what has the focus. -/
def typeChar (now : Nat) (e : Editor γ) (c : Char) : Editor γ :=
  match e.focus with
  | .nowhere => e
  | .source => (e.change (·.setSource e.tools (e.session.source.push c))).settle now
  | .field p =>
    if e.session.selection.isSome && e.session.popover.isSome then
      e.changeField p ((e.fieldText p).push c) now
    else e

def typeText (e : Editor γ) (text : String) (now : Nat) : Editor γ :=
  text.toList.foldl (typeChar now) e

def escape (e : Editor γ) (now : Nat) : Editor γ :=
  ({ e with focus := .nowhere }.change (·.press .escape)).settle now

/-- The program is left. -/
def leave (e : Editor γ) (now : Nat) : Editor γ := (e.change (·.unmount)).settle now

end Editor
end Restyle
