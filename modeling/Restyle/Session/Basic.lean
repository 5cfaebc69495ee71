import Restyle.Error
import Restyle.Guard
import Restyle.Markup.Reader
import Restyle.Resolve
import Restyle.Session.Event
import Restyle.Source.Patch

/-!
# Restyle.Session.Basic

The state of an editing session, and the steps that its operations are made of.

A session works with `Tools`, which compile, render and patch. A step gives the next state and
the events that listeners are told of.

* `Session.recompile` — compiles the source anew and renders it.
* `Session.renderPreview` — renders the component and finds the selected element again.
* `Session.syncPlan` — what is to be done to bring the edits of the selected element into the
  source.
* `Session.syncSource` — does it.
-/

namespace Restyle

/-- What a session works with. Compiling is told which attempt it is. -/
structure Tools (γ : Type) where
  compile : Nat → String → Except EditorError (String × γ)
  /-- The markup of one rendering, and the component after it. -/
  render : γ → Except EditorError String × γ
  patch : String → Path → Styles → Except Source.PatchError String
  /-- The class of the root of every preview. -/
  rootClass : String
  sheet : Stylesheet.Sheet
  /-- How far below a click the popover opens. -/
  popoverOffset : Float32

/-- The selected element, and how it looked when it was selected. -/
structure Selection where
  path : Path
  element : Handle
  computed : Styles
  deriving Repr, BEq, DecidableEq

/-- Where the popover is open. -/
structure Popover where
  x : Float32
  y : Float32

/-- A compiled component. -/
structure Mounted (γ : Type) where
  name : String
  key : Nat
  value : γ

/-- A rendered preview. -/
structure Frame where
  document : Document
  key : Nat

structure Session (γ : Type) where
  source : String
  /-- Number of attempts to compile. It has no bound here; a word of 64 bits would begin again at zero
  after `2 ^ 64` attempts. -/
  attempts : Nat := 0
  overrides : Overrides := {}
  selection : Option Selection := none
  popover : Option Popover := none
  component : Option (Mounted γ) := none
  frame : Option Frame := none
  compileError : Option EditorError := none
  runtimeError : Option EditorError := none
  guard : Guard
  /-- Snapshot of the edits when the source was last patched. -/
  lastPatched : String := ""
  /-- Does a patch wait for the guard? -/
  pending : Bool := false

/-- What an operation does to a session: the session after it, the events that it emits, and
whether anything was done. -/
structure Change (γ : Type) where
  session : Session γ
  events : List Event := []
  done : Bool := true

namespace Change

variable {γ : Type}

/-- Goes on with a step; whether anything was done is said by the first. -/
def andThen (c : Change γ) (step : Session γ → Change γ) : Change γ :=
  let d := step c.session
  { session := d.session, events := c.events ++ d.events, done := c.done }

/-- The change as one that has done something. -/
def as (c : Change γ) (done : Bool) : Change γ := { c with done }

end Change

namespace Frame

def root (f : Frame) : Handle := f.document.root

/-- The preview with all edits in it. -/
def edited (f : Frame) (o : Overrides) : Frame :=
  { f with document := (f.document.applyOverrides f.root o).1 }

/-- The element that a path leads to. -/
def locate (f : Frame) (p : Path) : Option Handle := f.document.locate f.root p

end Frame

namespace Session

variable {γ : Type}

/-! ## Selection -/

/-- Closes the popover and selects nothing. -/
def clearSelection (s : Session γ) : Change γ :=
  if s.selection.isNone && s.popover.isNone then { session := s, done := false }
  else
    { session := { s with selection := none, popover := none, pending := false }
      events := [.selectionChanged none] }

/-- Finds the selected element again by its path. -/
def refreshSelection (s : Session γ) : Change γ :=
  match s.selection with
  | none => { session := s }
  | some selected =>
    match s.frame.bind (·.locate selected.path) with
    | some element => { session := { s with selection := some { selected with element } } }
    | none => s.clearSelection

/-- Selects an element of the preview and opens the popover. The root cannot be selected. -/
def select (t : Tools γ) (s : Session γ) (element : Handle) (x y : Float32) : Change γ :=
  match s.frame with
  | none => { session := s, done := false }
  | some f =>
    let path := f.document.identify element f.root
    if element == f.root || !f.document.isElement element || path.isRoot then
      { session := s, done := false }
    else
      { session := { s with
          selection := some { path, element, computed := computedStyles t.sheet f.document element }
          popover := some { x, y := y + t.popoverOffset } }
        events := [.selectionChanged (some path)] }

/-! ## Compiling and rendering -/

/-- Shows markup that was rendered. -/
def showMarkup (t : Tools γ) (s : Session γ) (key : Nat) (markup : String) : Change γ :=
  let frame : Frame := { document := Document.ofMarkup markup t.rootClass, key }
  { session := { s with frame := some (frame.edited s.overrides), runtimeError := none }
    events := [.previewRendered key] : Change γ }.andThen refreshSelection

/-- Shows that rendering failed. -/
def showFailure (s : Session γ) (key : Nat) (e : EditorError) : Change γ :=
  { session := { s with frame := none, runtimeError := some e }
    events := [.renderFailed key e.text] : Change γ }.andThen clearSelection

/-- Renders the component, if there is one. -/
def renderPreview (t : Tools γ) (s : Session γ) : Change γ :=
  match s.component with
  | none => { session := s }
  | some c =>
    match t.render c.value with
    | (.ok markup, value) =>
      { s with component := some { c with value } }.showMarkup t c.key markup
    | (.error e, value) => { s with component := some { c with value } }.showFailure c.key e

/-- Compiles the source and renders it. -/
def recompile (t : Tools γ) (s : Session γ) : Change γ :=
  let key := s.attempts + 1
  let s := { s with attempts := key, component := none, frame := none, runtimeError := none }
  match t.compile key s.source with
  | .ok (name, value) =>
    { session := { s with compileError := none, component := some { name, key, value } }
      events := [.compiled name key] : Change γ }.andThen (renderPreview t)
  | .error e =>
    { session := { s with compileError := some e }
      events := [.compileFailed e.code e.text] : Change γ }.andThen clearSelection

def replaceSource (t : Tools γ) (s : Session γ) (source : String) (origin : Origin) : Change γ :=
  { session := { s with source }
    events := [.sourceChanged origin] : Change γ }.andThen (recompile t)

/-! ## Patching -/

/-- What is to be done to bring edits into the source. -/
inductive SyncPlan where
  | nothing
  /-- The guard holds. -/
  | postpone
  /-- The same edits were patched last. -/
  | redundant
  /-- Nothing is recorded for the selected element. -/
  | unrecorded
  | patch (path : Path) (styles : Styles)
  deriving Repr, BEq, DecidableEq

def syncPlan (s : Session γ) (now : Nat) : SyncPlan :=
  match s.selection with
  | none => .nothing
  | some selected =>
    if s.overrides.isEmpty then .nothing
    else if s.guard.isEngaged now then .postpone
    else if s.overrides.snapshot == s.lastPatched then .redundant
    else
      match s.overrides.get? selected.path with
      | none => .unrecorded
      | some styles => .patch selected.path styles

/-- Patches the source and engages the guard. -/
def runPatch (t : Tools γ) (s : Session γ) (now : Nat) (path : Path) (styles : Styles) : Change γ :=
  let s := { s with guard := s.guard.engage now }
  match t.patch s.source path styles with
  | .ok source =>
    if source == s.source then { session := s, events := [.patchSkipped .redundant] }
    else
      { session := s, events := [.patchApplied path] : Change γ }.andThen
        (replaceSource t · source .patch)
  | .error e => { session := s, events := [.patchSkipped (.failed e.code)] }

/-- Brings the edits of the selected element into the source. -/
def syncSource (t : Tools γ) (s : Session γ) (now : Nat) : Change γ :=
  match s.syncPlan now with
  | .nothing => { session := s }
  | .postpone => { session := { s with pending := true }, events := [.patchSkipped .guarded] }
  | .redundant => { session := { s with pending := false }, events := [.patchSkipped .redundant] }
  | .unrecorded =>
    { session := { s with pending := false, lastPatched := s.overrides.snapshot } }
  | .patch path styles =>
    { s with pending := false, lastPatched := s.overrides.snapshot }.runPatch t now path styles

end Session
end Restyle
