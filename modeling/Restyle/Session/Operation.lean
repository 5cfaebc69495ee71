import Restyle.Session.Basic

/-!
# Restyle.Session.Operation

What can be done in a session: typing source, clicking and pressing keys, editing the style of
the selected element, and letting time pass. Times are in milliseconds.
-/

namespace Restyle

/-- A click on the preview. -/
structure Click where
  /-- The element under the pointer. -/
  target : Option Handle
  x : Float32
  y : Float32
  alt : Bool
  /-- Is the popover under the pointer? -/
  onPopover : Bool := false

inductive KeyPress where
  | escape | other
  deriving Repr, BEq, DecidableEq

namespace Session

variable {γ : Type}

/-- Begins a session with a source, which is compiled and rendered. -/
def start (t : Tools γ) (window : Nat) (source : String) : Session γ :=
  (recompile t { source, guard := { window } }).session

/-- Replaces the source by one that the user typed. -/
def setSource (t : Tools γ) (s : Session γ) (source : String) : Change γ :=
  if source == s.source then { session := s, done := false }
  else (s.replaceSource t source .user).as true

/-- A click with the Alt key selects an element; any other click closes the popover, unless it is
on the popover. -/
def click (t : Tools γ) (s : Session γ) (c : Click) : Change γ :=
  if c.onPopover then { session := s, done := false }
  else
    match c.target, c.alt with
    | some element, true => s.select t element c.x c.y
    | _, _ => s.clearSelection

def press (s : Session γ) (k : KeyPress) : Change γ :=
  match k with
  | .escape => s.clearSelection
  | .other => { session := s, done := false }

/-- Records an edit at a path and shows it in the preview. -/
def recordEdit (s : Session γ) (path : Path) (p : Property) (value : String) : Change γ :=
  let overrides := s.overrides.set path p value
  { session := { s with overrides, frame := s.frame.map (·.edited overrides) }
    events := [.overridesChanged (some path)] }

/-- Edits the selected element. -/
def updateStyle (t : Tools γ) (s : Session γ) (p : Property) (value : String) (now : Nat) :
    Change γ :=
  match s.selection with
  | none => { session := s, done := false }
  | some selected => (s.recordEdit selected.path p value).andThen (syncSource t · now)

/-- Forgets all edits. What the source has of them stays. -/
def clearOverrides (t : Tools γ) (s : Session γ) : Change γ :=
  if s.overrides.isEmpty then { session := s, done := false }
  else
    { session := { s with overrides := {}, pending := false }
      events := [.overridesChanged none] : Change γ }.andThen (renderPreview t)

/-- Selects nothing and forgets what waits. -/
def unmount (s : Session γ) : Change γ :=
  s.clearSelection.andThen fun s => { session := { s with guard := s.guard.reset, pending := false } }

/-- Lets time pass: a patch that waited is made once the guard no longer holds. -/
def tick (t : Tools γ) (s : Session γ) (now : Nat) : Change γ :=
  let s := { s with guard := s.guard.release now }
  if !s.pending || s.guard.isEngaged now then { session := s, done := false }
  else (s.syncSource t now).as true

/-! ## What is shown -/

/-- Values for the fields of the popover. -/
def currentStyles (s : Session γ) : Option Styles := do
  let selected ← s.selection
  let f ← s.frame
  return Restyle.currentStyles f.document selected.element (s.overrides.get? selected.path)

def componentName (s : Session γ) : Option String := s.component.map (·.name)

end Session
end Restyle
