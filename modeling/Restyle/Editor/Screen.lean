import Restyle.Box.Paint
import Restyle.Session.Operation

/-!
# Restyle.Editor.Screen

The window of the editor: a status bar, the source, the preview, and the popover with a field
for each editable property.

* `Editor.screen` — the texts on the window in the order in which they are painted, each with
  the place it belongs to.
-/

namespace Restyle

/-- Where keys go to. -/
inductive Focus where
  | nowhere
  | source
  | field (p : Property)
  deriving Repr, BEq, DecidableEq

structure Editor (γ : Type) where
  session : Session γ
  tools : Tools γ
  /-- File name shown above the source. -/
  filename : String
  /-- Texts of the fields of the popover. -/
  fields : List (Property × String) := []
  /-- The path that the fields were filled for. -/
  fieldsFor : Option Path := none
  focus : Focus := .nowhere

/-- The place that a text belongs to. -/
inductive Spot where
  | status
  /-- The button that forgets all edits. -/
  | clearButton
  | heading
  | source
  /-- The preview, and the innermost painted element around the text. -/
  | preview (target : Option Handle)
  | popover
  /-- The button that closes the popover. -/
  | closeButton
  | field (p : Property)
  deriving Repr, BEq, DecidableEq

namespace Editor

variable {γ : Type}

def windowTitle : String := "Stylepad"

/-- The text of a field. -/
def fieldText (e : Editor γ) (p : Property) : String := (e.fields.lookup p).getD ""

def statusTexts (e : Editor γ) : List (Spot × String) :=
  let o := e.session.overrides
  [(.status, "Component: " ++ e.session.componentName.getD "-"),
    (.status, "Render #" ++ toString e.session.attempts),
    (.status, "Overrides: " ++ toString o.size)] ++
  (if o.isEmpty then [] else [(.clearButton, "Clear overrides")]) ++
  [(.status, "Alt+click an element to edit its styles")]

def sourceTexts (e : Editor γ) : List (Spot × String) :=
  [(.heading, "Component"), (.heading, e.filename), (.source, e.session.source)]

/-- What is painted of the preview. -/
def previewMarks (e : Editor γ) : List Box.Mark :=
  match e.session.compileError <|> e.session.runtimeError, e.session.frame with
  | none, some f => Box.paint e.tools.sheet f.document (e.session.selection.map (·.element))
  | _, _ => []

def errorTexts (error : EditorError) : List (Spot × String) :=
  [error.title, error.text, error.code].map (.preview none, ·)

def previewTexts (e : Editor γ) : List (Spot × String) :=
  match e.session.compileError <|> e.session.runtimeError with
  | some error => errorTexts error
  | none =>
    e.previewMarks.filterMap fun
      | .text content _ _ _ _ within => some (.preview within, content)
      | _ => none

/-- The label of a field and its text; an empty one shows its placeholder. -/
def fieldTexts (e : Editor γ) (p : Property) : List (Spot × String) :=
  let text := e.fieldText p
  [(.popover, p.label), (.field p, if text.isEmpty then p.placeholder else text)]

def popoverTexts (e : Editor γ) : List (Spot × String) :=
  match e.session.popover, e.session.selection with
  | some _, some selected =>
    [(.popover, "Edit Styles"), (.closeButton, "x")] ++ Property.all.flatMap e.fieldTexts ++
      [(.popover, "Node: " ++ selected.path.text)]
  | _, _ => []

/-- The texts on the window. -/
def screen (e : Editor γ) : List (Spot × String) :=
  (e.statusTexts ++ e.sourceTexts ++ e.previewTexts ++ e.popoverTexts).filter (!·.2.isEmpty)

/-- Number of outlines around the selected element. -/
def outlines (e : Editor γ) : Nat :=
  e.previewMarks.countP fun
    | .outline => true
    | _ => false

/-- The place of the text that comes after a number of equal ones. -/
def find? (e : Editor γ) (text : String) (nth : Nat) : Option Spot :=
  ((e.screen.filter (·.2 == text))[nth]?).map (·.1)

end Editor
end Restyle
