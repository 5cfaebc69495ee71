import Restyle.Path

/-!
# Restyle.Session.Event

What a session tells its listeners, and the listeners.

Listeners are told of every event in the order in which they were added. Each has a number, by
which it can be removed; a number is given once.
-/

namespace Restyle

/-- Where a change of the source comes from. -/
inductive Origin where
  | user | patch
  deriving Repr, BEq, DecidableEq

/-- Why the source was not patched. -/
inductive Skip where
  /-- An earlier patch is still guarded. -/
  | guarded
  /-- The source says already what was edited. -/
  | redundant
  /-- The patch is not possible; with the code of the error. -/
  | failed (code : String)
  deriving Repr, BEq, DecidableEq

inductive Event where
  | sourceChanged (origin : Origin)
  | compiled (component : String) (key : Nat)
  | compileFailed (code message : String)
  | previewRendered (key : Nat)
  | renderFailed (key : Nat) (message : String)
  /-- An edit at a path, or the removal of all edits. -/
  | overridesChanged (path : Option Path)
  | selectionChanged (path : Option Path)
  | patchApplied (path : Path)
  | patchSkipped (reason : Skip)
  deriving Repr, BEq, DecidableEq

/-- Listeners with what each has gathered. -/
structure Listeners (α : Type) where
  next : Nat := 0
  entries : List (Nat × α) := []

namespace Listeners

variable {α : Type}

/-- Adds a listener, and gives its number. -/
def add (l : Listeners α) (a : α) : Listeners α × Nat :=
  ({ next := l.next + 1, entries := l.entries ++ [(l.next, a)] }, l.next)

/-- Removes a listener; `none` if there is none with that number. -/
def remove? (l : Listeners α) (id : Nat) : Option (Listeners α) :=
  if l.entries.any (·.1 == id) then
    some { l with entries := l.entries.filter (·.1 != id) }
  else none

/-- Tells every listener of an event. -/
def tell (f : α → Event → α) (l : Listeners α) (e : Event) : Listeners α :=
  { l with entries := l.entries.map fun (id, a) => (id, f a e) }

end Listeners
end Restyle
