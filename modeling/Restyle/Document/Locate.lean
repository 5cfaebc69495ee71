import Restyle.Document.Basic
import Restyle.Path

/-!
# Restyle.Document.Locate

From elements to paths and back. `identify` climbs from an element to the root and records a
step per level; `locate` follows the steps of a path down. Within the subtree of a root the
two undo each other.
-/

namespace Restyle
namespace Document

/-- Position of `h` among the element children of `parent` that carry the same tag. -/
def indexAmong (d : Document) (parent : Handle) (tag : String) (h : Handle) : Nat :=
  (((d.elementChildren parent).filter fun s => d.tag? s == some tag).findIdx? (· == h)).getD 0

/-- Climbs from `h` until `stop` holds or no parent is left, and puts each step in front of
`below`. -/
def climb (d : Document) (stop : Handle → Bool) : Nat → Handle → List Step → List Step
  | 0, _, below => below
  | fuel + 1, h, below =>
    if stop h then below
    else
      match d.parent? h, d.tag? h with
      | some parent, some tag =>
        d.climb stop fuel parent (⟨tag, d.indexAmong parent tag h⟩ :: below)
      | _, _ => below

/-- Path of an element below `root`. No climb is longer than the number of nodes. -/
def identify (d : Document) (h root : Handle) : Path :=
  ⟨d.climb (· == root) d.size h []⟩

/-- Path of an element below its nearest ancestor of a class. -/
def identifyWithin (d : Document) (h : Handle) (cls : String) : Path :=
  ⟨d.climb (d.hasClass · cls) d.size h []⟩

/-- The child that a step names. -/
def stepDown? (d : Document) (h : Handle) (s : Step) : Option Handle :=
  ((d.elementChildren h).filter fun c => d.tag? c == some s.tag)[s.index]?

/-- The element that a path names, looked for below `root`. -/
def locate (d : Document) (root : Handle) (p : Path) : Option Handle :=
  match p.steps.foldlM d.stepDown? root with
  | some h => if d.isElement h then some h else none
  | none => none

end Document
end Restyle
