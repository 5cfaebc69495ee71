import Restyle.Path
import Restyle.Styles

/-!
# Restyle.Overrides

The table of edits: for each path the values recorded there. Entries are kept in the order of
their paths, so that equal tables have equal snapshots.
-/

namespace Restyle

structure Overrides where
  entries : List (Path × Styles) := []
  deriving Repr, BEq, DecidableEq, Inhabited

namespace Overrides

def get? (o : Overrides) (p : Path) : Option Styles :=
  (o.entries.find? (·.1 == p)).map (·.2)

/-- Changes the entry of a path, or adds one made from no values, in order. -/
def alter (p : Path) (f : Styles → Styles) : List (Path × Styles) → List (Path × Styles)
  | [] => [(p, f {})]
  | (q, s) :: rest =>
    match p.compare q with
    | .lt => (p, f {}) :: (q, s) :: rest
    | .eq => (q, f s) :: rest
    | .gt => (q, s) :: alter p f rest

/-- Records a trimmed value. -/
def set (o : Overrides) (p : Path) (property : Property) (v : String) : Overrides :=
  ⟨alter p (·.set property (Text.trim v)) o.entries⟩

def isEmpty (o : Overrides) : Bool := o.entries.isEmpty

def size (o : Overrides) : Nat := o.entries.length

/-- The table as a JSON object; two tables are equal when their snapshots are. -/
def snapshot (o : Overrides) : String :=
  "\x7b" ++ ",".intercalate (o.entries.map fun (p, s) =>
    Json.quote p.text ++ ":" ++ s.json) ++ "\x7d"

end Overrides
end Restyle
