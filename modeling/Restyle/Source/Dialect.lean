import Restyle.Text

/-!
# Restyle.Source.Dialect

The four dialects of component source, told apart by the end of the file name.
-/

namespace Restyle
namespace Source

inductive Dialect where
  | tsx | ts | jsx | js
  deriving Repr, BEq, DecidableEq, Inhabited

namespace Dialect

/-- Does a file name end so? -/
def endsWith (name ending : String) : Bool :=
  (Text.after? ending.toList.reverse name.toList.reverse).isSome

def ofFilename (name : String) : Dialect :=
  let name := Text.lower (Text.trim name)
  if endsWith name ".tsx" then tsx
  else if endsWith name ".ts" then ts
  else if endsWith name ".jsx" then jsx
  else js

/-- Are elements written as markup allowed? -/
def allowsMarkup : Dialect → Bool
  | ts => false
  | _ => true

/-- Are type annotations removed? -/
def hasTypes : Dialect → Bool
  | tsx | ts => true
  | _ => false

end Dialect

/-- The longest beginning of a text of at most `n` bytes, if it has exactly `n`. -/
def takeBytes? : Nat → List Char → Option (List Char)
  | 0, _ => some []
  | _ + 1, [] => none
  | n + 1, c :: cs =>
    if c.utf8Size ≤ n + 1 then (takeBytes? (n + 1 - c.utf8Size) cs).map (c :: ·) else none
termination_by _ cs => cs.length

/-- Line, counted from one, and column, counted from zero in characters, after a text. -/
def positionAfter (before : List Char) : Nat × Nat :=
  (before.count '\n' + 1, (before.reverse.takeWhile (· != '\n')).length)

/-- Line and column of a byte offset. An offset past the end or inside a character stands for
the end of the text. -/
def lineColumn (source : String) (offset : Nat) : Nat × Nat :=
  positionAfter ((takeBytes? offset source.toList).getD source.toList)

end Source
end Restyle
