import Restyle.Text

/-!
# Restyle.Path

Paths of elements: steps `tag[index]` joined by `>`. The index counts earlier siblings with
the same tag. `Path.parse` reads any layout of blanks around the steps and either case of
tags; `Path.text` writes the one form without blanks.
-/

namespace Restyle

structure Step where
  tag : String
  index : Nat
  deriving Repr, BEq, ReflBEq, LawfulBEq, DecidableEq, Inhabited

namespace Step

def text (s : Step) : String :=
  s.tag ++ "[" ++ toString s.index ++ "]"

/-- Steps are ordered by tag, then by index. -/
def compare (a b : Step) : Ordering :=
  (Ord.compare a.tag b.tag).then (Ord.compare a.index b.index)

end Step

/-- The steps from the root of a document down to an element; none for the root. -/
structure Path where
  steps : List Step := []
  deriving Repr, BEq, ReflBEq, LawfulBEq, DecidableEq, Inhabited

namespace Path

def isRoot (p : Path) : Bool := p.steps.isEmpty

def text (p : Path) : String :=
  ">".intercalate (p.steps.map Step.text)

/-- Lexicographic order of the steps. -/
def compareSteps : List Step → List Step → Ordering
  | [], [] => .eq
  | [], _ :: _ => .lt
  | _ :: _, [] => .gt
  | a :: as, b :: bs => (a.compare b).then (compareSteps as bs)

def compare (p q : Path) : Ordering := compareSteps p.steps q.steps

/-- A piece of path text that is no step, as written. -/
structure Malformed where
  piece : String
  deriving Repr, BEq, DecidableEq

namespace Malformed

def message (e : Malformed) : String :=
  "malformed path segment `" ++ e.piece ++ "` (expected `tag[index]`)"

end Malformed

/-- Letters, digits, hyphen and underscore. -/
def isTagChar (c : Char) : Bool :=
  c.isAlphanum || c == '-' || c == '_'

/-- Indices fit sixty-four bits. -/
def indexBound : Nat := 18446744073709551616

/-- Reads `tag[index]` without blanks around it. -/
def parseStep? (cs : List Char) : Option Step :=
  let tag := cs.takeWhile (· != '[')
  match cs.dropWhile (· != '[') with
  | [] => none
  | _ :: rest =>
    match rest.getLast? with
    | some ']' =>
      let digits := rest.dropLast
      if !tag.isEmpty && tag.all isTagChar && !digits.isEmpty && digits.all Char.isDigit &&
          Text.decimal digits < indexBound then
        some ⟨String.ofList (tag.map Char.toLower), Text.decimal digits⟩
      else none
    | _ => none

/-- Reads one piece between `>`; the error keeps it as written. -/
def parsePiece (piece : List Char) : Except Malformed Step :=
  match parseStep? (Text.trimBy Text.isBlank piece) with
  | some s => .ok s
  | none => .error ⟨String.ofList piece⟩

/-- Reads the text of a path. Blank text is the path of the root. -/
def parse (s : String) : Except Malformed Path :=
  match Text.trimBy Text.isBlank s.toList with
  | [] => .ok {}
  | cs => (Path.mk ·) <$> (Text.splitAt '>' cs).mapM parsePiece

end Path
end Restyle
