import Restyle.Markup.Entity
import Restyle.Source.Literal

/-!
# Restyle.Source.Markup

Texts of the code that elements written as markup become: `React.createElement` calls with
their type, properties and children. `cleanText` gives the text between tags.
-/

namespace Restyle
namespace Source

/-- The lines of a text, each without carriage returns at its end. -/
def textLines (raw : List Char) : List (List Char) :=
  (Text.splitAt '\n' raw).map (Text.trimEndBy (· == '\r'))

/-- Index of the last line that holds more than spaces and tabs. -/
def lastFilled (lines : List (List Char)) : Option Nat :=
  (lines.reverse.findIdx? fun line => line.any fun c => c != ' ' && c != '\t').map
    (lines.length - 1 - ·)

/-- A line of text as it counts: tabs are spaces, and spaces go where the line meets a break. -/
def cleanLine (first last : Bool) (line : List Char) : List Char :=
  let line := line.map fun c => if c == '\t' then ' ' else c
  let line := if first then line else line.dropWhile (· == ' ')
  if last then line else Text.trimEndBy (· == ' ') line

/-- Text between tags: lines are trimmed at their breaks, empty ones dropped, the rest joined by
spaces, and references decoded. -/
def cleanText (raw : List Char) : List Char :=
  let lines := textLines raw
  let filled := lastFilled lines
  Markup.Entity.decode <| lines.zipIdx.flatMap fun (line, i) =>
    let line := cleanLine (i == 0) (i == lines.length - 1) line
    if line.isEmpty then []
    else if filled == some i then line
    else line ++ [' ']

/-- Is the text of an expression empty up to comments? Each step drops at least a comment's
opening. -/
def isBlankExpression : Nat → List Char → Bool
  | 0, _ => false
  | fuel + 1, cs =>
    match cs.dropWhile Text.isBlank with
    | '/' :: '*' :: rest =>
      match blockEnd rest with
      | some rest => isBlankExpression fuel rest
      | none => false
    | '/' :: '/' :: rest => isBlankExpression fuel (rest.dropWhile (· != '\n'))
    | rest => rest.isEmpty
where
  /-- The text after the end of a block comment. -/
  blockEnd : List Char → Option (List Char)
    | [] => none
    | '*' :: '/' :: rest => some rest
    | _ :: rest => blockEnd rest

/-- Is the text of an expression empty up to comments and blanks? -/
def isBlank (cs : List Char) : Bool := isBlankExpression (cs.length + 1) cs

/-- The type of an element: a string for names in lower case without dots, else the name. -/
def elementType (name : List Char) : List Char :=
  if name.head?.any Char.isLower && !name.contains '.' then stringLiteral name else name

def joined (separator : List Char) (pieces : List (List Char)) : List Char :=
  (pieces.intersperse separator).flatten

/-- The object of an element's properties. -/
def propsObject (props : List (List Char)) : List Char :=
  if props.isEmpty then "null".toList else '{' :: joined [',', ' '] props ++ ['}']

/-- The call that creates an element. -/
def createElement (type props : List Char) (children : List (List Char)) : List Char :=
  "React.createElement(".toList ++ joined [',', ' '] (type :: props :: children) ++ [')']

end Source
end Restyle
