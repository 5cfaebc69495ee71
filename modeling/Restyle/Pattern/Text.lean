import Restyle.Pattern.Basic
import Restyle.Text.Word

/-!
# Restyle.Pattern.Text

Patterns over characters, put together from the pieces that the forms of modules need.
-/

namespace Restyle
namespace Pattern

abbrev TextPattern := Pattern Char

/-- The patterns of a list, one after the other. -/
def sequence {α : Type} : List (Pattern α) → Pattern α
  | [] => .empty
  | [p] => p
  | p :: ps => .seq p (sequence ps)

/-- The first that matches of a list. -/
def choice {α : Type} : List (Pattern α) → Pattern α
  | [] => .symbol fun _ => false
  | [p] => p
  | p :: ps => .alt p (choice ps)

def optional {α : Type} (p : Pattern α) : Pattern α := .times true 0 1 p

/-- One round or more, as many as possible. -/
def some' {α : Type} (p : Pattern α) : Pattern α := .seq p (.many true p)

def char (c : Char) : TextPattern := .symbol (· == c)

/-- A text as it stands. -/
def word (s : String) : TextPattern := sequence (s.toList.map char)

def blank : TextPattern := .symbol Text.isBlank

/-- Any number of blanks. -/
def blanks : TextPattern := .many true blank

/-- Blanks, at least one. -/
def gap : TextPattern := some' blank

/-- Any number of spaces and tabs. -/
def indent : TextPattern := .many true (.symbol fun c => c == ' ' || c == '\t')

def isQuotation (c : Char) : Bool := c == '\'' || c == '"'

/-- A single or double quotation mark. -/
def quotation : TextPattern := .symbol isQuotation

/-- Any number of characters other than quotation marks. -/
def unquoted : TextPattern := .many true (.symbol fun c => !isQuotation c)

/-- At the start of the text or after a line break. -/
def lineStart : TextPattern := .between fun before _ => before.all (· == '\n')

/-- At the end of the text or before a line break. -/
def lineEnd : TextPattern := .between fun _ after => after.all (· == '\n')

/-- Between a word character and something else. -/
def boundary : TextPattern :=
  .between fun before after => before.any Text.isWordChar != after.any Text.isWordChar

/-- A name: a letter, `_` or `$`, then word characters and `$`. -/
def name : TextPattern :=
  .seq (.symbol fun c => c.isAlpha || c == '_' || c == '$')
    (.many true (.symbol fun c => Text.isWordChar c || c == '$'))

/-- The first match in a text. -/
def first? (p : TextPattern) (text : List Char) : Option (Match Char) :=
  p.find? { rest := text }

/-- A text with every match replaced. -/
def replace (p : TextPattern) (make : Match Char → List Char) (text : List Char) : List Char :=
  p.replaceAll make (text.length + 1) { rest := text }

end Pattern
end Restyle
