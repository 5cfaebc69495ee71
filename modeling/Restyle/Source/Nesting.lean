import Restyle.Text

/-!
# Restyle.Source.Nesting

Where a reader stands in component source: inside a string or not, and how many brackets deep.
Three kinds of reader share this state and differ in what they count.

* `brace` — braces; all three quotation marks open strings.
* `bracket` — parentheses, square brackets and braces alike.
* `tag` — braces, inside a tag; backquotes and backslashes count inside braces only.
-/

namespace Restyle
namespace Source

structure Nesting where
  quote : Option Char := none
  escaped : Bool := false
  depth : Nat := 0
  deriving Repr, BEq, DecidableEq

namespace Nesting

/-- One more character of a string that ends with `mark`. -/
def inString (n : Nesting) (mark c : Char) : Nesting :=
  if n.escaped then { n with escaped := false }
  else if c == '\\' then { n with escaped := true }
  else if c == mark then { n with quote := none }
  else n

/-- The three marks that strings and templates are written in. -/
def isQuote (c : Char) : Bool := c == '"' || c == '\'' || c == '\x60'

def brace (n : Nesting) (c : Char) : Nesting :=
  match n.quote with
  | some mark => n.inString mark c
  | none =>
    if isQuote c then { n with quote := some c }
    else if c == '{' then { n with depth := n.depth + 1 }
    else if c == '}' then { n with depth := n.depth - 1 }
    else n

def bracket (n : Nesting) (c : Char) : Nesting :=
  match n.quote with
  | some mark => n.inString mark c
  | none =>
    if isQuote c then { n with quote := some c }
    else if c == '(' || c == '[' || c == '{' then { n with depth := n.depth + 1 }
    else if c == ')' || c == ']' || c == '}' then { n with depth := n.depth - 1 }
    else n

def tag (n : Nesting) (c : Char) : Nesting :=
  match n.quote with
  | some mark =>
    if n.depth > 0 then n.inString mark c
    else if c == mark then { n with quote := none }
    else n
  | none =>
    if c == '"' || c == '\'' then { n with quote := some c }
    else if c == '\x60' && n.depth > 0 then { n with quote := some c }
    else if c == '{' then { n with depth := n.depth + 1 }
    else if c == '}' then { n with depth := n.depth - 1 }
    else n

/-- Outside strings and brackets. -/
def isTop (n : Nesting) : Bool := n.quote.isNone && n.depth == 0

end Nesting
end Source
end Restyle
