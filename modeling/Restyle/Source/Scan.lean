import Restyle.Text

/-!
# Restyle.Source.Scan

Looking ahead in source text at a position: words, marks, the ends of strings, and the brackets
that match. Positions count characters. Every search gives a position at or after its start.
-/

namespace Restyle
namespace Source

abbrev Chars := Array Char

/-- Characters that begin a name. -/
def isNameStart (c : Char) : Bool := c.isAlpha || c == '_' || c == '$'

/-- Characters of a name. -/
def isNamePart (c : Char) : Bool := c.isAlphanum || c == '_' || c == '$'

/-- The three marks that strings and templates are written in. -/
def isQuoteMark (c : Char) : Bool := c == '\'' || c == '"' || c == '\x60'

def isOpening (c : Char) : Bool := c == '(' || c == '[' || c == '{'

def isClosing (c : Char) : Bool := c == ')' || c == ']' || c == '}'

namespace Scan

/-- The characters from one position to another. -/
def slice (cs : Chars) (start stop : Nat) : List Char := (cs.extract start stop).toList

/-- First position from `i` on whose character is outside a class. -/
def skip (p : Char → Bool) (cs : Chars) (i : Nat) : Nat :=
  if h : i < cs.size then if p cs[i] then skip p cs (i + 1) else i else i
termination_by cs.size - i

/-- End of the name at `i`; `i` itself if none is there. -/
def nameEnd (cs : Chars) (i : Nat) : Nat := skip isNamePart cs i

def skipSpaces (cs : Chars) (i : Nat) : Nat := skip Text.isSpace cs i

/-- Does a text stand at `i`? -/
def startsAt (cs : Chars) (i : Nat) : List Char → Bool
  | [] => true
  | p :: ps => cs[i]? == some p && startsAt cs (i + 1) ps

/-- Does `=>` stand at `i`? -/
def arrowAt (cs : Chars) (i : Nat) : Bool := startsAt cs i ['=', '>']

/-- First position from `i` on of a character. -/
def find? (c : Char) (cs : Chars) (i : Nat) : Option Nat :=
  if h : i < cs.size then if cs[i] == c then some i else find? c cs (i + 1) else none
termination_by cs.size - i

/-- Position after the first `*/` from `i` on. -/
def commentEnd? (cs : Chars) (i : Nat) : Option Nat :=
  if _h : i < cs.size then
    if startsAt cs i ['*', '/'] then some (i + 2) else commentEnd? cs (i + 1)
  else none
termination_by cs.size - i

/-- End of a string that `quote` opened, from inside it. Only templates go over line ends. -/
def stringEndFrom? (quote : Char) (cs : Chars) (i : Nat) : Option Nat :=
  if h : i < cs.size then
    if cs[i] == '\\' then stringEndFrom? quote cs (i + 2)
    else if cs[i] == '\n' && quote != '\x60' then none
    else if cs[i] == quote then some (i + 1)
    else stringEndFrom? quote cs (i + 1)
  else none
termination_by cs.size - i

/-- Position after the string or template that opens at `i`. -/
def stringEnd? (cs : Chars) (i : Nat) : Option Nat :=
  match cs[i]? with
  | some quote => stringEndFrom? quote cs (i + 1)
  | none => none

theorem lt_of_stringEndFrom? {quote : Char} {cs : Chars} {i j : Nat}
    (h : stringEndFrom? quote cs i = some j) : i < j := by
  fun_induction stringEndFrom? quote cs i with
  | case1 _ _ _ ih => have := ih h; omega
  | case2 => simp at h
  | case3 => simp only [Option.some.injEq] at h; omega
  | case4 _ _ _ _ _ ih => have := ih h; omega
  | case5 => simp at h

theorem lt_of_stringEnd? {cs : Chars} {i j : Nat} (h : stringEnd? cs i = some j) : i < j := by
  simp only [stringEnd?] at h
  split at h
  · have := lt_of_stringEndFrom? h
    omega
  · simp at h

/-- Position of the bracket that closes the open ones; all three kinds count alike. -/
def closeFrom? (cs : Chars) (depth i : Nat) : Option Nat :=
  if h : i < cs.size then
    if isQuoteMark cs[i] then
      match _h : stringEnd? cs i with
      | some next => closeFrom? cs depth next
      | none => none
    else if isOpening cs[i] then closeFrom? cs (depth + 1) (i + 1)
    else if isClosing cs[i] then
      match depth with
      | 0 => none
      | 1 => some i
      | depth + 2 => closeFrom? cs (depth + 1) (i + 1)
    else closeFrom? cs depth (i + 1)
  else none
termination_by cs.size - i
decreasing_by
  · have := lt_of_stringEnd? _h
    omega
  all_goals omega

/-- Position of the bracket that closes the one at `i`. -/
def close? (cs : Chars) (i : Nat) : Option Nat := closeFrom? cs 0 i

/-- Does the `>` at `i` belong to an arrow? -/
def isArrowHead (cs : Chars) (i : Nat) : Bool := i > 0 && cs[i - 1]? == some '='

/-- Position of the `>` that closes the open angle brackets; a semicolon ends the search. -/
def angleFrom? (cs : Chars) (depth i : Nat) : Option Nat :=
  if h : i < cs.size then
    if isQuoteMark cs[i] then
      match _h : stringEnd? cs i with
      | some next => angleFrom? cs depth next
      | none => none
    else if cs[i] == ';' then none
    else if cs[i] == '<' then angleFrom? cs (depth + 1) (i + 1)
    else if cs[i] == '>' && !isArrowHead cs i then
      match depth with
      | 0 => none
      | 1 => some i
      | depth + 2 => angleFrom? cs (depth + 1) (i + 1)
    else angleFrom? cs depth (i + 1)
  else none
termination_by cs.size - i
decreasing_by
  · have := lt_of_stringEnd? _h
    omega
  all_goals omega

/-- Position of the `>` that closes the `<` at `i`. -/
def angle? (cs : Chars) (i : Nat) : Option Nat := angleFrom? cs 0 i

end Scan
end Source
end Restyle
