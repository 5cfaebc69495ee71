import Restyle.Source.Scan

/-!
# Restyle.Source.Types

The extent of type annotations. `Scan.typeEnd` finds the end of a type expression without
understanding it: operands, joined by `|`, `&`, `=>` and `is`, each with its suffixes.
`Scan.parameter` finds the parts of one parameter in a list.
-/

namespace Restyle
namespace Source
namespace Scan

/-- Words after which a type still needs an operand. -/
def typeOperators : List String := ["keyof", "typeof", "readonly", "unique", "infer"]

def isLiteralPart (c : Char) : Bool := c.isAlphanum || c == '.'

/-- Where reading a type has got to: the next position, and whether an operand is wanted. -/
structure TypeStep where
  next : Nat
  /-- End of the type, if it could end here. -/
  stop : Option Nat := none
  wantsOperand : Bool

/-- Reads an operand at `i`, where `c` stands. -/
def operand? (cs : Chars) (i : Nat) (c : Char) : Option TypeStep :=
  let done (j : Nat) : TypeStep := { next := j, stop := some j, wantsOperand := false }
  if c == '|' || c == '&' then some { next := i + 1, wantsOperand := true }
  else if c == '{' || c == '[' then (close? cs i).map fun j => done (j + 1)
  else if c == '(' then
    (close? cs i).map fun j =>
      let arrow := skipSpaces cs (j + 1)
      if arrowAt cs arrow then { next := arrow + 2, stop := some (j + 1), wantsOperand := true }
      else done (j + 1)
  else if c == '<' then (angle? cs i).map fun j => { next := j + 1, wantsOperand := true }
  else if isQuoteMark c then (stringEnd? cs i).map done
  else if c == '-' || c.isDigit then some (done (skip isLiteralPart cs (i + 1)))
  else if isNameStart c then
    let j := nameEnd cs i
    if typeOperators.contains (String.ofList (slice cs i j)) then
      some { next := j, wantsOperand := true }
    else some (done j)
  else none

/-- Reads what may follow an operand at `i`, where `c` stands. -/
def suffix? (cs : Chars) (i : Nat) (c : Char) : Option TypeStep :=
  let done (j : Nat) : TypeStep := { next := j, stop := some j, wantsOperand := false }
  if c == '.' && (cs[i + 1]?.any isNameStart) then some (done (nameEnd cs (i + 1)))
  else if c == '<' then (angle? cs i).map fun j => done (j + 1)
  else if c == '[' then (close? cs i).map fun j => done (j + 1)
  else if (c == '|' || c == '&') && cs[i + 1]? != some c then
    some { next := i + 1, wantsOperand := true }
  else if isNameStart c && slice cs i (nameEnd cs i) == ['i', 's'] then
    some { next := nameEnd cs i, wantsOperand := true }
  else none

/-- Reads a type from `i` on; `stop` is its end so far. Each step moves on, so the number of
characters bounds the steps. -/
def typeEndFrom (cs : Chars) : Nat → Nat → Nat → Bool → Nat
  | 0, _, stop, _ => stop
  | fuel + 1, i, stop, wantsOperand =>
    let i := skipSpaces cs i
    match cs[i]? with
    | none => stop
    | some c =>
      match if wantsOperand then operand? cs i c else suffix? cs i c with
      | none => stop
      | some step => typeEndFrom cs fuel step.next (step.stop.getD stop) step.wantsOperand

/-- End of the type expression at `i`, without the white space after it. -/
def typeEnd (cs : Chars) (i : Nat) : Nat := typeEndFrom cs (cs.size + 1) i i true

/-- Parts of one parameter: its end, and where its question mark, colon and equals sign stand. -/
structure Parameter where
  mark : Option Nat := none
  colon : Option Nat := none
  equals : Option Nat := none
  stop : Nat
  deriving Repr, BEq, DecidableEq

/-- Position of the question mark before a colon at `i`, if one stands there. -/
def optionalMark (cs : Chars) (start : Nat) : Nat → Option Nat
  | 0 => none
  | i + 1 =>
    if start ≤ i then
      match cs[i]? with
      | some c =>
        if Text.isSpace c then optionalMark cs start i
        else if c == '?' then some i
        else none
      | none => none
    else none

/-- Is the `=` at `i` the sign of a default value? -/
def isDefaultSign (cs : Chars) (start i : Nat) : Bool :=
  let next := cs[i + 1]?
  let before := cs[i - 1]?
  !(next == some '>' || next == some '=') &&
    !(i > start && (before == some '=' || before == some '!' || before == some '<' ||
      before == some '>'))

/-- Reads a parameter from `i` on. -/
def parameterFrom (cs : Chars) (start close : Nat) :
    Nat → Nat → (depth angle : Int) → Parameter → Parameter
  | 0, _, _, _, parts => parts
  | fuel + 1, i, depth, angle, parts =>
    if i < close then
      match cs[i]? with
      | none => parts
      | some c =>
        let go := parameterFrom cs start close fuel
        if isQuoteMark c then go ((stringEnd? cs i).getD close) depth angle parts
        else if isOpening c then go (i + 1) (depth + 1) angle parts
        else if isClosing c then go (i + 1) (depth - 1) angle parts
        else if c == '<' && parts.colon.isSome && parts.equals.isNone then
          go (i + 1) depth (angle + 1) parts
        else if c == '>' && angle > 0 && cs[i - 1]? != some '=' then
          go (i + 1) depth (angle - 1) parts
        else if c == '=' && depth == 0 && angle == 0 && parts.equals.isNone then
          if isDefaultSign cs start i then go (i + 1) depth angle { parts with equals := some i }
          else go (i + 1) depth angle parts
        else if c == ':' && depth == 0 && angle == 0 && parts.colon.isNone &&
            parts.equals.isNone then
          go (i + 1) depth angle { parts with colon := some i, mark := optionalMark cs start i }
        else if c == ',' && depth == 0 && angle == 0 then { parts with stop := i }
        else go (i + 1) depth angle parts
    else parts

/-- The parameter at `start` in a list that closes at `close`. -/
def parameter (cs : Chars) (start close : Nat) : Parameter :=
  parameterFrom cs start close (cs.size + 1) start 0 0 { stop := close }

end Scan
end Source
end Restyle
