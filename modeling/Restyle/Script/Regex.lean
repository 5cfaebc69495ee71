import Restyle.Script.Regex.Grammar

/-!
# Restyle.Script.Regex

Regular expressions of scripts, and their matches in texts.

* `Regex.compile?` — the pattern of an expression, or `none` if it is malformed.
* `Regex.find?`, `Regex.all` — the first match from a position on, and all matches.
-/

namespace Restyle
namespace Script

/-- A compiled expression: its pattern, the number of its groups, their names, and whether texts
are read by code points. -/
structure Regex where
  pattern : Pattern Nat
  groups : Nat
  names : List (String × Nat)
  unicode : Bool

namespace Regex

abbrev Match := Pattern.Match Nat

def compile? (body flags : String) : Option Regex :=
  match Flags.ofText? flags with
  | none => none
  | some f =>
    let cs := body.toList
    match groupsOf? cs false 0 [] with
    | none => none
    | some (groups, names) =>
      match (expression { flags := f, groups, names } (cs.length + 1) cs).run 0 with
      | some ((pattern, []), _) =>
        some { pattern, groups, names := names.reverse, unicode := f.unicode }
      | _ => none

/-- A text as codes. -/
def codes (r : Regex) (units : List UInt16) : List Nat :=
  if r.unicode then
    (Utf16.points units).map fun
      | .inl c => c.toNat
      | .inr u => u.toNat
  else units.map UInt16.toNat

/-- Codes as units of a text. -/
def unitsOf (codes : List Nat) : List UInt16 :=
  codes.flatMap fun n => if n < 0x10000 then [n.toUInt16] else Utf16.unitsOfChar (Char.ofNat n)

def textOf (codes : List Nat) : Utf16 := Utf16.ofUnits (unitsOf codes)

/-- The state at a position of a text. -/
def stateAt (r : Regex) (units : List UInt16) (start : Nat) : Pattern.State Nat :=
  { before := (r.codes (units.take start)).reverse, rest := r.codes (units.drop start), pos := start
    width := fun n => if n < 0x10000 then 1 else 2 }

/-- The first match at or after a position, or only at it. -/
def find? (r : Regex) (units : List UInt16) (start : Nat) (sticky : Bool) : Option Match :=
  if start > units.length then none
  else
    let st := r.stateAt units start
    if sticky then r.pattern.matchAt? st else r.pattern.find? st

/-- Matches one after the other from a state on; after an empty one the next code is passed
over. -/
def allFrom (r : Regex) (sticky : Bool) : Nat → Pattern.State Nat → List Match
  | 0, _ => []
  | fuel + 1, st =>
    match if sticky then r.pattern.matchAt? { st with groups := [] } else r.pattern.find? st with
    | none => []
    | some m =>
      if m.text.isEmpty then
        match m.after.step? false with
        | some (_, st) => m :: allFrom r sticky fuel st
        | none => [m]
      else m :: allFrom r sticky fuel m.after

/-- All matches in a text from a position on. -/
def all (r : Regex) (units : List UInt16) (start : Nat) (sticky : Bool) : List Match :=
  if start > units.length then [] else allFrom r sticky (units.length + 2) (r.stateAt units start)

end Regex

end Script
end Restyle
