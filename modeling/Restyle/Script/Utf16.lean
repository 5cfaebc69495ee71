import Restyle.Text

/-!
# Restyle.Script.Utf16

The strings of scripts: sequences of 16-bit units. Text whose surrogates all stand in pairs is
kept as a `String`; the units are kept only where a surrogate stands alone, so two values are
equal exactly if their units are.

* `Utf16.ofUnits`, `Utf16.units` — from and to units.
* `Utf16.spell` — as text, with `\uXXXX` for a surrogate that stands alone.
-/

namespace Restyle
namespace Script

inductive Utf16 where
  /-- Well-formed text. -/
  | whole (text : String)
  /-- Units of which at least one is a surrogate that stands alone. -/
  | broken (units : List UInt16)
  deriving Repr, BEq, DecidableEq, Hashable

namespace Utf16

instance : Inhabited Utf16 := ⟨whole ""⟩

/-- Units of a character. -/
def unitsOfChar (c : Char) : List UInt16 :=
  let n := c.toNat
  if n < 0x10000 then [n.toUInt16]
  else [(0xD800 + (n - 0x10000) / 0x400).toUInt16, (0xDC00 + (n - 0x10000) % 0x400).toUInt16]

def isHigh (u : UInt16) : Bool := 0xD800 ≤ u && u < 0xDC00

def isLow (u : UInt16) : Bool := 0xDC00 ≤ u && u < 0xE000

/-- The character of a pair of surrogates. -/
def pair (high low : UInt16) : Char :=
  Char.ofNat (0x10000 + (high.toNat - 0xD800) * 0x400 + (low.toNat - 0xDC00))

/-- Units read from left to right: characters, and surrogates that stand alone. -/
def points : List UInt16 → List (Char ⊕ UInt16)
  | [] => []
  | [u] => [if isHigh u || isLow u then .inr u else .inl (Char.ofNat u.toNat)]
  | u :: v :: rest =>
    if isHigh u && isLow v then .inl (pair u v) :: points rest
    else (if isHigh u || isLow u then .inr u else .inl (Char.ofNat u.toNat)) :: points (v :: rest)

/-- The characters of well-formed units. -/
def chars? (us : List UInt16) : Option (List Char) :=
  (points us).mapM fun
    | .inl c => some c
    | .inr _ => none

def ofUnits (us : List UInt16) : Utf16 :=
  match chars? us with
  | some cs => whole (String.ofList cs)
  | none => broken us

def ofChars (cs : List Char) : Utf16 := whole (String.ofList cs)

def units : Utf16 → List UInt16
  | whole s => s.toList.flatMap unitsOfChar
  | broken us => us

/-- Text, with `\uXXXX` for a surrogate that stands alone. -/
def spell : Utf16 → String
  | whole s => s
  | broken us => String.ofList ((points us).flatMap fun
      | .inl c => [c]
      | .inr u => '\\' :: 'u' :: (Nat.toDigits 16 u.toNat).map Char.toUpper)

/-- The text, unless a surrogate stands alone. -/
def text? : Utf16 → Option String
  | whole s => some s
  | broken _ => none

def append : Utf16 → Utf16 → Utf16
  | whole a, whole b => whole (a ++ b)
  | a, b => ofUnits (a.units ++ b.units)

instance : Append Utf16 := ⟨append⟩

instance : Coe String Utf16 := ⟨whole⟩

/-- Number of units. -/
def length : Utf16 → Nat
  | whole s => s.foldl (fun n c => if c.toNat < 0x10000 then n + 1 else n + 2) 0
  | broken us => us.length

def isEmpty : Utf16 → Bool
  | whole s => s.isEmpty
  | broken us => us.isEmpty

/-- The units from one position up to another. -/
def slice (s : Utf16) (first last : Nat) : Utf16 :=
  ofUnits ((s.units.drop first).take (last - first))

def unit? (s : Utf16) (i : Nat) : Option UInt16 := s.units[i]?

/-- Order by units. -/
def before (a b : Utf16) : Bool :=
  let rec go : List UInt16 → List UInt16 → Bool
    | _, [] => false
    | [], _ :: _ => true
    | x :: xs, y :: ys => x < y || (x == y && go xs ys)
  go a.units b.units

/-- Position of the first occurrence of a text at or after a position. -/
def indexFrom (text : List UInt16) : List UInt16 → Nat → Option Nat
  | [], i => if text.isEmpty then some i else none
  | u :: us, i => if text.isPrefixOf (u :: us) then some i else indexFrom text us (i + 1)

/-- Position of the first occurrence of a text in another, from a place within it on. -/
def indexOf? (s text : Utf16) (start : Nat) : Option Nat :=
  let us := s.units
  if us.length < start then none else indexFrom text.units (us.drop start) start

/-- Texts one after the other, with a separator between them. -/
def join (sep : Utf16) : List Utf16 → Utf16
  | [] => whole ""
  | s :: rest => rest.foldl (fun out t => out ++ sep ++ t) s

/-- Every occurrence of a unit replaced by a text. -/
def replaceUnit (s : Utf16) (c : Char) (text : String) : Utf16 :=
  match s with
  | whole s => whole (String.ofList (s.toList.flatMap fun d => if d == c then text.toList else [d]))
  | broken us =>
    ofUnits (us.flatMap fun u => if u.toNat == c.toNat then (whole text).units else [u])

/-- White space and line terminators of scripts. -/
def isSpace (c : Char) : Bool :=
  (Text.isBlank c && c != '\u0085') || c == '\ufeff'

def isSpaceUnit (u : UInt16) : Bool := !isHigh u && !isLow u && isSpace (Char.ofNat u.toNat)

/-- Without white space at the start, at the end, or both. -/
def trim (s : Utf16) (atStart atEnd : Bool) : Utf16 :=
  let us := s.units
  let us := if atStart then us.dropWhile isSpaceUnit else us
  ofUnits (if atEnd then (us.reverse.dropWhile isSpaceUnit).reverse else us)

end Utf16
end Script
end Restyle
