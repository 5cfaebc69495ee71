import Restyle.Text

/-!
# Restyle.Number.Binary

Binary floating-point formats. `Format.round` gives the bits of the number of a format nearest
to a fraction, ties to even; `Format.ofDecimal?` reads decimal text that way.
-/

namespace Restyle
namespace Number

/-- A format: bits of precision, with the leading one, and bits of the exponent. -/
structure Format where
  precision : Nat
  exponentBits : Nat

namespace Format

def single : Format := ⟨24, 8⟩

def double : Format := ⟨53, 11⟩

/-- Exponent of the last place of the smallest numbers. -/
def leastExponent (f : Format) : Int :=
  3 - (Nat.pow 2 (f.exponentBits - 1) : Nat) - f.precision

/-- Bits of infinity. -/
def infinity (f : Format) : Nat := (Nat.pow 2 f.exponentBits - 1) * Nat.pow 2 (f.precision - 1)

/-- Bits of a number that is not one. -/
def nan (f : Format) : Nat := f.infinity + Nat.pow 2 (f.precision - 2)

/-- The bit that makes a number negative. -/
def signBit (f : Format) : Nat := Nat.pow 2 (f.exponentBits + f.precision - 1)

/-- The greatest `k` with `2 ^ k ≤ num / den`. -/
def exponentOf (num den : Nat) : Int :=
  let k : Int := (num.log2 : Int) - den.log2
  let fits := if k ≥ 0 then den * Nat.pow 2 k.toNat ≤ num else den ≤ num * Nat.pow 2 (-k).toNat
  if fits then k else k - 1

/-- A quotient rounded to the nearest integer, ties to even. -/
def divEven (num den : Nat) : Nat :=
  let q := num / den
  let twice := 2 * (num % den)
  if twice > den || (twice == den && q % 2 == 1) then q + 1 else q

/-- Bits of the number nearest to `num / den`. -/
def round (f : Format) (num den : Nat) : Nat :=
  if num == 0 then 0
  else
    let e := max f.leastExponent (exponentOf num den - (f.precision - 1 : Nat))
    let q :=
      if e ≥ 0 then divEven num (den * Nat.pow 2 e.toNat) else divEven (num * Nat.pow 2 (-e).toNat) den
    min f.infinity ((e - f.leastExponent).toNat * Nat.pow 2 (f.precision - 1) + q)

/-- Bits of the number nearest to `m * 10 ^ e`. Exponents out of reach of every format are
not multiplied out. -/
def ofScientific (f : Format) (m : Nat) (e : Int) : Nat :=
  let digits : Int := (Nat.toDigits 10 m).length
  if m == 0 then 0
  else if digits + e > 400 then f.infinity
  else if digits + e < -400 then 0
  else if e ≥ 0 then f.round (m * Nat.pow 10 e.toNat) 1
  else f.round m (Nat.pow 10 (-e).toNat)

/-- Reads an exponent after its `e`: a sign or none, then digits to the end. -/
def exponent? (cs : List Char) : Option Int :=
  let (negative, ds) := match cs with
    | '-' :: rest => (true, rest)
    | '+' :: rest => (false, rest)
    | _ => (false, cs)
  if !ds.isEmpty && ds.all Char.isDigit then
    let n : Int := Text.decimal ds
    some (if negative then -n else n)
  else none

/-- Reads unsigned decimal text: digits with a point or without, and an exponent. -/
def ofUnsigned? (f : Format) (cs : List Char) : Option Nat :=
  let whole := cs.takeWhile Char.isDigit
  let rest := cs.dropWhile Char.isDigit
  let (fraction, rest) := match rest with
    | '.' :: rest => (rest.takeWhile Char.isDigit, rest.dropWhile Char.isDigit)
    | _ => ([], rest)
  if whole.isEmpty && fraction.isEmpty then none
  else
    let m := Text.decimal (whole ++ fraction)
    let places : Int := fraction.length
    match rest with
    | [] => some (f.ofScientific m (-places))
    | c :: rest =>
      if c == 'e' || c == 'E' then (exponent? rest).map fun e => f.ofScientific m (e - places)
      else none

/-- Reads decimal text with an optional sign, `inf`, `infinity` or `nan` in any case. -/
def ofDecimal? (f : Format) (cs : List Char) : Option Nat :=
  let (negative, rest) := match cs with
    | '-' :: rest => (true, rest)
    | '+' :: rest => (false, rest)
    | _ => (false, cs)
  let word := String.ofList (rest.map Char.toLower)
  let magnitude :=
    if word == "inf" || word == "infinity" then some f.infinity
    else if word == "nan" then some f.nan
    else f.ofUnsigned? rest
  magnitude.map fun bits => if negative then bits + f.signBit else bits

end Format

/-- Reads decimal text as a number of single precision. -/
def single? (cs : List Char) : Option Float32 :=
  (Format.single.ofDecimal? cs).map fun bits => Float32.ofBits bits.toUInt32

/-- The number of double precision nearest to `m * 10 ^ e`. -/
def ofScientific (m : Nat) (e : Int) : Float :=
  Float.ofBits (Format.double.ofScientific m e).toUInt64

end Number
end Restyle
