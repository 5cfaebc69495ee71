import Restyle.Number.Binary

/-!
# Restyle.Number.Shortest

Decimal digits of numbers of double precision.

* `Decimal.shortest` — the fewest digits that read back as the number, nearest to it.
* `Decimal.rounded` — a given number of places after the point.
* `Decimal.leading` — a given number of significant digits.

Where two decimal numbers are equally near, a `Tie` says which one is taken.

A number is taken apart into `m * 2 ^ q` and everything else is exact arithmetic.
-/

namespace Restyle
namespace Number

/-- The magnitude `m * 2 ^ q`. -/
structure Dyadic where
  m : Nat
  q : Int
  deriving Repr, BEq, DecidableEq

namespace Dyadic

/-- Magnitude of a finite number from its bits. -/
def ofBits (bits : Nat) : Dyadic :=
  let fraction := bits % 4503599627370496
  let exponent : Nat := bits / 4503599627370496 % 2048
  if exponent == 0 then ⟨fraction, -1074⟩ else ⟨fraction + 4503599627370496, (exponent : Int) - 1075⟩

def num (d : Dyadic) : Nat := d.m * Nat.pow 2 d.q.toNat

def den (d : Dyadic) : Nat := Nat.pow 2 (-d.q).toNat

end Dyadic

/-- The greatest `k` with `10 ^ k ≤ num / den`, climbing from a `k` that is not too great. -/
def climbTen (num den : Nat) : Nat → Int → Int
  | 0, k => k
  | fuel + 1, k =>
    let next := k + 1
    let fits :=
      if next ≥ 0 then den * Nat.pow 10 next.toNat ≤ num else den ≤ num * Nat.pow 10 (-next).toNat
    if fits then climbTen num den fuel next else k

/-- The greatest `k` with `10 ^ k ≤ num / den`. -/
def tenExponent (num den : Nat) : Int :=
  let twos := Format.exponentOf num den
  climbTen num den 6 (twos * 30103 / 100000 - 2)

/-- The decimal number `digits * 10 ^ exponent`. -/
structure Decimal where
  digits : Nat
  exponent : Int
  deriving Repr, BEq, DecidableEq, Inhabited

/-- Which one of two neighbours is taken that are equally near. -/
inductive Tie where
  | up
  | toEven
  deriving Repr, BEq, DecidableEq

namespace Tie

/-- A quotient rounded to the nearest integer. -/
def divNearest (tie : Tie) (a b : Nat) : Nat :=
  match tie with
  | up => (2 * a + b) / (2 * b)
  | toEven => Format.divEven a b

end Tie

namespace Decimal

/-- The same number without zeros at the end. -/
def strip : Nat → Decimal → Decimal
  | 0, d => d
  | fuel + 1, d =>
    if d.digits != 0 && d.digits % 10 == 0 then strip fuel ⟨d.digits / 10, d.exponent + 1⟩ else d

/-- `v / 10 ^ k` as a quotient. -/
def scaled (num den : Nat) (k : Int) : Nat × Nat :=
  (num * Nat.pow 10 (-k).toNat, den * Nat.pow 10 k.toNat)

/-- Does `n * 10 ^ k` round to `d`? The numbers that do lie between the midpoints to the
neighbours of `d`, ends included if `m` is even. -/
def roundsTo (d : Dyadic) (n : Nat) (k : Int) : Bool :=
  let closed := d.m % 2 == 0
  let atPower := d.m == 4503599627370496 && d.q > -1074
  let (low, high) := if atPower then (4 * d.m - 1, 4 * d.m + 2) else (4 * d.m - 2, 4 * d.m + 2)
  let x := n * Nat.pow 10 k.toNat * Nat.pow 2 (2 - d.q).toNat
  let unit := Nat.pow 10 (-k).toNat * Nat.pow 2 (d.q - 2).toNat
  if closed then low * unit ≤ x && x ≤ high * unit else low * unit < x && x < high * unit

/-- The nearer of the two multiples of `10 ^ k` around `d`, if one of them rounds to `d`. -/
def onGrid? (tie : Tie) (d : Dyadic) (k : Int) : Option Decimal :=
  let (a, b) := scaled d.num d.den k
  let n := a / b
  let below := roundsTo d n k
  let above := roundsTo d (n + 1) k
  match below, above with
  | true, true => some ⟨tie.divNearest a b, k⟩
  | true, false => some ⟨n, k⟩
  | false, true => some ⟨n + 1, k⟩
  | false, false => none

/-- Tries finer and finer grids. -/
def search (tie : Tie) (d : Dyadic) : Nat → Int → Decimal
  | 0, k => ⟨d.num / d.den, k⟩
  | fuel + 1, k =>
    match onGrid? tie d k with
    | some x => x
    | none => search tie d fuel (k - 1)

/-- The fewest digits that read back. -/
def shortest (tie : Tie) (d : Dyadic) : Decimal :=
  if d.m == 0 then ⟨0, 0⟩
  else strip 400 (search tie d 17 (tenExponent d.num d.den))

/-- The multiple of `10 ^ -places` nearest to `d`, in units of that. -/
def rounded (tie : Tie) (d : Dyadic) (places : Nat) : Nat :=
  tie.divNearest (d.num * Nat.pow 10 places) d.den

/-- The `count` leading digits of `d`. -/
def leading (tie : Tie) (d : Dyadic) (count : Nat) : Decimal :=
  if d.m == 0 then ⟨0, 1 - count⟩
  else
    let k := tenExponent d.num d.den - (count - 1 : Nat)
    let (a, b) := scaled d.num d.den k
    let n := tie.divNearest a b
    if n == Nat.pow 10 count then ⟨n / 10, k + 1⟩ else ⟨n, k⟩

end Decimal
end Number
end Restyle
