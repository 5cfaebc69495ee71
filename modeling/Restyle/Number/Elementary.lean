import Restyle.Number.Shortest

/-!
# Restyle.Number.Elementary

Functions of numbers of double precision.

* `hypotenuse` — the length of the longest side of a right triangle, exactly rounded.
* `expMinusOne`, `logOnePlus` — the exponential function and the logarithm near their zeros.
* `areaSine`, `areaCosine`, `areaTangent` — the inverse hyperbolic functions.
* `repeatedPower` — a power as a product of squares, each of them rounded.
-/

namespace Restyle
namespace Number

/-- The greatest number whose square is not above `n`, if there is fuel for half of its bits. -/
def squareRoot : Nat → Nat → Nat
  | 0, _ => 0
  | fuel + 1, n =>
    if n == 0 then 0
    else
      let r := 2 * squareRoot fuel (n / 4)
      if (r + 1) * (r + 1) ≤ n then r + 1 else r

/-- The number of double precision nearest to a quotient. -/
def ofQuotient (num den : Nat) : Float := Float.ofBits (Format.double.round num den).toUInt64

/-- The square root of `n * 4 ^ e`. A bit is put behind the digits of the root that are computed
if there are more, so that the root lies on the right side of every midpoint. -/
def rootOf (n : Nat) (e : Int) : Float :=
  let n := n * Nat.pow 4 64
  let r := squareRoot (n.log2 + 1) n
  let r := 2 * r + (if r * r == n then 0 else 1)
  let e := e - 65
  if e ≥ 0 then ofQuotient (r * Nat.pow 2 e.toNat) 1
  else ofQuotient r (Nat.pow 2 (-e).toNat)

def hypotenuse (x y : Float) : Float :=
  if x.isInf || y.isInf then 1.0 / 0.0
  else if x.isNaN || y.isNaN then 0.0 / 0.0
  else if x == 0.0 then y.abs
  else if y == 0.0 then x.abs
  else
    let a := Dyadic.ofBits x.toBits.toNat
    let b := Dyadic.ofBits y.toBits.toNat
    let q := min a.q b.q
    let m := a.m * Nat.pow 2 (a.q - q).toNat
    let n := b.m * Nat.pow 2 (b.q - q).toNat
    rootOf (m * m + n * n) q

/-! ## Exponential function and logarithm

Both are taken near 1 by polynomials. Any other number is first brought there: a multiple of the
logarithm of 2, held in a high and a low part, is taken off, or a power of 2. -/

def ln2High : Float := 6.93147180369123816490e-01

def ln2Low : Float := 1.90821492927058770002e-10

/-- A power of 2 in the range of normal numbers. -/
def powerOfTwo (k : Int) : Float := Float.ofBits ((1023 + k).toNat * Nat.pow 2 52).toUInt64

/-- A number as `k` times the logarithm of 2, a number near zero, and what was lost of that. -/
def offLogs (x : Float) : Int × Float × Float :=
  let a := x.abs
  if a ≤ 0.34657359 then (0, x, 0.0)
  else
    let k : Int :=
      if a < 1.03972077 then (if x < 0.0 then -1 else 1)
      else (1.44269504088896338700 * x + (if x < 0.0 then -0.5 else 0.5)).toInt64.toInt
    let t := Float.ofInt k
    let high := x - t * ln2High
    let low := t * ln2Low
    let y := high - low
    (k, y, high - y - low)

/-- `e ^ x - 1`; for tiny numbers that is the number itself. -/
def expMinusOne (x : Float) : Float :=
  if x.isNaN || x.abs < 5.0e-17 then x
  else if x > 38.0 then x.exp
  else if x < -38.0 then -1.0
  else
    let (k, x, c) := offLogs x
    let half := 0.5 * x
    let h := x * half
    let h2 := h * h
    let r := 1.0 + h * -3.33333333333331316428e-02 +
      h2 * (1.58730158725481460165e-03 + h * -7.93650757867487942473e-05) +
      h2 * h2 * (4.00821782732936239552e-06 + h * -2.01099218183624371326e-07)
    let t := 3.0 - r * half
    let e := h * ((r - t) / (6.0 - x * t))
    if k == 0 then x - (x * e - h)
    else
      let e := x * (e - c) - c - h
      if k == -1 then 0.5 * (x - e) - 0.5
      else if k == 1 then
        if x < -0.25 then -2.0 * (e - (x + 0.5)) else 1.0 + 2.0 * (x - e)
      else if k < 0 then powerOfTwo k * (1.0 - (e - x)) - 1.0
      else if k < 20 then powerOfTwo k * (1.0 - powerOfTwo (-k) - (e - x))
      else powerOfTwo k * (x - (e + powerOfTwo (-k)) + 1.0)

/-- `1 + x` as a power of 2, the rest of the other factor over 1, and what was lost. -/
def offPowers (x : Float) : Int × Float × Float :=
  if -0.2928932 < x && x < 0.41421356 then (0, x, 0.0)
  else
    let u := 1.0 + x
    let k : Int := (u.toBits.toNat / Nat.pow 2 52 : Nat) - 1023
    let c := (if k > 0 then 1.0 - (u - x) else x - (u - 1.0)) / u
    let fraction := u.toBits.toNat % Nat.pow 2 52
    -- the factor is taken from 1/√2 to √2
    let (k, exponent) := if fraction / Nat.pow 2 32 < 0x6a09e then (k, 1023) else (k + 1, 1022)
    (k, Float.ofBits (exponent * Nat.pow 2 52 + fraction).toUInt64 - 1.0, c)

/-- The logarithm of `1 + x`; for tiny numbers that is the number itself. -/
def logOnePlus (x : Float) : Float :=
  if x.isNaN || x.abs < 5.0e-17 then x
  else if x < -1.0 then 0.0 / 0.0
  else if x == -1.0 then -1.0 / 0.0
  else if x > 1.0e16 then x.log
  else if x.abs < 1.8e-9 then x - x * x * 0.5
  else
    let (k, f, c) := offPowers x
    let t := Float.ofInt k
    let half := 0.5 * f * f
    if f.abs < 9.5e-7 && k != 0 then
      let r := half * (1.0 - 0.66666666666666666 * f)
      t * ln2High - (r - (t * ln2Low + c) - f)
    else
      let s := f / (2.0 + f)
      let z := s * s
      let z2 := z * z
      let z4 := z2 * z2
      let r := z * 6.666666666666735130e-01 +
        z2 * (3.999999999940941908e-01 + z * 2.857142874366239149e-01) +
        z4 * (2.222219843214978396e-01 + z * 1.818357216161805012e-01) +
        z4 * z2 * (1.531383769920937332e-01 + z * 1.479819860511658591e-01)
      if k == 0 then f - (half - s * (half + r))
      else t * ln2High - (half - (s * (half + r) + (t * ln2Low + c)) - f)

/-! ## Inverse hyperbolic functions -/

def areaSine (x : Float) : Float :=
  let a := x.abs
  let i := 1.0 / a
  let r := logOnePlus (a + a / (hypotenuse 1.0 i + i))
  if x.isNaN then x else if x.toBits ≥ 0x8000000000000000 then -r else r

def areaCosine (x : Float) : Float :=
  if x < 1.0 then 0.0 / 0.0 else (x + (x - 1.0).sqrt * (x + 1.0).sqrt).log

def areaTangent (x : Float) : Float := 0.5 * logOnePlus (2.0 * x / (1.0 - x))

/-! ## Powers -/

/-- `r` times a power of `a`, by squares of `a`. -/
def timesPower : Nat → Nat → Float → Float → Float
  | 0, _, _, r => r
  | fuel + 1, n, a, r =>
    let r := if n % 2 == 1 then r * a else r
    if n / 2 == 0 then r else timesPower fuel (n / 2) (a * a) r

/-- A power with a whole exponent; one over it if the exponent is negative. -/
def repeatedPower (a : Float) (n : Int) : Float :=
  let r := timesPower 64 n.natAbs a 1.0
  if n < 0 then 1.0 / r else r

end Number
end Restyle
