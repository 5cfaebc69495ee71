import Restyle.Number.Shortest
import Restyle.Script.Utf16

/-!
# Restyle.Script.Numeral

Numbers of scripts as text and text as numbers.

* `Numeral.text` — the fewest digits that read back; positional from `1e-6` up to `1e21`.
* `Numeral.plain`, `Numeral.fixed`, `Numeral.exponential`, `Numeral.precision`, `Numeral.radix` —
  other forms.
* `Numeral.read` — the number that a whole text denotes, `NaN` if none.
* `Numeral.leading`, `Numeral.leadingInteger` — the number that a text begins with.
-/

namespace Restyle
namespace Script
namespace Numeral

open Number

def nan : Float := 0.0 / 0.0

def infinity : Float := 1.0 / 0.0

/-- Is the sign bit set? -/
def isNegative (x : Float) : Bool := x.toBits ≥ 0x8000000000000000

def isInteger (x : Float) : Bool := x.isFinite && x.floor == x

/-- The integer part of a finite number, zero for all others. -/
def truncate (x : Float) : Int :=
  if !x.isFinite then 0
  else if x.abs < 9007199254740992.0 then x.toInt64.toInt
  else
    let d := Dyadic.ofBits x.toBits.toNat
    let n : Int := d.num / d.den
    if isNegative x then -n else n

def ofNat (n : Nat) : Float := Float.ofNat n

def ofInt (n : Int) : Float := Float.ofInt n

/-- The number as a signed word of 32 bits. -/
def toInt32 (x : Float) : Int := (truncate x).bmod 4294967296

/-- The number as an unsigned word of 32 bits. -/
def toUInt32 (x : Float) : Nat := ((truncate x) % 4294967296).toNat

def zeros (n : Nat) : List Char := List.replicate n '0'

def digitsOf (n : Nat) : List Char := Nat.toDigits 10 n

/-- The exponent part of a numeral, with a sign in any case. -/
def exponentPart (e : Int) : List Char :=
  'e' :: (if e < 0 then '-' else '+') :: digitsOf e.natAbs

/-- One digit, a point if more follow, and an exponent. -/
def scientific (ds : List Char) (e : Int) : List Char :=
  match ds with
  | [] => []
  | d :: rest => d :: ((if rest.isEmpty then [] else '.' :: rest) ++ exponentPart e)

/-- Digits with a point after a number of them; zeros are filled in as needed. -/
def positional (ds : List Char) (point : Int) : List Char :=
  let k : Int := ds.length
  if k ≤ point then ds ++ zeros (point - k).toNat
  else if 0 < point then ds.take point.toNat ++ '.' :: ds.drop point.toNat
  else '0' :: '.' :: (zeros (-point).toNat ++ ds)

/-- The text of a number that is not negative. -/
def magnitude (x : Float) : List Char :=
  if x < 9007199254740992.0 && isInteger x then digitsOf x.toUInt64.toNat
  else
    let d := Decimal.shortest .toEven (Dyadic.ofBits x.toBits.toNat)
    let ds := digitsOf d.digits
    let point : Int := ds.length + d.exponent
    if point ≤ 21 && -6 < point then positional ds point
    else scientific ds (point - 1)

/-- A form for numbers that are not negative, extended to all numbers. -/
def signed (form : Float → List Char) (x : Float) : String :=
  if x.isNaN then "NaN"
  else if x == infinity then "Infinity"
  else if x == -infinity then "-Infinity"
  else if x < 0.0 then String.ofList ('-' :: form x.abs)
  else String.ofList (form x.abs)

def text (x : Float) : String := signed magnitude x

/-- The number as it is written where no exponent is wanted. -/
def plain (x : Float) : String :=
  if x.isNaN then "NaN"
  else
    let sign := if isNegative x then ['-'] else []
    if !x.isFinite then String.ofList (sign ++ "inf".toList)
    else
      let d := Decimal.shortest .up (Dyadic.ofBits x.toBits.toNat)
      let ds := digitsOf d.digits
      String.ofList (sign ++ positional ds (ds.length + d.exponent))

/-- How many blocks of nine places after the point are too far to the left for the numbers of a
row, which are those below `2 ^ 54` times `2 ^ (-16 row)`. -/
def emptyBlocks (row : Nat) : Nat :=
  (List.range 40).findIdx fun j => Nat.pow 2 (16 * row - 54) ≤ Nat.pow 10 (9 * (j + 1))

/-- The factor for a block of nine places of the numbers of a row, as far as it matters. -/
def blockFactor (row block : Nat) : Nat :=
  Nat.pow 10 (9 * block) * Nat.pow 2 (120 - 16 * row) / Nat.pow 2 (16 * row - 120) %
    (Nat.pow 10 9 * Nat.pow 2 136)

/-- What stands in the empty blocks of a number if there are places beyond them. It is not zero:
the factors for these blocks are the last ones of the row before. -/
def strayDigits (d : Number.Dyadic) (places : Nat) : Nat :=
  let e := (-d.q).toNat
  let row := e / 16
  let empty := emptyBlocks row
  if places / 9 + 1 ≤ empty then 0
  else
    let last := (16 * row + 8) / 9
    let block (i : Nat) : Nat :=
      d.m * blockFactor (row - 1) (last + 1 + i - empty) / Nat.pow 2 (120 + e % 16) % Nat.pow 10 9
    (List.range empty).foldl (fun n i => n + block i * Nat.pow 10 (places - 9 * (i + 1))) 0

/-- With a number of places after the point. -/
def fixed (x : Float) (places : Nat) : String :=
  if x.abs ≥ 1e21 then text x
  else
    signed (fun x =>
      let d := Dyadic.ofBits x.toBits.toNat
      let n := Decimal.rounded .up d places + (if x == 0.0 then 0 else strayDigits d places)
      let ds := digitsOf n
      let ds := zeros (places + 1 - ds.length) ++ ds
      let whole := ds.take (ds.length - places)
      if places == 0 then whole else whole ++ '.' :: ds.drop (ds.length - places)) x

/-- In scientific form, with a number of digits after the first or as few as needed. -/
def exponential (x : Float) (places : Option Nat) : String :=
  signed (fun x =>
    let d := Dyadic.ofBits x.toBits.toNat
    let dec := match places with
      | some n => Decimal.leading .toEven d (n + 1)
      | none => Decimal.shortest .up d
    let ds := digitsOf dec.digits
    let ds := match places with
      | some n => if x == 0.0 then zeros (n + 1) else ds
      | none => ds
    scientific ds (if x == 0.0 then 0 else ds.length - 1 + dec.exponent)) x

/-- Places after the point that are looked at for significant digits. -/
def visiblePlaces : Nat := 100

/-- The leading digits of a number, of which so many places after the point are looked at, and
the exponent of the first. If nothing is seen of it, its exponent is one beyond them. -/
def visibleDigits (d : Number.Dyadic) (count : Nat) : Nat × Int :=
  let n := Decimal.rounded .toEven d visiblePlaces
  if n == 0 then (0, visiblePlaces + 1)
  else
    let length := (digitsOf n).length
    let e : Int := (length : Int) - 1 - visiblePlaces
    if length ≤ count then (n * Nat.pow 10 (count - length), e)
    else
      let m := n / Nat.pow 10 (length - count)
      let next := n / Nat.pow 10 (length - count - 1) % 10
      let m := if next > 4 then m + 1 else m
      if m == Nat.pow 10 count then (m / 10, e + 1) else (m, e)

/-- With a number of significant digits. -/
def precision (x : Float) (count : Nat) : String :=
  signed (fun x =>
    if x == 0.0 then positional (zeros count) 1
    else
      let (m, e) := visibleDigits (Dyadic.ofBits x.toBits.toNat) count
      let ds := if m == 0 then zeros count else digitsOf m
      if e < -6 || e ≥ count then scientific ds e else positional ds (e + 1)) x

def digitChar (n : Nat) : Char :=
  if n < 10 then Char.ofNat (48 + n) else Char.ofNat (87 + n)

/-- Digits of a number in a base up to 36, put before given ones. -/
def digitsIn (base : Nat) : Nat → Nat → List Char → List Char
  | 0, _, out => out
  | fuel + 1, n, out =>
    let out := digitChar (n % base) :: out
    if n / base == 0 then out else digitsIn base fuel (n / base) out

/-- Digits of the whole part in a base; digits beyond the precision of the number are zero. -/
def wholeDigits (base : Float) : Nat → Float → List Char → List Char
  | 0, _, out => out
  | fuel + 1, x, out =>
    if x ≥ 9007199254740992.0 then wholeDigits base fuel (x / base) ('0' :: out)
    else
      digitsIn base.toUInt64.toNat 64 x.toUInt64.toNat out

/-- A carry from the last digit; `true` if it runs out of the first. -/
def carry (base : Nat) : List Nat → List Nat × Bool
  | [] => ([], true)
  | d :: rest => if d + 1 < base then ((d + 1) :: rest, false) else carry base rest

/-- Digits after the point in a base, last first, as many as tell the number from its
neighbours; and whether the whole part grows by one. -/
def fractionDigits (base : Nat) : Nat → Float → Float → List Nat → List Nat × Bool
  | 0, _, _, out => (out, false)
  | fuel + 1, x, delta, out =>
    let b := ofNat base
    let x := x * b
    let delta := delta * b
    let digit := x.toUInt64.toNat
    let x := x - ofNat digit
    let out := digit :: out
    if x > 0.5 || (x == 0.5 && digit % 2 == 1) then
      if x + delta > 1.0 then carry base out
      else if x ≥ delta then fractionDigits base fuel x delta out
      else (out, false)
    else if x ≥ delta then fractionDigits base fuel x delta out
    else (out, false)

/-- In a base from 2 to 36. -/
def radix (x : Float) (base : Nat) : String :=
  if base == 10 then text x
  else
    signed (fun x =>
      let whole := x.floor
      let fraction := x - whole
      let next := Float.ofBits (x.toBits + 1)
      let delta := max (0.5 * (next - x)) (Float.ofBits 1)
      let (ds, grows) :=
        if fraction ≥ delta then fractionDigits base 1100 fraction delta [] else ([], false)
      let whole := if grows then whole + 1.0 else whole
      wholeDigits (ofNat base) 1100 whole [] ++
        (if ds.isEmpty then [] else '.' :: ds.reverse.map digitChar)) x

/-! ## Reading -/

def digitValue (c : Char) : Nat :=
  if c.isDigit then c.toNat - 48
  else if 'a' ≤ c && c ≤ 'z' then c.toNat - 87
  else if 'A' ≤ c && c ≤ 'Z' then c.toNat - 55
  else 36

/-- Digits of a base as a number. -/
def inBase (base : Nat) (ds : List Char) : Nat := ds.foldl (fun n c => n * base + digitValue c) 0

/-- A fraction of decimal digits, exactly rounded. -/
def nearest (n : Nat) : Float := Number.ofScientific n 0

/-- The unsigned decimal number that a text denotes. -/
def unsigned? (cs : List Char) : Option Float :=
  (Format.double.ofUnsigned? cs).map fun bits => Float.ofBits bits.toUInt64

/-- The number after one more digit of a base. -/
def extend (base : Nat) (x : Float) (digit : Nat) : Float :=
  if x < 9007199254740992.0 then nearest (x.toUInt64.toNat * base + digit)
  else if !x.isFinite then x
  else nearest ((truncate x).toNat * base + digit)

/-- Digits of a base after `0x`, `0o` or `0b`: a small number, which may have a plus sign, or
digits that are taken in one after the other, each time rounded. -/
def based? (base : Nat) (ds : List Char) : Option Float :=
  let small := match ds with
    | '+' :: rest => rest
    | ds => ds
  if !small.isEmpty && small.all (digitValue · < base) && inBase base small < 4294967296 then
    some (nearest (inBase base small))
  else if !ds.isEmpty && ds.all (digitValue · < base) then
    some (ds.foldl (fun x c => extend base x (digitValue c)) 0.0)
  else none

/-- Is the text the word for infinity, long or short, in letters of either case? -/
def isInfinityWord (cs : List Char) : Bool :=
  let low := cs.map Char.toLower
  low == "infinity".toList || low == "inf".toList

/-- The number that a text without white space around it denotes. -/
def readTrimmed? : List Char → Option Float
  | [] => some 0.0
  | '0' :: 'x' :: ds | '0' :: 'X' :: ds => based? 16 ds
  | '0' :: 'o' :: ds | '0' :: 'O' :: ds => based? 8 ds
  | '0' :: 'b' :: ds | '0' :: 'B' :: ds => based? 2 ds
  | cs =>
    let (signed, negative, rest) := match cs with
      | '-' :: rest => (true, true, rest)
      | '+' :: rest => (true, false, rest)
      | _ => (false, false, cs)
    let x :=
      if rest == "Infinity".toList || (signed && isInfinityWord rest) then some infinity
      else unsigned? rest
    x.map fun x => if negative then -x else x

/-- The number that a whole text denotes. -/
def read (s : Utf16) : Float :=
  match s with
  | .whole s => (readTrimmed? (Text.trimBy Utf16.isSpace s.toList)).getD nan
  | .broken _ => nan

/-- Digits of an integer in a base, with a sign and with separators after the first of them. -/
def signedDigits? (base : Nat) (cs : List Char) : Option Int :=
  let (negative, cs) := match cs with
    | '-' :: rest => (true, rest)
    | '+' :: rest => (false, rest)
    | cs => (false, cs)
  let ds := cs.filter (· != '_')
  if cs.isEmpty || cs.head? == some '_' || !ds.all (digitValue · < base) then none
  else
    let n : Int := inBase base ds
    some (if negative then -n else n)

/-- The integer of any size that a whole text denotes. -/
def readInteger? (s : Utf16) : Option Int :=
  match s with
  | .broken _ => none
  | .whole s =>
    match Text.trimBy Utf16.isSpace s.toList with
    | [] => some 0
    | '0' :: 'x' :: ds | '0' :: 'X' :: ds => signedDigits? 16 ds
    | '0' :: 'o' :: ds | '0' :: 'O' :: ds => signedDigits? 8 ds
    | '0' :: 'b' :: ds | '0' :: 'B' :: ds => signedDigits? 2 ds
    | cs => signedDigits? 10 cs

/-- Sign and rest of a text that may begin with one. -/
def splitSign : List Char → Bool × List Char
  | '-' :: rest => (true, rest)
  | '+' :: rest => (false, rest)
  | cs => (false, cs)

/-- The longest beginning that is a decimal number. -/
def leading (s : Utf16) : Float :=
  let (negative, cs) := splitSign (s.spell.toList.dropWhile Utf16.isSpace)
  let x :=
    match Text.after? "Infinity".toList cs with
    | some _ => infinity
    | none =>
      let whole := cs.takeWhile Char.isDigit
      let rest := cs.dropWhile Char.isDigit
      let (fraction, rest) := match rest with
        | '.' :: rest => (rest.takeWhile Char.isDigit, rest.dropWhile Char.isDigit)
        | _ => ([], rest)
      let exponent : List Char := match rest with
        | c :: rest =>
          if c == 'e' || c == 'E' then
            let (sign, ds) := match rest with
              | '-' :: ds => (['-'], ds)
              | '+' :: ds => ([], ds)
              | ds => ([], ds)
            let ds := ds.takeWhile Char.isDigit
            if ds.isEmpty then [] else 'e' :: (sign ++ ds)
          else []
        | [] => []
      (unsigned? (whole ++ '.' :: fraction ++ exponent)).getD nan
  if negative then -x else x

/-- The longest beginning that is an integer in a base; base 0 stands for 10, or 16 after
`0x`. -/
def leadingInteger (s : Utf16) (base : Int) : Float :=
  let (negative, cs) := splitSign (s.spell.toList.dropWhile Utf16.isSpace)
  let (base, cs) : Int × List Char := match cs with
    | '0' :: 'x' :: rest | '0' :: 'X' :: rest =>
      if base == 0 || base == 16 then (16, rest) else (base, cs)
    | _ => (if base == 0 then 10 else base, cs)
  if base < 2 || base > 36 then nan
  else
    let ds := cs.takeWhile (digitValue · < base.toNat)
    if ds.isEmpty then nan
    else
      let n := inBase base.toNat ds
      -- beyond words of 64 bits, digits are taken for decimal ones where they can be
      let decimal := if n < Nat.pow 2 64 then none else unsigned? ds
      let x := decimal.getD (nearest n)
      if negative then -x else x

end Numeral
end Script
end Restyle
