import Restyle.Number.Elementary
import Restyle.Script.Store

/-!
# Restyle.Script.Operator

Operators between two values: arithmetic on numbers and on integers of any size, bits,
comparison.
-/

namespace Restyle
namespace Script

namespace Numeral

open Number

/-- Remainder of a division that rounds toward zero; it has the sign of the dividend. -/
def remainder (x y : Float) : Float :=
  if x.isNaN || y.isNaN || !x.isFinite || y == 0.0 then nan
  else if !y.isFinite || x == 0.0 then x
  else
    let a := Dyadic.ofBits x.toBits.toNat
    let b := Dyadic.ofBits y.toBits.toNat
    let q := min a.q b.q
    let n := a.m * Nat.pow 2 (a.q - q).toNat % (b.m * Nat.pow 2 (b.q - q).toNat)
    let bits :=
      if q ≥ 0 then Format.double.round (n * Nat.pow 2 q.toNat) 1
      else Format.double.round n (Nat.pow 2 (-q).toNat)
    let r := Float.ofBits bits.toUInt64
    if isNegative x then -r else r

/-- Remainder, directly for integers of moderate size. -/
def rem (x y : Float) : Float :=
  let bound := 4503599627370496.0
  if 0.0 ≤ x && x < bound && 0.0 < y && y < bound && isInteger x && isInteger y && !isNegative x then
    (x.toUInt64 % y.toUInt64).toFloat
  else remainder x y

def power (x y : Float) : Float :=
  if y.isNaN then nan
  else if y == 0.0 then 1.0
  else if x.abs == 1.0 && !y.isFinite then nan
  else x.pow y

/-- A power of numbers that are there without conversion: one with a small whole exponent is a
product. -/
def directPower (x y : Float) : Float :=
  if isInteger y && y.abs < 2147483648.0 then repeatedPower x (truncate y) else power x y

/-- A bitwise operation on words of 32 bits. -/
def bitwise (f : Nat → Nat → Nat) (x y : Float) : Float :=
  ofInt (Int.bmod (f (toUInt32 x) (toUInt32 y)) 4294967296)

def shiftLeft (x y : Float) : Float :=
  ofInt (Int.bmod (toUInt32 x * Nat.pow 2 (toUInt32 y % 32) : Nat) 4294967296)

def shiftRight (x y : Float) : Float := ofInt (toInt32 x / (Nat.pow 2 (toUInt32 y % 32) : Nat))

def shiftRightUnsigned (x y : Float) : Float := ofNat (toUInt32 x / Nat.pow 2 (toUInt32 y % 32))

end Numeral

/-- A bitwise operation on integers, as if they had infinitely many bits. -/
def bitwiseInt (f : Nat → Nat → Nat) (a b : Int) : Int :=
  let width := max a.natAbs.log2 b.natAbs.log2 + 2
  let m : Int := (Nat.pow 2 width : Nat)
  Int.bmod (f (a % m).toNat (b % m).toNat) (Nat.pow 2 width)

/-- A power of an integer. -/
def powerInt (a : Int) (n : Nat) : Int :=
  let p : Int := if a.natAbs ≤ 1 then (if n == 0 then 1 else a.natAbs) else (Nat.pow a.natAbs n : Nat)
  if a < 0 && n % 2 == 1 then -p else p

/-- Number of bits of an integer without its sign. -/
def bitLength (a : Int) : Nat := if a == 0 then 0 else a.natAbs.log2 + 1

/-- Bits that a power may have at most. -/
def maxPowerBits : Nat := 1000000000

namespace Run

/-- Arithmetic on numbers. -/
def floatOp (op : BinaryOp) (x y : Float) : Value :=
  .number (match op with
    | .sub => x - y
    | .mul => x * y
    | .div => x / y
    | .rem => Numeral.rem x y
    | .power => Numeral.power x y
    | .bitAnd => Numeral.bitwise (· &&& ·) x y
    | .bitOr => Numeral.bitwise (· ||| ·) x y
    | .bitXor => Numeral.bitwise (· ^^^ ·) x y
    | .shiftLeft => Numeral.shiftLeft x y
    | .shiftRight => Numeral.shiftRight x y
    | .shiftRightUnsigned => Numeral.shiftRightUnsigned x y
    | _ => x + y)

/-- Arithmetic on integers. -/
def intOp (op : BinaryOp) (a b : Int) : Run Value := do
  match op with
  | .sub => return .bigint (a - b)
  | .mul => return .bigint (a * b)
  | .div => if b == 0 then rangeError "BigInt division by zero" else return .bigint (a.tdiv b)
  | .rem => if b == 0 then rangeError "BigInt division by zero" else return .bigint (a.tmod b)
  | .power =>
    if b < 0 then rangeError "BigInt negative exponent"
    else if bitLength a * b.toNat > maxPowerBits then rangeError "BigInt is too large"
    else return .bigint (powerInt a b.toNat)
  | .bitAnd => return .bigint (bitwiseInt (· &&& ·) a b)
  | .bitOr => return .bigint (bitwiseInt (· ||| ·) a b)
  | .bitXor => return .bigint (bitwiseInt (· ^^^ ·) a b)
  | .shiftLeft | .shiftRight =>
    if b < -2147483648 || b > 2147483647 then rangeError "BigInt is too large"
    let n := if op == .shiftLeft then b else -b
    if n ≥ 0 then return .bigint (a * (Nat.pow 2 n.toNat : Nat))
    else return .bigint (a / (Nat.pow 2 (-n).toNat : Nat))
  | .shiftRightUnsigned => typeError "BigInt has no unsigned right shift"
  | _ => return .bigint (a + b)

/-- An arithmetic operator other than `+` on any values. -/
def arithmetic (h : Host) (op : BinaryOp) (a b : Value) : Run Value := do
  match a, b with
  | .number x, .number y =>
    return if op == .power then .number (Numeral.directPower x y) else floatOp op x y
  | a, b =>
    let a ← toNumeric h a
    let b ← toNumeric h b
    match a, b with
    | .number x, .number y => return floatOp op x y
    | .bigint x, .bigint y => intOp op x y
    | _, _ => typeError "cannot mix BigInt and other types"

/-- Sum of numbers, or texts one after the other. -/
def plus (h : Host) (a b : Value) : Run Value := do
  match a, b with
  | .number x, .number y => return .number (x + y)
  | .string s, .string t => return .string (s ++ t)
  | a, b =>
    let a ← toPrimitive h .any a
    let b ← toPrimitive h .any b
    match a, b with
    | .string s, b => return .string (s ++ (← primitiveText b))
    | a, .string t => return .string ((← primitiveText a) ++ t)
    | a, b => arithmetic h .add a b

/-- Is an integer less than a number? -/
def intBelow (n : Int) (x : Float) : Bool :=
  if x == Numeral.infinity then true
  else if x == -Numeral.infinity then false
  else n < Numeral.truncate x.ceil

/-- Is the first of two primitive values less than the second? `none` if they cannot be
compared. -/
def below (a b : Value) : Run (Option Bool) := do
  match a, b with
  | .string s, .string t => return some (s.before t)
  | .bigint x, .bigint y => return some (x < y)
  | .bigint x, .string t => return (Numeral.readInteger? t).map (x < ·)
  | .string s, .bigint y => return (Numeral.readInteger? s).map (· < y)
  | .bigint n, b =>
    let y ← primitiveNumber b
    return if y.isNaN then none else some (intBelow n y)
  | a, .bigint n =>
    let x ← primitiveNumber a
    return if x.isNaN then none
      else some (!intBelow n x && !(Numeral.isInteger x && Numeral.truncate x == n))
  | a, b =>
    let x ← primitiveNumber a
    let y ← primitiveNumber b
    return if x.isNaN || y.isNaN then none else some (x < y)

/-- An ordering operator. -/
def ordered (h : Host) (op : BinaryOp) (a b : Value) : Run Value := do
  match a, b with
  | .number x, .number y =>
    return .boolean (match op with
      | .less => x < y
      | .lessEqual => x ≤ y
      | .greater => x > y
      | _ => x ≥ y)
  | a, b =>
    let a ← toPrimitive h .number a
    let b ← toPrimitive h .number b
    match op with
    | .less => return .boolean ((← below a b).getD false)
    | .greater => return .boolean ((← below b a).getD false)
    | .lessEqual => return .boolean (!(← below b a).getD true)
    | _ => return .boolean (!(← below a b).getD true)

/-- Is an object among the parents of another? -/
def inherits (h : Host) (target : Nat) : Nat → Nat → Run Bool
  | 0, _ => return false
  | fuel + 1, ref => do
    match ← parent? h ref with
    | some p => if p == target then return true else inherits h target fuel p
    | none => return false

/-- Was an object made by a function? The function is asked first, if it has a method for that and
`asks` holds. -/
def isInstance (h : Host) : Nat → Bool → Value → Value → Run Bool
  | 0, _, _, _ => return false
  | fuel + 1, asks, v, f => do
    match f with
    | .object ref =>
      if asks then
        if let some test ← method? h f (.symbol Symbols.hasInstance) then
          return (← h.call test f [v]).truthy
        if !(← isCallable f) then typeError "right-hand side of 'instanceof' is not callable"
      if !(← isCallable f) then return false
      match (← obj ref).kind with
      | .bound target _ _ => isInstance h fuel true v target
      | _ =>
        match v with
        | .object r =>
          match ← getName h f "prototype" with
          | .object p => inherits h p chainBound r
          | _ => typeError "'prototype' property is not an object"
        | _ => return false
    | _ =>
      if asks then typeError "right-hand side of 'instanceof' is not an object" else return false

/-- An operator whose operands both have values. -/
def binary (h : Host) (op : BinaryOp) (a b : Value) : Run Value := do
  match op with
  | .add => plus h a b
  | .same => return .boolean (a.same b)
  | .different => return .boolean (!a.same b)
  | .equal => return .boolean (← looselySame h 5 a b)
  | .unequal => return .boolean (!(← looselySame h 5 a b))
  | .less | .lessEqual | .greater | .greaterEqual => ordered h op a b
  | .within =>
    match b with
    | .object ref => return .boolean (← hasProperty h ref (← toKey h a))
    | _ => typeError "right-hand side of 'in' should be an object"
  | .isInstance => return .boolean (← isInstance h 100 true a b)
  | op => arithmetic h op a b

def unary (h : Host) (op : UnaryOp) (v : Value) : Run Value := do
  match op with
  | .not => return .boolean (!v.truthy)
  | .discard => return .undefined
  | .plus => return .number (← toNumber h v)
  | .minus =>
    match ← toNumeric h v with
    | .bigint n => return .bigint (-n)
    | .number x => return .number (-x)
    | v => return v
  | .complement =>
    match ← toNumeric h v with
    | .bigint n => return .bigint (-n - 1)
    | .number x => return .number (Numeral.ofInt (-(Numeral.toInt32 x) - 1))
    | v => return v

end Run
end Script
end Restyle
