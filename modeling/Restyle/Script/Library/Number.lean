import Restyle.Number.Elementary
import Restyle.Script.Library.Basic

/-!
# Restyle.Script.Library.Number

Numbers, integers of any size, truth values and symbols: what their constructors, `Math` and
the global object offer, and their methods.
-/

namespace Restyle
namespace Script
namespace Library

open Run

def numberTable : List (String × Nat) :=
  [("isFinite", 1), ("isInteger", 1), ("isNaN", 1), ("isSafeInteger", 1)]

def numberMethodTable : List (String × Nat) :=
  [("toExponential", 1), ("toFixed", 1), ("toLocaleString", 0), ("toPrecision", 1),
    ("toString", 1), ("valueOf", 0)]

def booleanMethodTable : List (String × Nat) := [("toString", 0), ("valueOf", 0)]

def symbolTable : List (String × Nat) := [("for", 1), ("keyFor", 1)]

def symbolMethodTable : List (String × Nat) := [("toString", 0), ("valueOf", 0)]

def bigintTable : List (String × Nat) := [("asIntN", 2), ("asUintN", 2)]

def bigintMethodTable : List (String × Nat) :=
  [("toLocaleString", 0), ("toString", 0), ("valueOf", 0)]

def mathTable : List (String × Nat) :=
  [("abs", 1), ("acos", 1), ("acosh", 1), ("asin", 1), ("asinh", 1), ("atan", 1), ("atan2", 2),
    ("atanh", 1), ("cbrt", 1), ("ceil", 1), ("clz32", 1), ("cos", 1), ("cosh", 1), ("exp", 1),
    ("expm1", 1), ("floor", 1), ("fround", 1), ("hypot", 2), ("imul", 2), ("log", 1),
    ("log10", 1), ("log1p", 1), ("log2", 1), ("max", 2), ("min", 2), ("pow", 2), ("random", 0),
    ("round", 1), ("sign", 1), ("sin", 1), ("sinh", 1), ("sqrt", 1), ("tan", 1), ("tanh", 1),
    ("trunc", 1)]

def globalTable : List (String × Nat) :=
  [("parseInt", 2), ("parseFloat", 1), ("isNaN", 1), ("isFinite", 1), ("encodeURI", 1),
    ("encodeURIComponent", 1), ("decodeURI", 1), ("decodeURIComponent", 1)]

def mathConstants : List (String × Float) :=
  [("E", 2.718281828459045), ("LN10", 2.302585092994046), ("LN2", 0.6931471805599453),
    ("LOG10E", 0.4342944819032518), ("LOG2E", 1.4426950408889634), ("PI", 3.141592653589793),
    ("SQRT1_2", 0.7071067811865476), ("SQRT2", 1.4142135623730951)]

def numberConstants : List (String × Float) :=
  [("EPSILON", 2.220446049250313e-16), ("MAX_SAFE_INTEGER", 9007199254740991.0),
    ("MAX_VALUE", 1.7976931348623157e308), ("MIN_SAFE_INTEGER", -9007199254740991.0),
    ("MIN_VALUE", 5e-324), ("NEGATIVE_INFINITY", -Numeral.infinity),
    ("NaN", Numeral.nan), ("POSITIVE_INFINITY", Numeral.infinity)]

/-- The number that a method of numbers is called on. -/
def thisNumber (v : Value) : Run Float := do
  match v with
  | .number x => return x
  | .object ref =>
    match (← obj ref).kind with
    | .wrapper (.number x) => return x
    | _ => typeError "value is not a number"
  | _ => typeError "value is not a number"

def isSafe (x : Float) : Bool := Numeral.isInteger x && x.abs ≤ 9007199254740991.0

def number : Body := fun _ name _ args => do
  match name, arg args 0 with
  | "isFinite", .number x => return .boolean x.isFinite
  | "isInteger", .number x => return .boolean (Numeral.isInteger x)
  | "isNaN", .number x => return .boolean x.isNaN
  | "isSafeInteger", .number x => return .boolean (isSafe x)
  | _, _ => return .boolean false

def numberMethod : Body := fun h name this args => do
  let x ← thisNumber this
  let a := arg args 0
  match name with
  | "valueOf" => return .number x
  | "toLocaleString" => return .text (Numeral.plain x)
  | "toString" =>
    match a with
    | .undefined => return .text (Numeral.text x)
    | v =>
      let base ← toInteger h v
      if base < 2.0 || base > 36.0 then rangeError "radix must be between 2 and 36"
      return .text (Numeral.radix x base.toUInt64.toNat)
  | "toFixed" =>
    let n ← toInteger h a
    if n < 0.0 || n > 100.0 then rangeError "digits must be between 0 and 100"
    return .text (Numeral.fixed x n.toUInt64.toNat)
  | "toExponential" =>
    let n ← toInteger h a
    if !x.isFinite then return .text (Numeral.text x)
    if n < 0.0 || n > 100.0 then rangeError "digits must be between 0 and 100"
    match a with
    | .undefined => return .text (Numeral.exponential x none)
    | _ => return .text (Numeral.exponential x (some n.toUInt64.toNat))
  | "toPrecision" =>
    match a with
    | .undefined => return .text (Numeral.text x)
    | v =>
      let n ← toInteger h v
      if !x.isFinite then return .text (Numeral.text x)
      if n < 1.0 || n > 100.0 then rangeError "precision must be between 1 and 100"
      return .text (Numeral.precision x n.toUInt64.toNat)
  | _ => unknown name

def booleanMethod : Body := fun _ name this _ => do
  let b ← match this with
    | .boolean b => pure b
    | .object ref =>
      match (← obj ref).kind with
      | .wrapper (.boolean b) => pure b
      | _ => typeError "value is not a boolean"
    | _ => typeError "value is not a boolean"
  match name with
  | "toString" => return .text (if b then "true" else "false")
  | _ => return .boolean b

def symbolDescription (id : Nat) : Run Value := do return (← get).symbols.getD id .undefined

def symbol : Body := fun h name _ args => do
  match name with
  | "for" =>
    let x ← toText h (arg args 0)
    match (← get).registry.lookup x with
    | some id => return .symbol id
    | none =>
      let id ← newSymbol (.string x)
      modify fun m => { m with registry := (x, id) :: m.registry }
      return .symbol id
  | "keyFor" =>
    match arg args 0 with
    | .symbol id =>
      match (← get).registry.find? (·.2 == id) with
      | some (x, _) => return .string x
      | none => return .undefined
    | _ => typeError "value is not a symbol"
  | _ => unknown name

def symbolMethod : Body := fun _ name this _ => do
  let id ← match this with
    | .symbol id => pure id
    | .object ref =>
      match (← obj ref).kind with
      | .wrapper (.symbol id) => pure id
      | _ => typeError "value is not a symbol"
    | _ => typeError "value is not a symbol"
  match name with
  | "toString" =>
    match ← symbolDescription id with
    | .string s => return .string ("Symbol(" ++ s ++ ")")
    | _ => return .text "Symbol()"
  | "description" => symbolDescription id
  | _ => return .symbol id

/-- The integer that a value denotes; a number is not taken for one. -/
def toBigint (h : Host) (v : Value) : Run Int := do
  match ← toPrimitive h .number v with
  | .bigint n => return n
  | .boolean b => return if b then 1 else 0
  | .string s =>
    match Numeral.readInteger? s with
    | some n => return n
    | none => raise .form "text is not an integer"
  | _ => typeError "value is not an integer"

/-- The integer that a value or a whole number denotes. -/
def makeBigint (h : Host) (v : Value) : Run Int := do
  match ← toPrimitive h .number v with
  | .number x =>
    if Numeral.isInteger x then return Numeral.truncate x
    rangeError "number is not an integer"
  | p => toBigint h p

def bigint : Body := fun h name _ args => do
  let bits ← toIndex h (arg args 0)
  let n ← toBigint h (arg args 1)
  -- so many bits hold the integer as it is
  let isWide := bits > bitLength n + 1
  match name with
  | "asIntN" =>
    return .bigint (if bits == 0 then 0 else if isWide then n else Int.bmod n (Nat.pow 2 bits))
  | _ => return .bigint (if isWide && n ≥ 0 then n else n % (Nat.pow 2 bits : Nat))

def bigintMethod : Body := fun h name this args => do
  let n ← match this with
    | .bigint n => pure n
    | .object ref =>
      match (← obj ref).kind with
      | .wrapper (.bigint n) => pure n
      | _ => typeError "value is not a BigInt"
    | _ => typeError "value is not a BigInt"
  match name with
  | "valueOf" => return .bigint n
  | "toString" =>
    match arg args 0 with
    | .undefined => return .text (toString n)
    | v =>
      let base ← toInteger h v
      if base < 2.0 || base > 36.0 then rangeError "radix must be between 2 and 36"
      let ds := Numeral.digitsIn base.toUInt64.toNat (n.natAbs.log2 + 2) n.natAbs []
      return .text (String.ofList (if n < 0 then '-' :: ds else ds))
  | _ => return .text (toString n)

/-- The nearest integer, halves up. -/
def roundHalfUp (x : Float) : Float :=
  if !x.isFinite || x.floor == x then x
  else
    let f := x.floor
    let r := if x - f ≥ 0.5 then f + 1.0 else f
    if r == 0.0 && x < 0.0 then -0.0 else r

/-- The greatest or least of numbers; of the two zeros the negative one is less. -/
def extreme (greatest : Bool) (xs : List Float) : Float :=
  xs.foldl (fun a x =>
    if a.isNaN || x.isNaN then Numeral.nan
    else if a == x then
      (if Numeral.isNegative a == greatest then x else a)
    else if (a < x) == greatest then x else a)
    (if greatest then -Numeral.infinity else Numeral.infinity)

/-- The arguments that a function of `Math` looks at. -/
def mathArguments (name : String) (args : List Value) : List Value :=
  if ["max", "min", "hypot"].contains name then args
  else args.take ((mathTable.lookup name).getD 1)

def math : Body := fun h name _ args => do
  let xs ← (mathArguments name args).mapM (toNumber h)
  let x := xs.getD 0 Numeral.nan
  let y := xs.getD 1 Numeral.nan
  let sign (r : Float) : Float := if x == 0.0 || x.isNaN then x else r
  return .number (match name with
    | "abs" => x.abs
    | "acos" => x.acos
    | "acosh" => Number.areaCosine x
    | "asin" => x.asin
    | "asinh" => Number.areaSine x
    | "atan" => x.atan
    | "atan2" => x.atan2 y
    | "atanh" => Number.areaTangent x
    | "cbrt" => x.cbrt
    | "ceil" => x.ceil
    | "clz32" =>
      let n := Numeral.toUInt32 x
      Float.ofNat (if n == 0 then 32 else 31 - n.log2)
    | "cos" => x.cos
    | "cosh" => x.cosh
    | "exp" => x.exp
    | "expm1" => Number.expMinusOne x
    | "floor" => x.floor
    | "fround" => x.toFloat32.toFloat
    | "hypot" => xs.foldl Number.hypotenuse 0.0
    | "imul" =>
      Numeral.ofInt (Int.bmod ((Numeral.toUInt32 x : Int) * Numeral.toUInt32 y) 4294967296)
    | "log" => x.log
    | "log10" => x.log10
    | "log1p" => Number.logOnePlus x
    | "log2" => x.log2
    | "max" => extreme true xs
    | "min" => extreme false xs
    | "pow" => Numeral.power x y
    | "random" => 0.5
    | "round" => roundHalfUp x
    | "sign" => sign (if x < 0.0 then -1.0 else 1.0)
    | "sin" => x.sin
    | "sinh" => x.sinh
    | "sqrt" => x.sqrt
    | "tan" => x.tan
    | "tanh" => x.tanh
    | _ => if x < 0.0 then x.ceil else x.floor)

/-- Characters that are kept when a part of an address is encoded. -/
def isPlainInAddress (c : Char) : Bool :=
  c.isAlphanum || ['-', '_', '.', '!', '~', '*', '\'', '(', ')'].contains c

def isReservedInAddress (c : Char) : Bool :=
  [';', '/', '?', ':', '@', '&', '=', '+', '$', ',', '#'].contains c

def percent (b : UInt8) : List Char :=
  let digit (n : Nat) := (Numeral.digitChar n).toUpper
  ['%', digit (b.toNat / 16), digit (b.toNat % 16)]

/-- Text with the bytes of other characters written as hexadecimal digits. -/
def encodeAddress (keep : Char → Bool) (s : String) : String :=
  String.ofList (s.toList.flatMap fun c =>
    if keep c then [c] else (c.toString.toUTF8.toList).flatMap percent)

/-- Reads bytes written as hexadecimal digits. -/
def percentBytes : List Char → List UInt8 → List UInt8 × List Char
  | '%' :: a :: b :: rest, out =>
    if Text.isHexDigit a && Text.isHexDigit b then
      percentBytes rest ((Text.hexadecimal [a, b]).toUInt8 :: out)
    else (out.reverse, '%' :: a :: b :: rest)
  | cs, out => (out.reverse, cs)

/-- Text with the bytes that are written as hexadecimal digits; some characters stay written. -/
def decodeAddress (stay : Char → Bool) : Nat → List Char → Option (List Char)
  | 0, _ => none
  | _ + 1, [] => some []
  | fuel + 1, '%' :: rest =>
    match percentBytes ('%' :: rest) [] with
    | ([], _) => none
    | (bytes, rest) =>
      match String.fromUTF8? ⟨bytes.toArray⟩ with
      | none => none
      | some s =>
        let out := s.toList.flatMap fun c =>
          if stay c then (c.toString.toUTF8.toList).flatMap percent else [c]
        (decodeAddress stay fuel rest).map (out ++ ·)
  | fuel + 1, c :: rest => (decodeAddress stay fuel rest).map (c :: ·)

def decodeText (stay : Char → Bool) (s : Utf16) : Run Value := do
  let cs := s.spell.toList
  match decodeAddress stay (cs.length + 1) cs with
  | some cs => return .string (Utf16.ofChars cs)
  | none => raise .uri "invalid URI"

def encodeText (keep : Char → Bool) (s : Utf16) : Run Value := do
  match s.text? with
  | some t => return .text (encodeAddress keep t)
  | none => raise .uri "invalid URI"

def global : Body := fun h name _ args => do
  let a := arg args 0
  match name with
  | "parseInt" =>
    let s ← toText h a
    return .number (Numeral.leadingInteger s (Numeral.toInt32 (← toNumber h (arg args 1))))
  | "parseFloat" => return .number (Numeral.leading (← toText h a))
  | "isNaN" => return .boolean (← toNumber h a).isNaN
  | "isFinite" => return .boolean (← toNumber h a).isFinite
  | "encodeURIComponent" => encodeText isPlainInAddress (← toText h a)
  | "encodeURI" =>
    encodeText (fun c => isPlainInAddress c || isReservedInAddress c) (← toText h a)
  | "decodeURIComponent" => decodeText (fun _ => false) (← toText h a)
  | "decodeURI" => decodeText isReservedInAddress (← toText h a)
  | _ => unknown name

end Library
end Script
end Restyle
