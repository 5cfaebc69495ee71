import Restyle.Box.Length

/-!
# Restyle.Box.Colour

Colours as they are painted: red, green and blue multiplied by the opacity in linear light, and
the opacity, in bytes.
-/

namespace Restyle
namespace Box

structure Colour where
  red : UInt8
  green : UInt8
  blue : UInt8
  alpha : UInt8 := 255
  deriving Repr, BEq, DecidableEq, Inhabited

namespace Colour

def transparent : Colour := ⟨0, 0, 0, 0⟩

def black : Colour := ⟨0, 0, 0, 255⟩

/-- Light of a byte of colour. -/
def linear (s : Float32) : Float32 :=
  if s ≤ 10 then s / 3294.6 else ((s + 14.025) / 269.025).pow 2.4

/-- Byte of colour for an amount of light. -/
def gamma (l : Float32) : UInt8 :=
  if l ≤ 0 then 0
  else if l ≤ 0.0031308 then (3294.6 * l + 0.5).floor.toUInt8
  else if l ≤ 1 then (269.025 * l.pow (1 / 2.4) - 14.025 + 0.5).floor.toUInt8
  else 255

/-- A colour from channels that are not yet multiplied by the opacity. -/
def ofChannels (red green blue alpha : UInt8) : Colour :=
  if alpha == 0 then transparent
  else if alpha == 255 then ⟨red, green, blue, 255⟩
  else
    let opacity : Float32 := alpha.toFloat32 / 255
    let channel (c : UInt8) := gamma (linear c.toFloat32 * opacity)
    ⟨channel red, channel green, channel blue, alpha⟩

/-- Rounds to a byte, halves away from zero; what is no number is zero. -/
def toByte (x : Float32) : UInt8 := x.round.toUInt8

/-- Reads two hexadecimal digits, or one after a plus sign. -/
def hexByte? (a b : Char) : Option UInt8 :=
  if a == '+' then if Text.isHexDigit b then some (Text.hexValue b).toUInt8 else none
  else if Text.isHexDigit a && Text.isHexDigit b then
    some (16 * Text.hexValue a + Text.hexValue b).toUInt8
  else none

/-- Reads the digits of `#rgb`, `#rrggbb` or `#rrggbbaa`. -/
def ofHex? : List Char → Option Colour
  | [r, g, b] => do return ⟨← hexByte? r r, ← hexByte? g g, ← hexByte? b b, 255⟩
  | [r, r', g, g', b, b'] => do return ⟨← hexByte? r r', ← hexByte? g g', ← hexByte? b b', 255⟩
  | [r, r', g, g', b, b', a, a'] => do
    return ofChannels (← hexByte? r r') (← hexByte? g g') (← hexByte? b b') (← hexByte? a a')
  | _ => none

/-- Reads a channel: a number up to 255 or a percentage. -/
def channel? (cs : List Char) : Option UInt8 :=
  match before? "%" cs with
  | some percent => (number? percent).map fun v => toByte (clamp 0 100 v / 100 * 255)
  | none => (Number.single? cs).map fun v => toByte (clamp 0 255 v)

/-- Reads three channels, and an opacity where one is expected. -/
def ofFunction? (hasAlpha : Bool) (inside : List Char) : Option Colour :=
  match (Text.splitAt ',' inside).map (Text.trimBy Text.isBlank), hasAlpha with
  | [r, g, b], false => do return ofChannels (← channel? r) (← channel? g) (← channel? b) 255
  | [r, g, b, a], true => do
    let alpha := toByte (clamp 0 1 (← Number.single? a) * 255)
    return ofChannels (← channel? r) (← channel? g) (← channel? b) alpha
  | _, _ => none

def named : List (String × Colour) :=
  [("black", black), ("white", ⟨255, 255, 255, 255⟩), ("gray", ⟨160, 160, 160, 255⟩),
   ("grey", ⟨160, 160, 160, 255⟩), ("red", ⟨255, 0, 0, 255⟩), ("green", ⟨0, 255, 0, 255⟩),
   ("blue", ⟨0, 0, 255, 255⟩), ("yellow", ⟨255, 255, 0, 255⟩), ("orange", ⟨255, 165, 0, 255⟩),
   ("purple", ⟨128, 0, 128, 255⟩), ("transparent", transparent)]

/-- The text inside `name(...)`. -/
def inside? (name : String) (raw : List Char) : Option (List Char) :=
  (Text.after? (name.toList ++ ['(']) raw).bind (before? ")")

/-- Reads a colour: hexadecimal digits, a function or a name. -/
def parse? (value : List Char) : Option Colour :=
  let raw := (Text.trimBy Text.isBlank value).map Char.toLower
  match raw with
  | '#' :: digits => ofHex? digits
  | _ =>
    match inside? "rgba" raw with
    | some inside => ofFunction? true inside
    | none =>
      match inside? "rgb" raw with
      | some inside => ofFunction? false inside
      | none => named.lookup (String.ofList raw)

end Colour
end Box
end Restyle
