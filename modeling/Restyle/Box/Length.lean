import Restyle.Number.Binary

/-!
# Restyle.Box.Length

Lengths of style sheets in pixels. Relative units count from the base font size; percentages
and `auto` are no lengths.
-/

namespace Restyle
namespace Box

/-- Size of the base font, in pixels. -/
def baseSize : Float32 := 16

/-- Pixels per point. -/
def pixelsPerPoint : Float32 := 96 / 72

/-- A text without an ending, if it has it. -/
def before? (ending : String) (cs : List Char) : Option (List Char) :=
  (Text.after? ending.toList.reverse cs.reverse).map List.reverse

/-- Reads a number with blanks around it. -/
def number? (cs : List Char) : Option Float32 :=
  Number.single? (Text.trimBy Text.isBlank cs)

/-- Reads a length in pixels. -/
def length? (value : List Char) : Option Float32 :=
  let raw := Text.trimBy Text.isBlank value
  if raw.isEmpty || raw.map Char.toLower == "auto".toList || raw.getLast? == some '%' then none
  else
    match before? "px" raw with
    | some n => number? n
    | none =>
      match before? "rem" raw with
      | some n => (number? n).map (· * baseSize)
      | none =>
        match before? "em" raw with
        | some n => (number? n).map (· * baseSize)
        | none =>
          match before? "pt" raw with
          | some n => (number? n).map (· * pixelsPerPoint)
          | none => Number.single? raw

/-- The number itself if it is positive, else zero. -/
def positive (x : Float32) : Float32 := if x > 0 then x else 0

/-- A number kept between two bounds; what is no number stays. -/
def clamp (low high x : Float32) : Float32 :=
  let x := if x < low then low else x
  if x > high then high else x

/-- Lengths on the four sides of a box. -/
structure Edges where
  top : Float32 := 0
  right : Float32 := 0
  bottom : Float32 := 0
  left : Float32 := 0

namespace Edges

/-- Reads one to four lengths; what is no length counts as zero. -/
def parse (value : String) : Edges :=
  match (Text.piecesBy Text.isBlank value.toList).map fun p => positive ((length? p).getD 0) with
  | [] => {}
  | [all] => ⟨all, all, all, all⟩
  | [vertical, horizontal] => ⟨vertical, horizontal, vertical, horizontal⟩
  | [top, horizontal, bottom] => ⟨top, horizontal, bottom, horizontal⟩
  | top :: right :: bottom :: left :: _ => ⟨top, right, bottom, left⟩

end Edges
end Box
end Restyle
