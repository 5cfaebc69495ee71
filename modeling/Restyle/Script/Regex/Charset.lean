import Restyle.Script.Utf16
import Restyle.Text.Case

/-!
# Restyle.Script.Regex.Charset

Sets of code points in regular expressions, and when code points count as the same although they
differ in case.
-/

namespace Restyle
namespace Script
namespace Regex

/-- The flags that change what matches. -/
structure Flags where
  ignoreCase : Bool
  multiline : Bool
  dotAll : Bool
  /-- Are texts read by code points? -/
  unicode : Bool
  /-- Can classes be put together from other classes? -/
  sets : Bool

/-- Flags by their letters: known ones, each at most once, and at most one way to read texts. -/
def Flags.ofText? (flags : String) : Option Flags :=
  let cs := flags.toList
  let has (c : Char) := cs.contains c
  if cs.all (['d', 'g', 'i', 'm', 's', 'u', 'v', 'y'].contains ·) && cs.eraseDups.length == cs.length &&
      !(has 'u' && has 'v') then
    some { ignoreCase := has 'i', multiline := has 'm', dotAll := has 's'
           unicode := has 'u' || has 'v', sets := has 'v' }
  else none

abbrev Charset := Nat → Bool

/-! ## Case -/

/-- The code that a case mapping gives, if it is a single one. -/
def mapCode (f : Char → List Char) (n : Nat) : Nat :=
  if 0xD800 ≤ n && n < 0xE000 then n
  else
    match f (Char.ofNat n) with
    | [c] => c.toNat
    | _ => n

def upperCode (n : Nat) : Nat :=
  if n < 128 then (if 97 ≤ n && n ≤ 122 then n - 32 else n) else mapCode Text.upperChar n

def lowerCode (n : Nat) : Nat :=
  if n < 128 then (if 65 ≤ n && n ≤ 90 then n + 32 else n) else mapCode Text.lowerChar n

/-- The code that stands for all that differ in case only. Unless texts are read by code points,
no code within ASCII stands for one beyond. -/
def canon (f : Flags) (n : Nat) : Nat :=
  if !f.ignoreCase then n
  else if f.unicode then (if n == 0x130 || n == 0x131 then n else lowerCode (upperCode n))
  else
    let u := upperCode n
    if n ≥ 128 && u < 128 then n else u

/-- Codes that differ in case only, beyond one upper and one lower case. -/
def variants : List (List Nat) :=
  [[0x73, 0x17F], [0x6B, 0x212A], [0xE5, 0x212B], [0x3C9, 0x2126], [0x3C3, 0x3C2], [0x3BC, 0xB5],
    [0x1E61, 0x1E9B], [0x3B2, 0x3D0], [0x3B8, 0x3D1, 0x3F4], [0x3C6, 0x3D5], [0x3C0, 0x3D6],
    [0x3BA, 0x3F0], [0x3C1, 0x3F1], [0x3B5, 0x3F5], [0x3B9, 0x345, 0x1FBE], [0xDF, 0x1E9E],
    [0x1C6, 0x1C5, 0x1C4], [0x1C9, 0x1C8, 0x1C7], [0x1CC, 0x1CB, 0x1CA], [0x1F3, 0x1F2, 0x1F1],
    [0x432, 0x1C80], [0x434, 0x1C81], [0x43E, 0x1C82], [0x441, 0x1C83], [0x442, 0x1C84, 0x1C85],
    [0x44A, 0x1C86], [0x463, 0x1C87], [0xA64B, 0x1C88]]

/-- The codes that count as the same as a code. -/
def partners (f : Flags) (n : Nat) : List Nat :=
  let near := [n, upperCode n, lowerCode n, upperCode (lowerCode n), lowerCode (upperCode n)]
  let others := variants.filter fun vs => near.any vs.contains
  (near ++ others.flatten.flatMap fun m => [m, upperCode m]).filter (canon f · == canon f n)

/-- Is a code, or one that counts as the same, in a set? -/
def holds (f : Flags) (s : Charset) (n : Nat) : Bool :=
  s n || (f.ignoreCase && (partners f n).any s)

/-! ## Sets -/

def isLineEnd (n : Nat) : Bool := n == 10 || n == 13 || n == 0x2028 || n == 0x2029

def isDigit (n : Nat) : Bool := 48 ≤ n && n ≤ 57

/-- Word characters; two letters beyond ASCII count as the same as letters within. -/
def isWord (f : Flags) (n : Nat) : Bool :=
  isDigit n || (65 ≤ n && n ≤ 90) || (97 ≤ n && n ≤ 122) || n == 95 ||
    (f.ignoreCase && f.unicode && (n == 0x17F || n == 0x212A))

def isSpace (n : Nat) : Bool := n < 0x10000 && Utf16.isSpaceUnit n.toUInt16

/-- The set of a class by its letter. -/
def letterSet? (f : Flags) (c : Char) : Option Charset :=
  match c with
  | 'd' => some isDigit
  | 'D' => some (!isDigit ·)
  | 'w' => some (isWord f)
  | 'W' => some (!isWord f ·)
  | 's' => some isSpace
  | 'S' => some (!isSpace ·)
  | _ => none

def interval (first last : Nat) : Charset := fun n => first ≤ n && n ≤ last

def union (a b : Charset) : Charset := fun n => a n || b n

end Regex
end Script
end Restyle
