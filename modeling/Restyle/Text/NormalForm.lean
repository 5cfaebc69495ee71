import Restyle.Text.Decomposition
import Std.Data.HashMap

/-!
# Restyle.Text.NormalForm

Normal forms of text. Characters are taken apart, the marks after a character are put in order of
their classes, and, in the composed forms, characters are put together again.

* `NormalForm.apply` — a text in a normal form.
-/

namespace Restyle
namespace Text

/-- A normal form: are characters taken apart into what means about the same, too, and are they
put together again? -/
structure NormalForm where
  similar : Bool
  composed : Bool
  deriving Repr, BEq, DecidableEq

namespace NormalForm

open Decomposition

/-- Normal forms by their names. -/
def named : List (String × NormalForm) :=
  [("NFC", ⟨false, true⟩), ("NFD", ⟨false, false⟩), ("NFKC", ⟨true, true⟩), ("NFKD", ⟨true, false⟩)]

/-! ## Syllables -/

/-- First syllable of the Korean script, and the first of each sort of its parts. -/
def firstSyllable : Nat := 0xAC00

def firstLead : Nat := 0x1100

def firstVowel : Nat := 0x1161

/-- The code before the first tail. -/
def beforeTails : Nat := 0x11A7

/-- The parts of a syllable: a lead, a vowel, and perhaps a tail. -/
def syllable? (code : Nat) : Option (List Nat) :=
  if firstSyllable ≤ code && code < firstSyllable + 19 * 21 * 28 then
    let i := code - firstSyllable
    let open' := [firstLead + i / 588, firstVowel + i % 588 / 28]
    some (if i % 28 == 0 then open' else open' ++ [beforeTails + i % 28])
  else none

/-- The syllable that two parts make. -/
def joined? (a b : Nat) : Option Nat :=
  if firstLead ≤ a && a < firstLead + 19 && firstVowel ≤ b && b < firstVowel + 21 then
    some (firstSyllable + ((a - firstLead) * 21 + (b - firstVowel)) * 28)
  else if firstSyllable ≤ a && a < firstSyllable + 19 * 21 * 28 && (a - firstSyllable) % 28 == 0 &&
      beforeTails < b && b < beforeTails + 28 then
    some (a + (b - beforeTails))
  else none

/-! ## Taking apart -/

/-- All parts of a code, down to a depth. -/
def parts (similar : Bool) : Nat → Nat → List Nat
  | 0, code => [code]
  | fuel + 1, code =>
    match syllable? code with
    | some ps => ps
    | none =>
      match canonical? code <|> (if similar then similar? code else none) with
      | some ps => ps.flatMap (parts similar fuel)
      | none => [code]

/-- How deeply parts are nested at most. -/
def depth : Nat := 20

/-- Marks put in order of their classes, up to the next code that starts anew. -/
def ordered : List Nat → (marks : List Nat) → List Nat
  | [], marks => sort marks
  | c :: rest, marks =>
    if combiningClass c == 0 then sort marks ++ c :: ordered rest []
    else ordered rest (c :: marks)
where
  /-- Marks, last first, by class; those of one class stay in order. -/
  sort (marks : List Nat) : List Nat :=
    marks.reverse.mergeSort fun a b => combiningClass a ≤ combiningClass b

/-! ## Putting together -/

def pairTable : Std.HashMap (Nat × Nat) Nat :=
  Std.HashMap.ofList (pairs.map fun (a, b, c) => ((a, b), c))

/-- What two codes make. -/
def pair? (a b : Nat) : Option Nat := joined? a b <|> pairTable[(a, b)]?

/-- Puts codes together with the nearest code before that starts anew, unless a mark between
them is in the way. The marks that stay are given last first. -/
def compose : (start : Option Nat) → (marks : List Nat) → List Nat → List Nat
  | start, marks, [] => start.toList ++ marks.reverse
  | start, marks, c :: rest =>
    let k := combiningClass c
    let isFree := match marks with
      | [] => true
      | m :: _ => combiningClass m < k
    match if isFree then start.bind (pair? · c) else none with
    | some p => compose (some p) marks rest
    | none =>
      if k == 0 then start.toList ++ marks.reverse ++ compose (some c) [] rest
      else compose start (c :: marks) rest

/-- Codes in a normal form. -/
def applyCodes (form : NormalForm) (codes : List Nat) : List Nat :=
  let apart := ordered (codes.flatMap (parts form.similar depth)) []
  if form.composed then compose none [] apart else apart

def apply (form : NormalForm) (cs : List Char) : List Char :=
  (form.applyCodes (cs.map Char.toNat)).map Char.ofNat

end NormalForm
end Text
end Restyle
