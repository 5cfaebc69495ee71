/-!
# Restyle.Text

Classes of characters and the few cuts of text every reader here is made of.

* `isBlank` — white space of running text (the Unicode property `White_Space`).
* `isSpace` — white space of markup and style sheets (five ASCII characters).
* `trim`, `words`, `lower` — on strings, by `isBlank` and by ASCII case.

All readers work on lists of characters; strings appear only in the values they produce.
-/

namespace Restyle
namespace Text

/-- The twenty-five characters with the property `White_Space`. -/
def isBlank (c : Char) : Bool :=
  let n := c.toNat
  (9 ≤ n && n ≤ 13) || n == 32 || n == 0x85 || n == 0xA0 || n == 0x1680 ||
    (0x2000 ≤ n && n ≤ 0x200A) || n == 0x2028 || n == 0x2029 || n == 0x202F ||
    n == 0x205F || n == 0x3000

/-- Space, tab, line feed, form feed, carriage return. -/
def isSpace (c : Char) : Bool :=
  c == ' ' || c == '\t' || c == '\n' || c == '\x0c' || c == '\r'

theorem isBlank_of_isSpace {c : Char} (h : isSpace c = true) : isBlank c = true := by
  simp only [isSpace, Bool.or_eq_true, beq_iff_eq] at h
  rcases h with (((h | h) | h) | h) | h <;> subst h <;> decide

/-- Drops characters of a class at both ends. -/
def trimBy (p : Char → Bool) (cs : List Char) : List Char :=
  ((cs.dropWhile p).reverse.dropWhile p).reverse

/-- Drops characters of a class at the end. -/
def trimEndBy (p : Char → Bool) (cs : List Char) : List Char :=
  (cs.reverse.dropWhile p).reverse

/-- Text without the blanks at its ends. -/
def trim (s : String) : String :=
  String.ofList (trimBy isBlank s.toList)

/-- The pieces between characters of a class; always at least one. -/
def splitBy (p : Char → Bool) : List Char → List (List Char)
  | [] => [[]]
  | c :: rest =>
    if p c then [] :: splitBy p rest
    else
      match splitBy p rest with
      | [] => [[c]]
      | piece :: pieces => (c :: piece) :: pieces

/-- The maximal runs of characters outside a class, in order. -/
def piecesBy (p : Char → Bool) (cs : List Char) : List (List Char) :=
  (splitBy p cs).filter (!·.isEmpty)

/-- The words of a text: its maximal runs without blanks. -/
def words (s : String) : List String :=
  (piecesBy isBlank s.toList).map String.ofList

/-- The words of a text with one space between them. -/
def squeeze (s : String) : String :=
  " ".intercalate (words s)

/-- ASCII letters in lower case, all else as written. -/
def lower (s : String) : String :=
  String.ofList (s.toList.map Char.toLower)

/-- Equality up to ASCII case. -/
def sameFolded (a b : String) : Bool :=
  lower a == lower b

/-- The pieces between occurrences of a separator; always at least one. -/
def splitAt (sep : Char) : List Char → List (List Char) :=
  splitBy (· == sep)

/-- What follows a given beginning, if the text begins so. -/
def after? : List Char → List Char → Option (List Char)
  | [], cs => some cs
  | _ :: _, [] => none
  | p :: ps, c :: cs => if p == c then after? ps cs else none

theorem length_after? {ps cs rest : List Char} (h : after? ps cs = some rest) :
    rest.length + ps.length = cs.length := by
  induction ps generalizing cs with
  | nil => simp only [after?, Option.some.injEq] at h; subst h; simp
  | cons p ps ih =>
    cases cs with
    | nil => simp [after?] at h
    | cons c cs =>
      simp only [after?] at h
      split at h
      · have := ih h
        simp only [List.length_cons]
        omega
      · simp at h

/-- Number of bytes of a text in UTF-8. -/
def byteLength (cs : List Char) : Nat :=
  cs.foldl (fun n c => n + c.utf8Size) 0

/-- Reads decimal digits as a number. -/
def decimal (ds : List Char) : Nat :=
  ds.foldl (fun n c => 10 * n + (c.toNat - '0'.toNat)) 0

/-- Value of a hexadecimal digit. -/
def hexValue (c : Char) : Nat :=
  if c.isDigit then c.toNat - '0'.toNat
  else if 'a' ≤ c && c ≤ 'f' then c.toNat - 'a'.toNat + 10
  else c.toNat - 'A'.toNat + 10

/-- Decimal digits and the letters `a` to `f` in either case. -/
def isHexDigit (c : Char) : Bool :=
  c.isDigit || ('a' ≤ c && c ≤ 'f') || ('A' ≤ c && c ≤ 'F')

/-- Reads hexadecimal digits as a number. -/
def hexadecimal (ds : List Char) : Nat :=
  ds.foldl (fun n c => 16 * n + hexValue c) 0

/-- The character with a code, unless the code is out of range or a surrogate. -/
def scalar? (n : Nat) : Option Char :=
  if h : n.isValidChar then some (Char.ofNatAux n h) else none

end Text
end Restyle
