import Restyle.Proofs.Script.Units
import Restyle.Script.Token
import Restyle.Source.Literal

/-!
# Restyle.Proofs.Source.Literal

String literals of the generated code as scripts read them. Each character of a literal is read as
the units of the character that it stands for (`readString_literalChar`), and so the literal as the
text it was written for (`next_stringLiteral`). One text after the other can spoil that: NUL is
written `\0`, and scripts do not allow a decimal digit after it.
-/

namespace Restyle
namespace Source

open Script

variable {c d : Char} {s rest : List Char} {out : List UInt16} {plain : Bool} {n : Nat}

/-! ## Codes -/

/-- Digits of a number in hexadecimal are read as that number. -/
theorem hexadecimal_hexDigits (n : Nat) :
    (Text.hexDigits n).all Text.isHexDigit = true ∧ Text.hexadecimal (Text.hexDigits n) = n := by
  have hdigit : ∀ d < 16, Text.isHexDigit (Nat.digitChar d) = true ∧
      Text.hexValue (Nat.digitChar d) = d := by decide
  unfold Text.hexDigits
  induction n using Nat.strongRecOn with
  | ind n ih =>
    rw [Nat.toDigits_eq_if (by decide)]
    split
    · rename_i hn
      obtain ⟨hhex, hvalue⟩ := hdigit n hn
      simp [Text.hexadecimal, hhex, hvalue]
    · obtain ⟨hall, hvalue⟩ := ih (n / 16) (by omega)
      obtain ⟨hhex, hlast⟩ := hdigit (n % 16) (by omega)
      refine ⟨by simp [hall, hhex], ?_⟩
      rw [Text.hexadecimal] at hvalue ⊢
      rw [List.foldl_append, hvalue, List.foldl_cons, List.foldl_nil, hlast]
      omega

theorem hexDigits_ne_nil (n : Nat) : Text.hexDigits n ≠ [] := by
  rw [Text.hexDigits, Nat.toDigits_eq_if (by decide)]
  split <;> simp

theorem codePoint?_hexDigits (hn : n ≤ 0x10FFFF) (rest : List Char) :
    codePoint? ('{' :: (Text.hexDigits n ++ '}' :: rest)) = some (n, rest) := by
  obtain ⟨hall, hvalue⟩ := hexadecimal_hexDigits n
  have htake : (Text.hexDigits n ++ '}' :: rest).takeWhile Text.isHexDigit = Text.hexDigits n := by
    rw [List.takeWhile_append_of_pos (List.all_eq_true.mp hall), List.takeWhile_cons_of_neg (by decide),
      List.append_nil]
  have hdrop : (Text.hexDigits n ++ '}' :: rest).dropWhile Text.isHexDigit = '}' :: rest := by
    rw [List.dropWhile_append_of_pos (List.all_eq_true.mp hall), List.dropWhile_cons_of_neg (by decide)]
  have hne : (Text.hexDigits n).isEmpty = false := by
    simpa using hexDigits_ne_nil n
  simp only [codePoint?, htake, hdrop, hvalue, hne]
  simp [hn]

theorem unitsOfPoint_toNat (c : Char) : unitsOfPoint c.toNat = Utf16.unitsOfChar c := by
  unfold unitsOfPoint
  split
  · rename_i hsmall
    simp [Utf16.unitsOfChar, hsmall]
  · rw [Char.ofNat_toNat]

/-! ## One character -/

/-- The characters that have an escape of their own, and those that are written by their codes. -/
theorem literalChar_cases (c : Char) :
    (literalChar c = [c] ∧ c ≠ '"' ∧ c ≠ '\\' ∧ c ≠ '\n' ∧ c ≠ '\r') ∨
      (∃ d, literalChar c = ['\\', d] ∧ (c, d) ∈ [('\x00', '0'), ('\t', 't'), ('\r', 'r'),
        ('\n', 'n'), ('\\', '\\'), ('"', '"')]) ∨
      literalChar c = '\\' :: 'u' :: '{' :: (Text.hexDigits c.toNat ++ ['}']) := by
  unfold literalChar
  -- the escapes of one character
  iterate 6
    split
    · rename_i h
      rw [beq_iff_eq] at h
      subst h
      exact .inr (.inl ⟨_, rfl, by simp⟩)
  rename_i hzero htab hreturn hline hslash hmark
  rw [beq_iff_eq] at hreturn hline hslash hmark
  split
  · exact .inl ⟨rfl, hmark, hslash, hline, hreturn⟩
  · exact .inr (.inr rfl)

/-- What stands in a literal for a character other than a digit does not begin with a digit. -/
theorem isDigit_head?_literalChar (c : Char) (rest : List Char) :
    (literalChar c ++ rest).head?.any Char.isDigit = c.isDigit := by
  obtain ⟨h, -⟩ | ⟨d, h, hd⟩ | h := literalChar_cases c
  · rw [h]
    rfl
  · rw [h]
    have hpairs : ∀ pair ∈ [('\x00', '0'), ('\t', 't'), ('\r', 'r'), ('\n', 'n'), ('\\', '\\'),
        ('"', '"')], Char.isDigit pair.1 = false := by decide
    exact (hpairs _ hd).symm
  · rw [h]
    cases hc : c.isDigit with
    | false => rfl
    | true =>
      -- digits show by themselves
      have hdigits : ∀ n < 58, 48 ≤ n → literalChar (Char.ofNat n) = [Char.ofNat n] := by decide
      have hrange : 48 ≤ c.toNat ∧ c.toNat ≤ 57 := by
        simpa [Char.isDigit, UInt32.le_iff_toNat_le] using hc
      have hself := hdigits c.toNat (by omega) hrange.1
      rw [Char.ofNat_toNat, h] at hself
      cases hself

/-- Is the character kept as it is? -/
def isKept (c : Char) : Bool := literalChar c == [c]

/-- After the escape of NUL no digit may follow. -/
theorem escape?_zero (rest : List Char) :
    escape? ('0' :: rest) = if rest.head?.any Char.isDigit then none else some ([0], rest) := by
  cases h : rest.head?.any Char.isDigit <;> simp [escape?, isLineEnd, h]

/-- One character of a literal is read as the units of the character it stands for, unless it is NUL
with a digit after it. -/
theorem readString_literalChar (fuel : Nat)
    (hzero : c = '\x00' → rest.head?.any Char.isDigit = false) :
    readString '"' (fuel + 1) (literalChar c ++ rest) out plain =
      readString '"' fuel rest ((Utf16.unitsOfChar c).reverse ++ out) (plain && isKept c) := by
  unfold isKept
  obtain ⟨h, hmark, hslash, hline, hreturn⟩ | ⟨d, h, hd⟩ | h := literalChar_cases c
  · simp [h, readString, hmark, hslash, hline, hreturn]
  · have hescape : escape? (d :: rest) = some (Utf16.unitsOfChar c, rest) := by
      simp only [List.mem_cons, Prod.mk.injEq, List.not_mem_nil, or_false] at hd
      rcases hd with ⟨rfl, rfl⟩ | ⟨rfl, rfl⟩ | ⟨rfl, rfl⟩ | ⟨rfl, rfl⟩ | ⟨rfl, rfl⟩ | ⟨rfl, rfl⟩
      · rw [escape?_zero, hzero rfl]
        rfl
      all_goals rfl
    simp [h, readString, hescape]
  · have hescape : escape? ('u' :: '{' :: (Text.hexDigits c.toNat ++ '}' :: rest)) =
        some (Utf16.unitsOfChar c, rest) := by
      have hmax := Utf16.toNat_lt_max c
      simp only [escape?, codePoint?_hexDigits (show c.toNat ≤ 0x10FFFF by omega), Option.map_some,
        unitsOfPoint_toNat]
    simp [h, readString, hescape]

theorem stringSpan_of_plain (hs : ∀ c ∈ s, c ≠ '"' ∧ c ≠ '\\') (rest : List Char) :
    stringSpan '"' (s ++ rest) = stringSpan '"' rest + s.length := by
  induction s with
  | nil => rfl
  | cons c s ih =>
    rw [List.forall_mem_cons] at hs
    rw [List.cons_append, stringSpan, if_neg (by simpa using hs.1.1), ih hs.2, List.length_cons]
    · omega
    · rintro _ _ rfl
      exact absurd rfl hs.1.2

theorem stringSpan_literalChar (c : Char) (rest : List Char) :
    stringSpan '"' (literalChar c ++ rest) = stringSpan '"' rest + (literalChar c).length := by
  obtain ⟨h, hmark, hslash, -⟩ | ⟨d, h, -⟩ | h := literalChar_cases c
  · rw [h]
    exact stringSpan_of_plain (by simp [hmark, hslash]) rest
  · rw [h]
    rfl
  · have hdigits : ∀ d ∈ '{' :: (Text.hexDigits c.toNat ++ ['}']), d ≠ '"' ∧ d ≠ '\\' := by
      intro d hd
      simp only [List.mem_cons, List.mem_append, List.not_mem_nil, or_false] at hd
      rcases hd with rfl | hd | rfl
      · decide
      · have hhex := List.all_eq_true.mp (hexadecimal_hexDigits c.toNat).1 d hd
        constructor
        · rintro rfl
          revert hhex
          decide
        · rintro rfl
          revert hhex
          decide
      · decide
    have hspan := stringSpan_of_plain hdigits rest
    rw [h]
    simp only [List.cons_append, stringSpan, List.length_cons] at hspan ⊢
    omega

/-! ## A literal -/

/-- Does a NUL stand right before a decimal digit? -/
def hasZeroDigit : List Char → Bool
  | c :: d :: s => c == '\x00' && d.isDigit || hasZeroDigit (d :: s)
  | _ => false

theorem hasZeroDigit_cons (c : Char) (s : List Char) :
    hasZeroDigit (c :: s) = (c == '\x00' && s.head?.any Char.isDigit || hasZeroDigit s) := by
  cases s <;> simp [hasZeroDigit]

/-- In a literal a digit follows a character exactly if one does in the text. -/
theorem isDigit_head?_flatMap (s rest : List Char) :
    (s.flatMap literalChar ++ '"' :: rest).head?.any Char.isDigit = s.head?.any Char.isDigit := by
  cases s with
  | nil => rfl
  | cons c s => rw [List.flatMap_cons, List.append_assoc, isDigit_head?_literalChar]; rfl

theorem readString_flatMap {fuel : Nat} (hfuel : s.length < fuel) (hs : hasZeroDigit s = false) :
    readString '"' fuel (s.flatMap literalChar ++ '"' :: rest) out plain =
      some (out.reverse ++ s.flatMap Utf16.unitsOfChar, plain && s.all isKept, rest) := by
  induction s generalizing fuel out plain with
  | nil =>
    obtain ⟨fuel, rfl⟩ : ∃ k, fuel = k + 1 := ⟨fuel - 1, by simp at hfuel; omega⟩
    simp [readString]
  | cons c s ih =>
    obtain ⟨fuel, rfl⟩ : ∃ k, fuel = k + 1 := ⟨fuel - 1, by simp at hfuel; omega⟩
    rw [hasZeroDigit_cons, Bool.or_eq_false_iff] at hs
    have hzero : c = '\x00' →
        (s.flatMap literalChar ++ '"' :: rest).head?.any Char.isDigit = false := by
      rintro rfl
      rw [isDigit_head?_flatMap]
      simpa using hs.1
    rw [List.flatMap_cons, List.append_assoc, readString_literalChar fuel hzero,
      ih (by simpa using hfuel) hs.2]
    simp [Bool.and_assoc]

/-- NUL before a digit is not read: after `\0` there is no digit in a string. -/
theorem readString_of_hasZeroDigit (fuel : Nat) (hs : hasZeroDigit s = true) :
    readString '"' fuel (s.flatMap literalChar ++ '"' :: rest) out plain = none := by
  induction s generalizing fuel out plain with
  | nil => cases hs
  | cons c s ih =>
    cases fuel with
    | zero => rfl
    | succ fuel =>
      rw [List.flatMap_cons, List.append_assoc]
      by_cases hzero : c = '\x00' ∧ s.head?.any Char.isDigit = true
      · obtain ⟨rfl, hdigit⟩ := hzero
        have hescape : escape? ('0' :: (s.flatMap literalChar ++ '"' :: rest)) = none := by
          rw [escape?_zero, isDigit_head?_flatMap, if_pos hdigit]
        have hchar : literalChar '\x00' = ['\\', '0'] := rfl
        simp [hchar, readString, hescape]
      · have hlater : hasZeroDigit s = true := by
          rw [hasZeroDigit_cons] at hs
          simpa [hzero] using hs
        rw [readString_literalChar fuel, ih fuel hlater]
        intro hc
        rw [isDigit_head?_flatMap]
        simpa [hc] using hzero

theorem stringSpan_flatMap (s rest : List Char) :
    stringSpan '"' (s.flatMap literalChar ++ '"' :: rest) = (s.flatMap literalChar).length + 1 := by
  induction s with
  | nil => rfl
  | cons c s ih =>
    rw [List.flatMap_cons, List.append_assoc, stringSpan_literalChar, ih, List.length_append]
    omega

theorem length_le_flatMap_literalChar (s : List Char) :
    s.length ≤ (s.flatMap literalChar).length := by
  induction s with
  | nil => exact Nat.zero_le _
  | cons c s ih =>
    have hc : 0 < (literalChar c).length := by
      obtain ⟨h, -⟩ | ⟨d, h, -⟩ | h := literalChar_cases c <;> simp [h]
    simp only [List.flatMap_cons, List.length_append, List.length_cons]
    omega

/-- A reader that has come to the literal of a text in a script. -/
def readerAt (front s rest : List Char) : Reader :=
  (Reader.ofText (front ++ stringLiteral s ++ rest)).skip front.length

/-- The literal of a text as one string of that text, from the reader before it. -/
def literalLexeme (s : List Char) (r : Reader) : Lexeme where
  token := .string (.whole (String.ofList s)) (s.all isKept)
  fresh := false
  start := r
  stop := r.skip (stringLiteral s).length

/-- **The literal of a text**, wherever it stands in a script, is read as one string of that text,
and nothing after it is read with it. It is malformed exactly if NUL stands right before a digit
somewhere in the text. -/
theorem next_stringLiteral (front s rest : List Char) :
    (readerAt front s rest).next =
      if hasZeroDigit s then .error .malformed
      else .ok (literalLexeme s (readerAt front s rest)) := by
  unfold readerAt
  generalize hr : (Reader.ofText (front ++ stringLiteral s ++ rest)).skip front.length = r
  have hrest : r.rest = '"' :: (s.flatMap literalChar ++ '"' :: rest) := by
    simp [← hr, Reader.ofText, Reader.skip, stringLiteral]
  have hleft : s.length < r.left + 1 := by
    have := length_le_flatMap_literalChar s
    simp only [← hr, Reader.ofText, Reader.skip, stringLiteral, List.length_append, List.length_cons]
    omega
  have hspace : spaceSpan .plain r.rest false 0 = some (0, false) := by rw [hrest]; rfl
  have hskip : r.skip 0 = r := rfl
  have htoken : readToken r.left r.rest =
      (readString '"' (r.left + 1) (s.flatMap literalChar ++ '"' :: rest) [] true).map
        fun found => (.string (Utf16.ofUnits found.1) found.2.1, (stringLiteral s).length) := by
    have hspan : stringSpan '"' (s.flatMap literalChar ++ '"' :: rest) + 1 =
        (stringLiteral s).length := by
      rw [stringSpan_flatMap]
      simp [stringLiteral]
    rw [hrest, ← hspan]
    rfl
  unfold Reader.next
  simp only [hspace, hskip, htoken]
  cases hs : hasZeroDigit s with
  | true =>
    have hstray : Reader.isStray r.rest = false := by rw [hrest]; rfl
    simp [readString_of_hasZeroDigit _ hs, hstray]
  | false =>
    simp [readString_flatMap hleft hs, Utf16.ofUnits_flatMap, literalLexeme]

/-- NUL and a digit make a literal that is no word of a script. -/
theorem zero_digit_malformed :
    stringLiteral ['\x00', '1'] = "\"\\01\"".toList ∧
      (Reader.ofText (stringLiteral ['\x00', '1'])).next = .error .malformed :=
  ⟨rfl, rfl⟩

end Source
end Restyle
