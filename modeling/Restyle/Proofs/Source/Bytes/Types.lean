import Restyle.Proofs.Source.Bytes.Encoded
import Restyle.Proofs.Source.Bytes.Scan
import Restyle.Proofs.Source.TagEnd
import Restyle.Proofs.Source.Within

/-!
# Restyle.Proofs.Source.Bytes.Types

Types and declarations in the bytes of a source: what is found there is the offset of what is found
in its characters, and every cut on the way succeeds.

Enum declarations from the bytes of their body: without comments, split at commas and equals signs,
the members are those of the characters.
-/

namespace Restyle
namespace Source

open Scan Listing Utf8

/-- A step of reading a type in the bytes of a text. -/
def Scan.TypeStep.encode (cs : Chars) (step : TypeStep) : TypeStep where
  next := offset cs step.next
  stop := step.stop.map (offset cs)
  wantsOperand := step.wantsOperand

theorem ok_bind {ε α β : Type} (a : α) (f : α → Except ε β) : (Except.ok a >>= f) = f a := rfl

namespace Encoded

variable {s : Encoded} {cs : Chars} {i j k : Nat} {c d : Char}

theorem bytes_chars (s : Encoded) : s.bytes.chars = encode s.chars := rfl

theorem charAt?_bytes (s : Encoded) (i : Nat) :
    s.bytes.charAt? (offset s.chars i) = (s.charAt? i).map lead := encode_offset ..

theorem charAt?_bytes_beq (hd : IsAscii d) (s : Encoded) (i : Nat) :
    (s.bytes.charAt? (offset s.chars i) == some d) = (s.charAt? i == some d) := encode_beq hd ..

theorem cut_offset (hij : i ≤ j) (hj : j ≤ cs.size) :
    cut cs (offset cs i) (offset cs j) = .ok (slice cs i j) := by rw [cut, cut?_offset hij hj]

theorem check_offset (h : i ≤ s.chars.size) : s.check (offset s.chars i) = .ok () := by
  rw [check, cut_offset (Nat.le_refl i) h]
  rfl

theorem skipSpaces_encode (cs : Chars) (i : Nat) :
    skipSpaces (encode cs) (offset cs i) = offset cs (skipSpaces cs i) :=
  skip_encode asciiClass_isSpace cs i

theorem nameEnd_encode (cs : Chars) (i : Nat) :
    nameEnd (encode cs) (offset cs i) = offset cs (nameEnd cs i) :=
  skip_encode asciiClass_isNamePart cs i

theorem lineEnd_encode (cs : Chars) (i : Nat) :
    lineEnd (encode cs) (offset cs i) = offset cs (lineEnd cs i) := by
  rw [lineEnd, lineEnd, find?_encode (by decide), size_encode]
  cases find? '\n' cs i <;> rfl

/-! ## Types -/

/-- Outside names nothing is cut. -/
theorem operand?_encode (h : cs[i]? = some c) (hc : IsAscii c) (hname : isNameStart c = false) :
    operand? (encode cs) (offset cs i) c = (operand? cs i c).map (TypeStep.encode cs) := by
  have hnext := offset_succ_of_isAscii h hc
  unfold operand?
  dsimp only
  rw [close?_encode, angle?_encode, stringEnd?_encode h hc, hname, ← hnext,
    skip_encode asciiClass_isLiteralPart]
  split
  · rfl
  split
  · cases hclose : close? cs i with
    | none => rfl
    | some j =>
      simp only [Option.map_some, TypeStep.encode, offset_succ_of_close? hclose]
  split
  · cases hclose : close? cs i with
    | none => rfl
    | some j =>
      rw [Option.map_some, Option.map_some, Option.map_some, ← offset_succ_of_close? hclose,
        skipSpaces_encode, arrowAt_encode]
      split
      · rename_i harrow
        have hstop := offset_add_two (by decide) (by decide) harrow
        simp only [TypeStep.encode, hstop, Option.map_some]
      · rfl
  split
  · cases hclose : angle? cs i with
    | none => rfl
    | some j =>
      simp only [Option.map_some, TypeStep.encode, offset_succ_of_angle? hclose, Option.map_none]
  split
  · cases stringEnd? cs i <;> rfl
  split
  · rfl
  · rfl

/-- Outside ASCII no operand begins. -/
theorem operand?_of_not_isAscii (cs : Chars) (i : Nat) (hc : ¬ IsAscii c) :
    operand? cs i c = none := by
  have hmark {a : Char} (ha : IsAscii a) : (c == a) = false := beq_eq_false ha hc
  simp only [operand?, asciiClass_isQuoteMark.eq_false hc, asciiClass_isNameStart.eq_false hc,
    asciiClass_isDigit.eq_false hc, hmark (a := '|') (by decide), hmark (a := '&') (by decide),
    hmark (a := '{') (by decide), hmark (a := '[') (by decide), hmark (a := '(') (by decide),
    hmark (a := '<') (by decide), hmark (a := '-') (by decide), Bool.or_false, Bool.false_eq_true,
    if_false]

theorem suffix?_of_not_isAscii (cs : Chars) (i : Nat) (hc : ¬ IsAscii c) :
    suffix? cs i c = none := by
  have hmark {a : Char} (ha : IsAscii a) : (c == a) = false := beq_eq_false ha hc
  simp only [suffix?, asciiClass_isNameStart.eq_false hc, hmark (a := '.') (by decide),
    hmark (a := '<') (by decide), hmark (a := '[') (by decide), hmark (a := '|') (by decide),
    hmark (a := '&') (by decide), Bool.or_false, Bool.false_and, Bool.false_eq_true, if_false]

theorem operand_encode (h : s.charAt? i = some c) :
    s.operand (offset s.chars i) (lead c) =
      .ok ((operand? s.chars i c).map (TypeStep.encode s.chars)) := by
  have hi := lt_size_of_getElem? h
  rw [operand, asciiClass_isNameStart.lead]
  by_cases hname : isNameStart c = true
  · rw [if_pos hname, operand?_of_isNameStart s.chars i hname]
    dsimp only
    rw [bytes_chars, nameEnd_encode,
      cut_offset (le_nameEnd ..) (nameEnd_le_size (Nat.le_of_lt hi)), ok_bind]
    split <;> rfl
  · rw [if_neg hname, bytes_chars]
    by_cases hc : IsAscii c
    · rw [lead_of_isAscii hc, operand?_encode h hc (Bool.eq_false_iff.mpr hname)]
    · rw [operand?_of_not_isAscii _ _ hc,
        operand?_of_not_isAscii _ _ (fun hlead => hc (isAscii_lead.mp hlead))]
      rfl

theorem suffix?_encode (h : cs[i]? = some c) (hc : IsAscii c) (hname : isNameStart c = false) :
    suffix? (encode cs) (offset cs i) c = (suffix? cs i c).map (TypeStep.encode cs) := by
  have hnext := offset_succ_of_isAscii h hc
  unfold suffix?
  dsimp only
  rw [close?_encode, angle?_encode, hname, Bool.false_and, ← hnext,
    any_encode asciiClass_isNameStart, nameEnd_encode]
  have hother : ((encode cs)[offset cs (i + 1)]? != some c) = (cs[i + 1]? != some c) :=
    congrArg (!·) (encode_beq hc cs (i + 1))
  rw [hother]
  split
  · rfl
  split
  · cases hclose : angle? cs i with
    | none => rfl
    | some j =>
      simp only [Option.map_some, TypeStep.encode, offset_succ_of_angle? hclose]
  split
  · cases hclose : close? cs i with
    | none => rfl
    | some j =>
      simp only [Option.map_some, TypeStep.encode, offset_succ_of_close? hclose]
  split
  · rfl
  · rfl

theorem suffix_encode (h : s.charAt? i = some c) :
    s.suffix (offset s.chars i) (lead c) =
      .ok ((suffix? s.chars i c).map (TypeStep.encode s.chars)) := by
  have hi := lt_size_of_getElem? h
  rw [suffix, asciiClass_isNameStart.lead]
  by_cases hname : isNameStart c = true
  · rw [if_pos hname, suffix?_of_isNameStart s.chars i hname]
    dsimp only
    rw [bytes_chars, nameEnd_encode,
      cut_offset (le_nameEnd ..) (nameEnd_le_size (Nat.le_of_lt hi)), ok_bind]
    split <;> rfl
  · rw [if_neg hname, bytes_chars]
    by_cases hc : IsAscii c
    · rw [lead_of_isAscii hc, suffix?_encode h hc (Bool.eq_false_iff.mpr hname)]
    · rw [suffix?_of_not_isAscii _ _ hc,
        suffix?_of_not_isAscii _ _ (fun hlead => hc (isAscii_lead.mp hlead))]
      rfl

/-- Each step moves on, so that no more steps are taken than there are characters. -/
theorem typeEndFrom_encode {fuel fuel' stop : Nat} {wantsOperand : Bool} (hi : i ≤ s.chars.size)
    (hfuel : s.chars.size < fuel + i) (hfuel' : s.chars.size < fuel' + i) :
    s.typeEndFrom fuel' (offset s.chars i) (offset s.chars stop) wantsOperand =
      .ok (offset s.chars (Scan.typeEndFrom s.chars fuel i stop wantsOperand)) := by
  induction fuel generalizing i fuel' stop wantsOperand with
  | zero => omega
  | succ fuel ih =>
    cases fuel' with
    | zero => omega
    | succ fuel' =>
    have hle := le_skipSpaces s.chars i
    rw [typeEndFrom, Scan.typeEndFrom, bytes_chars, skipSpaces_encode]
    generalize skipSpaces s.chars i = j at hle
    rw [charAt?_bytes, Listing.charAt?]
    cases hc : s.chars[j]? with
    | none => rfl
    | some c =>
      rw [Option.map_some]
      dsimp only
      have hstep : (if wantsOperand then s.operand (offset s.chars j) (lead c)
          else s.suffix (offset s.chars j) (lead c)) =
          .ok ((if wantsOperand then operand? s.chars j c else suffix? s.chars j c).map
            (TypeStep.encode s.chars)) := by
        split
        · exact operand_encode hc
        · exact suffix_encode hc
      rw [hstep, ok_bind]
      cases hfound : if wantsOperand then operand? s.chars j c else suffix? s.chars j c with
      | none => rfl
      | some step =>
        have hwithin : step.Within s.chars j := by
          split at hfound
          · exact operand?_within hc hfound
          · exact suffix?_within hc hfound
        have hlt := hwithin.lt_next
        have hstop : (step.stop.map (offset s.chars)).getD (offset s.chars stop) =
            offset s.chars (step.stop.getD stop) := by cases step.stop <;> rfl
        rw [Option.map_some]
        dsimp only [TypeStep.encode]
        rw [hstop]
        exact ih hwithin.next_le_size (by omega) (by omega)

theorem typeEnd_encode (hs : s.chars.size < s.steps) (hi : i ≤ s.chars.size) :
    s.typeEnd (offset s.chars i) = .ok (offset s.chars (Scan.typeEnd s.chars i)) :=
  typeEndFrom_encode hi (by omega) (by omega)

/-! ## Declarations -/

theorem any_bytes {p : Char → Bool} (hp : AsciiClass p) (s : Encoded) (i : Nat) :
    (s.bytes.charAt? (offset s.chars i)).any p = (s.charAt? i).any p := any_encode hp ..

theorem startsStatement_bytes (s : Encoded) (previous : Previous) (i : Nat) :
    s.bytes.startsStatement previous (offset s.chars i) = s.startsStatement previous i := by
  have hclass : AsciiClass fun c => c == ' ' || c == '\t' :=
    (AsciiClass.beq (by decide)).or (.beq (by decide))
  have hline : AsciiClass fun c => c == '\n' || c == '\r' :=
    (AsciiClass.beq (by decide)).or (.beq (by decide))
  unfold startsStatement
  rw [bytes_chars, before?_encode hclass]
  cases before? (fun c => c == ' ' || c == '\t') s.chars i with
  | none => rfl
  | some c =>
    rw [Option.map_some]
    have htrail := hline.trail c
    dsimp only at htrail ⊢
    rw [htrail]

theorem afterName_bytes (s : Encoded) (i : Nat) :
    s.bytes.afterName (offset s.chars i) = offset s.chars (s.afterName i) := by
  rw [afterName, afterName, bytes_chars, skipSpaces_encode, nameEnd_encode, skipSpaces_encode]

theorem nameFollows_bytes (s : Encoded) (i : Nat) :
    s.bytes.nameFollows (offset s.chars i) = s.nameFollows i := by
  rw [nameFollows, nameFollows, bytes_chars, skipSpaces_encode, any_bytes asciiClass_isNameStart]
  simp only [gt_iff_lt, offset_lt_iff]

theorem declaresName_bytes (s : Encoded) (i : Nat) :
    s.bytes.declaresName (offset s.chars i) = s.declaresName i := by
  have hclass : AsciiClass fun c => c == '{' || c == '<' || c == 'e' :=
    ((AsciiClass.beq (by decide)).or (.beq (by decide))).or (.beq (by decide))
  rw [declaresName, declaresName, nameFollows_bytes, afterName_bytes, any_bytes hclass]

theorem declaresAlias_bytes (s : Encoded) (i : Nat) :
    s.bytes.declaresAlias (offset s.chars i) = s.declaresAlias i := by
  rw [declaresAlias, declaresAlias, nameFollows_bytes, afterName_bytes, charAt?_bytes]
  generalize s.afterName i = j
  cases h : s.charAt? j with
  | none => rfl
  | some c =>
    rw [Option.map_some]
    by_cases hc : IsAscii c
    · rw [lead_of_isAscii hc, ← offset_succ_of_isAscii h hc]
      have hnext := charAt?_bytes_beq (d := '=') (by decide) s (j + 1)
      simp only [bne, hnext]
    · have hlead : ¬ IsAscii (lead c) := fun h => hc (isAscii_lead.mp h)
      generalize lead c = b at hlead
      split
      · rename_i heq
        cases heq
        exact absurd (by decide) hlead
      · rename_i heq
        cases heq
        exact absurd (by decide) hlead
      · split
        · rename_i heq
          cases heq
          exact absurd (by decide) hc
        · rename_i heq
          cases heq
          exact absurd (by decide) hc
        · rfl

theorem interfaceEnd_bytes (s : Encoded) (i : Nat) :
    s.bytes.interfaceEnd (offset s.chars i) = offset s.chars (s.interfaceEnd i) := by
  rw [interfaceEnd, interfaceEnd, bytes_chars, find?_encode (by decide), size_encode]
  cases find? '{' s.chars i with
  | none => rfl
  | some opening =>
    rw [Option.map_some, Option.bind_some, Option.bind_some, close?_encode]
    cases hclose : close? s.chars opening with
    | none => rfl
    | some close => exact (offset_succ_of_close? hclose).symm

theorem castsBraced_bytes (s : Encoded) (previous : Previous) (i j : Nat) :
    s.bytes.castsBraced previous (offset s.chars i) (offset s.chars j) =
      s.castsBraced previous i j := by
  have hbrace : AsciiClass fun c => c == '}' || c == '\n' :=
    (AsciiClass.beq (by decide)).or (.beq (by decide))
  have hnext : AsciiClass fun c => isNameStart c || c == '{' || c == '[' || c == '(' ||
      c == '\'' || c == '"' :=
    ((((asciiClass_isNameStart.or (.beq (by decide))).or (.beq (by decide))).or
      (.beq (by decide))).or (.beq (by decide))).or (.beq (by decide))
  have hline : s.bytes.onLineOfBrace (offset s.chars i) = s.onLineOfBrace i := by
    have hback := before?_not_encode hbrace s.chars i
    simp only [Bool.not_or] at hback
    exact congrArg (· != some '\n') hback
  rw [castsBraced, castsBraced, hline, bytes_chars, skipSpaces_encode, any_bytes hnext]

theorem assertsValue_bytes (h : s.charAt? i = some c) (hc : IsAscii c) (previous : Previous)
    (written : List Char) :
    s.bytes.assertsValue ⟨offset s.chars i, previous, written⟩ =
      s.assertsValue ⟨i, previous, written⟩ := by
  have hclass : AsciiClass fun d => d == '.' || d == ')' || d == ']' || d == ',' || d == ';' :=
    ((((AsciiClass.beq (by decide)).or (.beq (by decide))).or (.beq (by decide))).or
      (.beq (by decide))).or (.beq (by decide))
  rw [assertsValue, assertsValue]
  dsimp only
  rw [← offset_succ_of_isAscii h hc, any_bytes hclass]
  rfl

/-! ## Ends of what goes with the types -/

/-- A mark that may stand somewhere takes one byte. -/
theorem ite_succ_encode (hd : IsAscii d) (s : Encoded) (i : Nat) :
    (if s.bytes.charAt? (offset s.chars i) == some d then offset s.chars i + 1
      else offset s.chars i) =
    offset s.chars (if s.charAt? i == some d then i + 1 else i) := by
  rw [charAt?_bytes_beq hd]
  split
  · rename_i h
    exact (offset_succ_of_isAscii (eq_of_beq h) hd).symm
  · rfl

theorem afterTypeParameters_bytes (s : Encoded) (j : Nat) :
    afterTypeParameters s.bytes (offset s.chars j) =
      offset s.chars (afterTypeParameters s.toListing j) := by
  rw [afterTypeParameters, afterTypeParameters, charAt?_bytes_beq (by decide), bytes_chars,
    angle?_encode]
  split
  · rw [← skipSpaces_encode]
    cases hclose : angle? s.chars j with
    | none => rfl
    | some close => exact congrArg _ (offset_succ_of_angle? hclose).symm
  · rfl

theorem afterTypeParameters_le_size (hj : j ≤ s.chars.size) :
    afterTypeParameters s.toListing j ≤ s.chars.size := by
  unfold afterTypeParameters
  split
  · cases hclose : angle? s.chars j with
    | none => exact skipSpaces_le_size hj
    | some close => exact skipSpaces_le_size (angle?_lt_size hclose)
  · exact hj

theorem aliasEnd_encode (hs : s.chars.size < s.steps) (hi : i ≤ s.chars.size) :
    s.aliasEnd (offset s.chars i) = .ok (offset s.chars (s.toListing.aliasEnd i)) := by
  have hle := ite_succ_le_size (afterTypeParameters_le_size (afterName_le_size hi)) '='
  rw [aliasEnd]
  dsimp only
  rw [afterName_bytes, afterTypeParameters_bytes, ite_succ_encode (by decide),
    typeEnd_encode hs hle, ok_bind, bytes_chars, skipSpaces_encode, charAt?_bytes_beq (by decide)]
  have hend (stop : Nat) :
      (if s.charAt? (skipSpaces s.chars stop) == some ';' then
        offset s.chars (skipSpaces s.chars stop) + 1
      else offset s.chars stop) =
      offset s.chars (if s.charAt? (skipSpaces s.chars stop) == some ';' then
        skipSpaces s.chars stop + 1
      else stop) := by
    split
    · rename_i h
      rw [offset_succ_of_isAscii (eq_of_beq h) (by decide)]
    · rfl
  rw [hend]
  rfl

/-! ## Texts of their own -/

theorem offset_length (text : List Char) :
    offset text.toArray text.length = Text.byteLength text := by
  rw [offset, List.toList_toArray, List.take_length, List.size_toArray, Nat.sub_self, Nat.add_zero]

theorem cutFrom_offset {text : List Char} (hi : i ≤ text.length) :
    cutFrom text (offset text.toArray i) = .ok (text.drop i) := by
  rw [cutFrom, ← offset_length, cut_offset hi (Nat.le_of_eq (List.size_toArray ..).symm), slice_eq,
    List.toList_toArray, List.take_of_length_le (Nat.le_of_eq (List.length_drop ..))]

/-- What is skipped in the bytes of a text is dropped from it. -/
theorem drop_skip (p : Char → Bool) (text : List Char) :
    text.drop (skip p text.toArray 0) = text.dropWhile p :=
  tail_skip p ⟨text.toArray, .js⟩ 0

theorem cutFrom_nameEnd (text : List Char) :
    cutFrom text (nameEnd (encode text.toArray) 0) = .ok (text.dropWhile isNamePart) := by
  rw [← offset_zero text.toArray, nameEnd_encode,
    cutFrom_offset (nameEnd_le_size (Nat.zero_le _)), ← drop_skip]
  rfl

/-- No name stands at the beginning of a text if one ends there. -/
theorem nameEnd_beq_zero (text : List Char) :
    (nameEnd (encode text.toArray) 0 == 0) = !text.head?.any isNamePart := by
  rw [← offset_zero text.toArray, nameEnd_encode]
  cases text with
  | nil =>
    have hend : nameEnd #[] 0 = 0 := skip_of_none rfl
    rw [hend, beq_self_eq_true]
    rfl
  | cons c text =>
    have hfirst : (c :: text).toArray[0]? = some c := rfl
    rw [List.head?_cons, Option.any_some, nameEnd, skip_of_getElem? hfirst]
    cases hc : isNamePart c with
    | true =>
      rw [if_pos rfl]
      exact beq_eq_false_iff_ne.mpr fun h => Nat.ne_of_gt (le_skip ..) (offset_inj.mp h)
    | false => rw [if_neg Bool.false_ne_true, beq_self_eq_true]; rfl

/-- The tests for type parameters of an arrow function, in their order. -/
theorem arrowParametersEnd?_eq (s : Listing) (i : Nat) :
    s.arrowParametersEnd? i = (angle? s.chars i).bind fun close =>
      let inner := Text.trimBy Text.isBlank (slice s.chars (i + 1) close)
      let rest := (inner.dropWhile isNamePart).dropWhile Text.isBlank
      let paren := skipSpaces s.chars (close + 1)
      if !inner.head?.any isNamePart || !suitsArrow s rest || s.charAt? paren != some '(' then none
      else (close? s.chars paren).bind fun last =>
        let after := skipSpaces s.chars (last + 1)
        if arrowAt s.chars after then some (close + 1)
        else if s.charAt? after == some ':' then
          if arrowAt s.chars (skipSpaces s.chars (Scan.typeEnd s.chars (after + 1))) then
            some (close + 1)
          else none
        else none := by
  unfold arrowParametersEnd?
  refine congrArg (Option.bind _) (funext fun close => ?_)
  dsimp only
  generalize Text.trimBy Text.isBlank (slice s.chars (i + 1) close) = inner
  cases inner.head?.any isNamePart with
  | false => rfl
  | true =>
    simp only [Bool.not_true, Bool.false_eq_true, if_false, Bool.false_or]
    generalize (inner.dropWhile isNamePart).dropWhile Text.isBlank = rest
    change (if (!suitsArrow s rest) = true then none else _) = _
    cases suitsArrow s rest with
    | false => rfl
    | true =>
      cases s.charAt? (skipSpaces s.chars (close + 1)) != some '(' with
      | true => rfl
      | false =>
        refine congrArg (Option.bind _) (funext fun last => ?_)
        cases arrowAt s.chars (skipSpaces s.chars (last + 1)) with
        | true => rfl
        | false => cases s.charAt? (skipSpaces s.chars (last + 1)) == some ':' <;> rfl

theorem arrowParametersEnd_encode (hs : s.chars.size < s.steps) (h : s.charAt? i = some '<') :
    s.arrowParametersEnd (offset s.chars i) =
      .ok ((s.toListing.arrowParametersEnd? i).map (offset s.chars)) := by
  rw [arrowParametersEnd, bytes_chars, angle?_encode, arrowParametersEnd?_eq]
  cases hclose : angle? s.chars i with
  | none => rfl
  | some close =>
    have hlt := lt_angle? h hclose
    have hsize := angle?_lt_size hclose
    have hopen (j : Nat) : (s.bytes.charAt? (offset s.chars j) != some '(') =
        (s.charAt? j != some '(') := congrArg (!·) (charAt?_bytes_beq (by decide) s j)
    rw [Option.map_some, Option.bind_some]
    dsimp only
    rw [← offset_succ_of_isAscii h (by decide), ← offset_succ_of_angle? hclose,
      cut_offset hlt (Nat.le_of_lt hsize), ok_bind, cutFrom_nameEnd, ok_bind, nameEnd_beq_zero,
      skipSpaces_encode, hopen, close?_encode]
    generalize Text.trimBy Text.isBlank (slice s.chars (i + 1) close) = inner
    generalize skipSpaces s.chars (close + 1) = paren
    split
    · rfl
    · cases hlast : close? s.chars paren with
      | none => rfl
      | some last =>
        rw [Option.map_some, Option.bind_some]
        dsimp only
        have hafter := skipSpaces_le_size (close?_lt_size hlast)
        rw [← offset_succ_of_close? hlast, skipSpaces_encode, arrowAt_encode,
          charAt?_bytes_beq (by decide)]
        generalize skipSpaces s.chars (last + 1) = after at hafter
        split
        · rfl
        · split
          · rename_i hcolon
            have hcolon := eq_of_beq hcolon
            rw [← offset_succ_of_isAscii hcolon (by decide),
              typeEnd_encode hs (lt_size_of_getElem? hcolon), ok_bind, skipSpaces_encode,
              arrowAt_encode]
            split <;> rfl
          · rfl

theorem callArgumentsEnd_encode (h : s.charAt? i = some '<') :
    s.callArgumentsEnd (offset s.chars i) =
      .ok ((s.toListing.callArgumentsEnd? i).map (offset s.chars)) := by
  rw [callArgumentsEnd, bytes_chars, angle?_encode, Listing.callArgumentsEnd?]
  cases hclose : angle? s.chars i with
  | none => rfl
  | some close =>
    have hlt := lt_angle? h hclose
    have hsize := angle?_lt_size hclose
    rw [Option.map_some]
    dsimp only [Option.bind_eq_bind, Option.bind_some]
    rw [← offset_succ_of_isAscii h (by decide), ← offset_succ_of_angle? hclose,
      cut_offset hlt (Nat.le_of_lt hsize), ok_bind, skipSpaces_encode,
      charAt?_bytes_beq (by decide), charAt?_bytes_beq (by decide)]
    split <;> rfl

theorem parametersEnd_encode (hs : s.chars.size < s.steps) {close : Nat} (previous : Previous)
    (h : close? s.chars i = some close) :
    s.parametersEnd previous (offset s.chars close) =
      .ok ((s.toListing.parametersEnd? previous close).map (offset s.chars)) := by
  have hnext := offset_succ_of_close? h
  unfold parametersEnd Listing.parametersEnd?
  dsimp only
  rw [← hnext, bytes_chars, skipSpaces_encode, arrowAt_encode, charAt?_bytes_beq (by decide),
    charAt?_bytes_beq (by decide)]
  generalize skipSpaces s.chars (close + 1) = after
  split
  · rfl
  by_cases hcolon : s.charAt? after = some ':'
  · rw [hcolon, if_pos (beq_self_eq_true _), ← offset_succ_of_isAscii hcolon (by decide),
      typeEnd_encode hs (lt_size_of_getElem? hcolon), ok_bind, skipSpaces_encode, arrowAt_encode,
      charAt?_bytes_beq (by decide)]
    simp only [gt_iff_lt, offset_lt_iff]
    split <;> rfl
  rw [if_neg fun h => hcolon (eq_of_beq h)]
  by_cases hbrace : s.charAt? after = some '{'
  · rw [hbrace, if_pos (beq_self_eq_true _)]
    cases previous with
    | word w => dsimp only; split <;> rfl
    | start => rfl
    | mark d => rfl
    | value => rfl
  rw [if_neg fun h => hbrace (eq_of_beq h)]
  split
  · rename_i h
    exact absurd h hcolon
  · rename_i h
    exact absurd h hbrace
  · rfl

end Encoded

end Source

/-! ## Enum declarations -/

namespace Source
namespace Encoded

open Scan Listing Utf8

variable {s : Encoded} {cs : Chars} {i j start copied fuel fuel' depth : Nat} {c mark : Char}

theorem stringStop_encode (h : cs[i]? = some c) (hc : IsAscii c) :
    stringStop (encode cs) (offset cs i) = offset cs (stringStop cs i) := by
  rw [stringStop, stringStop, stringEnd?_encode h hc, size_encode]
  cases stringEnd? cs i <;> rfl

theorem slice_self (cs : Chars) (i : Nat) : slice cs i i = [] := by
  rw [slice_eq, Nat.sub_self, List.take_zero]

/-- The rest of a text, also where nothing of it is left. -/
theorem cut_rest (h : i ≤ cs.size) :
    cut cs (min (offset cs i) (encode cs).size) (encode cs).size = .ok (slice cs i cs.size) := by
  rw [size_encode, Nat.min_eq_left (offset_le_iff.mpr h), cut_offset h (Nat.le_refl _)]

/-- Outside ASCII nothing begins. -/
theorem withoutComments_pass (h : (encode cs)[i]? = some c) (hc : ¬ IsAscii c) :
    withoutComments cs (fuel + 1) copied i = withoutComments cs fuel copied (i + 1) := by
  rw [withoutComments, h]
  dsimp only
  rw [asciiClass_isQuoteMark.eq_false hc, startsAt_eq_false h hc (by decide),
    startsAt_eq_false h hc (by decide)]
  rfl

theorem offset_lt_size_encode (h : i < cs.size) : offset cs i < (encode cs).size := by
  rw [size_encode]
  exact offset_lt_offset h

/-- After what has been copied up to a position, the text without its comments. -/
theorem withoutComments_encode (hcopied : copied ≤ i) (hi : i ≤ cs.size)
    (hfuel : cs.size < fuel + i) (hfuel' : (encode cs).size < fuel' + offset cs i) :
    withoutComments cs fuel' (offset cs copied) (offset cs i) =
      .ok (slice cs copied i ++ Scan.withoutComments cs fuel i) := by
  induction i using rest_induction cs generalizing fuel fuel' copied with
  | ended i h =>
    have hsize := Nat.le_antisymm hi (Array.getElem?_eq_none_iff.mp h)
    obtain ⟨n, rfl⟩ : ∃ n, fuel = n + 1 := Nat.exists_eq_add_one.mpr (by omega)
    obtain ⟨n', rfl⟩ : ∃ n, fuel' = n + 1 := Nat.exists_eq_add_one.mpr (by
      rw [size_encode, ← hsize] at hfuel'
      omega)
    rw [withoutComments, encode_of_none h, Scan.withoutComments, h]
    dsimp only
    rw [cut_rest (Nat.le_trans hcopied hi), hsize, List.append_nil]
  | ascii i c h hc ih =>
    have hlt := lt_size_of_getElem? h
    have hbytes := offset_lt_size_encode hlt
    obtain ⟨n, rfl⟩ : ∃ n, fuel = n + 1 := Nat.exists_eq_add_one.mpr (by omega)
    obtain ⟨n', rfl⟩ : ∃ n, fuel' = n + 1 := Nat.exists_eq_add_one.mpr (by omega)
    -- from a later position on, with what is copied up to it
    have hlater {copied j : Nat} (hij : i < j) (hj : j ≤ cs.size) (hcopied : copied ≤ j) :
        withoutComments cs n' (offset cs copied) (offset cs j) =
          .ok (slice cs copied j ++ Scan.withoutComments cs n j) := by
      have := @offset_lt_offset cs _ _ hij
      exact ih j hij hcopied hj (by omega) (by omega)
    rw [withoutComments, encode_of_isAscii h hc, Scan.withoutComments, h]
    dsimp only
    rw [startsAt_encode (by decide), startsAt_encode (by decide)]
    split
    · have hstop := lt_stringStop hlt
      rw [stringStop_encode h hc, hlater hstop (stringStop_le_size ..) (by omega),
        ← List.append_assoc, slice_append cs hcopied (Nat.le_of_lt hstop)]
    split
    · rename_i hline
      simp only [startsAt, Bool.and_true, Bool.and_eq_true, beq_iff_eq] at hline
      have hstop := lt_lineEnd hline.1 (by decide)
      rw [cut_offset hcopied hi, ok_bind, lineEnd_encode,
        hlater hstop (lineEnd_le_size ..) (Nat.le_refl _), ok_bind, slice_self]
      rfl
    split
    · rename_i hblock
      have hnext := offset_add_two (by decide) (by decide) hblock
      have hstop : i < (commentEnd? cs (i + 2)).getD cs.size ∧
          (commentEnd? cs (i + 2)).getD cs.size ≤ cs.size := by
        cases hend : commentEnd? cs (i + 2) with
        | none => exact ⟨hlt, Nat.le_refl _⟩
        | some j =>
          have := lt_commentEnd? hend
          exact ⟨by rw [Option.getD_some]; omega, commentEnd?_le_size hend⟩
      have hgetD : ((commentEnd? cs (i + 2)).map (offset cs)).getD (encode cs).size =
          offset cs ((commentEnd? cs (i + 2)).getD cs.size) := by
        rw [size_encode]
        cases commentEnd? cs (i + 2) <;> rfl
      rw [cut_offset hcopied hi, ok_bind, ← hnext, commentEnd?_encode, hgetD,
        hlater hstop.1 hstop.2 (Nat.le_refl _), ok_bind, slice_self]
      rfl
    · rw [← offset_succ_of_isAscii h hc,
        hlater (Nat.lt_succ_self i) hlt (Nat.le_succ_of_le hcopied),
        ← slice_append cs hcopied (Nat.le_succ i), slice_single (s := ⟨cs, .js⟩) h,
        List.append_assoc]
      rfl
  | other i c h hc ih =>
    have hlt := lt_size_of_getElem? h
    have hbytes : offset cs (i + 1) ≤ (encode cs).size := by
      rw [size_encode]
      exact offset_le_iff.mpr hlt
    have hnext := offset_succ h
    obtain ⟨n, rfl⟩ : ∃ n, fuel = n + 1 := Nat.exists_eq_add_one.mpr (by omega)
    obtain ⟨n', rfl⟩ : ∃ n, fuel' = n + c.utf8Size := ⟨fuel' - c.utf8Size, by omega⟩
    have hover := steps_over (f := fun n j => withoutComments cs n (offset cs copied) j)
      (fun _ _ _ => withoutComments_pass) h hc n'
    have hrest : withoutComments cs n' (offset cs copied) (offset cs (i + 1)) =
        .ok (slice cs copied (i + 1) ++ Scan.withoutComments cs n (i + 1)) :=
      ih (Nat.le_succ_of_le hcopied) hlt (by omega) (by omega)
    rw [hover, hrest, Scan.withoutComments, h]
    dsimp only
    rw [asciiClass_isQuoteMark.eq_false hc, startsAt_eq_false h hc (by decide),
      startsAt_eq_false h hc (by decide), ← slice_append cs hcopied (Nat.le_succ i),
      slice_single (s := ⟨cs, .js⟩) h, List.append_assoc]
    rfl

/-! ## Pieces -/

theorem splitFrom_of_getElem? (h : cs[i]? = some c) :
    Scan.splitFrom cs mark depth start i =
      if isQuoteMark c then Scan.splitFrom cs mark depth start (stringStop cs i)
      else if isOpening c then Scan.splitFrom cs mark (depth + 1) start (i + 1)
      else if isClosing c then Scan.splitFrom cs mark (depth - 1) start (i + 1)
      else if c == mark && depth == 0 then
        slice cs start i :: Scan.splitFrom cs mark depth (i + 1) (i + 1)
      else Scan.splitFrom cs mark depth start (i + 1) := by
  obtain ⟨hlt, rfl⟩ := Array.getElem?_eq_some_iff.mp h
  rw [Scan.splitFrom, dif_pos hlt]

theorem splitFrom_of_none (h : cs[i]? = none) :
    Scan.splitFrom cs mark depth start i = [slice cs start cs.size] := by
  rw [Scan.splitFrom, dif_neg (Nat.not_lt.mpr (Array.getElem?_eq_none_iff.mp h))]

theorem splitFrom_pass (hmark : IsAscii mark) (h : (encode cs)[i]? = some c) (hc : ¬ IsAscii c) :
    splitFrom cs mark (fuel + 1) depth start i = splitFrom cs mark fuel depth start (i + 1) := by
  rw [splitFrom, h]
  dsimp only
  rw [asciiClass_isQuoteMark.eq_false hc, asciiClass_isOpening.eq_false hc,
    asciiClass_isClosing.eq_false hc, beq_eq_false hmark hc]
  rfl

theorem splitFrom_encode (hmark : IsAscii mark) (hstart : start ≤ i) (hi : i ≤ cs.size)
    (hfuel : (encode cs).size < fuel + offset cs i) :
    splitFrom cs mark fuel depth (offset cs start) (offset cs i) =
      .ok (Scan.splitFrom cs mark depth start i) := by
  induction i using rest_induction cs generalizing fuel depth start with
  | ended i h =>
    have hsize := Nat.le_antisymm hi (Array.getElem?_eq_none_iff.mp h)
    obtain ⟨n, rfl⟩ : ∃ n, fuel = n + 1 := Nat.exists_eq_add_one.mpr (by
      rw [size_encode, ← hsize] at hfuel
      omega)
    rw [splitFrom, encode_of_none h, splitFrom_of_none h]
    dsimp only
    rw [cut_rest (Nat.le_trans hstart hi), ok_bind]
  | ascii i c h hc ih =>
    have hlt := lt_size_of_getElem? h
    have hbytes := offset_lt_size_encode hlt
    have hnext := offset_succ_of_isAscii h hc
    obtain ⟨n, rfl⟩ : ∃ n, fuel = n + 1 := Nat.exists_eq_add_one.mpr (by omega)
    have hstep {start : Nat} (depth : Nat) (hstart : start ≤ i + 1) :
        splitFrom cs mark n depth (offset cs start) (offset cs i + 1) =
          .ok (Scan.splitFrom cs mark depth start (i + 1)) := by
      rw [← hnext]
      exact ih (i + 1) (Nat.lt_succ_self i) hstart hlt (by omega)
    have hgo (depth : Nat) := hstep depth (Nat.le_succ_of_le hstart)
    rw [splitFrom, encode_of_isAscii h hc, splitFrom_of_getElem? h]
    dsimp only
    split
    · have hstop := lt_stringStop hlt
      have := @offset_lt_offset cs _ _ hstop
      rw [stringStop_encode h hc,
        ih _ hstop (by omega) (stringStop_le_size ..) (by omega)]
    split
    · rw [hgo]
    split
    · rw [hgo]
    split
    · have hafter := hstep depth (Nat.le_refl (i + 1))
      rw [hnext] at hafter
      rw [cut_offset hstart hi, ok_bind, hafter, ok_bind]
    · rw [hgo]
  | other i c h hc ih =>
    have hlt := lt_size_of_getElem? h
    have hbytes : offset cs (i + 1) ≤ (encode cs).size := by
      rw [size_encode]
      exact offset_le_iff.mpr hlt
    have hnext := offset_succ h
    obtain ⟨n, rfl⟩ : ∃ n, fuel = n + c.utf8Size := ⟨fuel - c.utf8Size, by omega⟩
    have hover := steps_over (f := fun n j => splitFrom cs mark n depth (offset cs start) j)
      (fun _ _ _ => splitFrom_pass hmark) h hc n
    rw [hover, ih (Nat.le_succ_of_le hstart) hlt (by omega), splitFrom_of_getElem? h,
      asciiClass_isQuoteMark.eq_false hc, asciiClass_isOpening.eq_false hc,
      asciiClass_isClosing.eq_false hc, beq_eq_false hmark hc]
    rfl

theorem split_encode (hmark : IsAscii mark) (text : List Char) :
    split text mark = .ok (Scan.split text mark) := by
  have hzero := offset_zero text.toArray
  have hsize : (encode text.toArray).size = Text.byteLength text := by
    rw [size_encode, List.size_toArray, offset_length]
  have h : splitFrom text.toArray mark (Text.byteLength text + 1) 0 (offset text.toArray 0)
      (offset text.toArray 0) = .ok (Scan.split text mark) :=
    splitFrom_encode hmark (Nat.le_refl 0) (Nat.zero_le _) (by rw [hsize, hzero]; omega)
  rwa [hzero] at h

/-- The first of several pieces ends at a mark. -/
theorem exists_mark_of_splitFrom {key piece : List Char} {pieces : List (List Char)}
    (h : Scan.splitFrom cs mark depth start i = key :: piece :: pieces) :
    ∃ j, cs[j]? = some mark ∧ key = slice cs start j := by
  fun_induction Scan.splitFrom cs mark depth start i with
  | case1 _ _ _ _ _ ih => exact ih h
  | case2 _ _ _ _ _ _ ih => exact ih h
  | case3 _ _ _ _ _ _ _ ih => exact ih h
  | case4 depth start i hi _ _ _ hmark =>
    obtain ⟨rfl, -⟩ := List.cons.inj h
    rw [Bool.and_eq_true, beq_iff_eq] at hmark
    exact ⟨i, by rw [Array.getElem?_eq_getElem hi, hmark.1], rfl⟩
  | case5 _ _ _ _ _ _ _ _ ih => exact ih h
  | case6 => cases h

/-! ## Members -/

theorem keyAndInitializer_eq (text : List Char) :
    keyAndInitializer text = .ok (match Scan.split text '=' with
      | key :: _ :: _ =>
        (Text.trimBy Text.isBlank key,
          some (Text.trimBy Text.isBlank (text.drop (key.length + 1))))
      | pieces => (Text.trimBy Text.isBlank pieces.flatten, none)) := by
  rw [keyAndInitializer, split_encode (by decide), ok_bind]
  cases hpieces : Scan.split text '=' with
  | nil => rfl
  | cons key pieces =>
    cases pieces with
    | nil => rfl
    | cons piece pieces =>
      obtain ⟨j, hj, rfl⟩ := exists_mark_of_splitFrom hpieces
      have hlt := lt_size_of_getElem? hj
      have hkey : slice text.toArray 0 j = text.take j := by rw [slice_eq]; rfl
      have hlength : (text.take j).length = j := List.length_take_of_le (Nat.le_of_lt hlt)
      have hoffset : Text.byteLength (text.take j) + 1 = offset text.toArray (j + 1) := by
        rw [offset_succ_of_isAscii hj (by decide), offset,
          Nat.sub_eq_zero_of_le (Nat.le_of_lt hlt)]
      dsimp only
      rw [hkey, hlength, hoffset, cutFrom_offset hlt, ok_bind]

theorem members_eq (name : List Char) (count : Enum.Count) (pieces : List (List Char)) :
    members name count pieces = .ok (Enum.members name count pieces) := by
  induction pieces generalizing count with
  | nil => rfl
  | cons text rest ih =>
    rw [members, Enum.members]
    dsimp only
    generalize Text.trimBy Text.isBlank text = text
    split
    · exact ih count
    · have hrest (statement : List Char) (count : Enum.Count) :
          (members name count rest >>= fun found => .ok (found.map (statement ++ ·))) =
            (.ok ((Enum.members name count rest).map (statement ++ ·)) : Except Halt _) := by
        rw [ih, ok_bind]
      rw [keyAndInitializer_eq, ok_bind]
      rcases Scan.split text '=' with _ | ⟨key, _ | ⟨piece, pieces⟩⟩
      · cases Enum.key? (Text.trimBy Text.isBlank [].flatten) with
        | none => rfl
        | some key => exact hrest _ _
      · cases Enum.key? (Text.trimBy Text.isBlank [key].flatten) with
        | none => rfl
        | some key => exact hrest _ _
      · cases Enum.key? (Text.trimBy Text.isBlank key) with
        | none => rfl
        | some key => exact hrest _ _

/-- The declaration for the body of an enum. -/
theorem declaration_eq (name body : List Char) :
    declaration name body = .ok (Enum.declaration name body.toArray) := by
  have hzero := offset_zero body.toArray
  have hsize : (encode body.toArray).size = Text.byteLength body := by
    rw [size_encode, List.size_toArray, offset_length]
  have hbody : withoutComments body.toArray (Text.byteLength body + 1) 0 0 =
      .ok (Scan.withoutComments body.toArray (body.toArray.size + 1) 0) := by
    have h : withoutComments body.toArray (Text.byteLength body + 1) (offset body.toArray 0)
        (offset body.toArray 0) = .ok (slice body.toArray 0 0 ++
          Scan.withoutComments body.toArray (body.toArray.size + 1) 0) :=
      withoutComments_encode (Nat.le_refl 0) (Nat.zero_le _) (by omega)
        (by rw [hsize, hzero]; omega)
    rwa [hzero, slice_self, List.nil_append] at h
  rw [declaration, hbody, ok_bind, split_encode (by decide), ok_bind, members_eq, ok_bind]
  rfl

end Encoded
end Source
end Restyle
