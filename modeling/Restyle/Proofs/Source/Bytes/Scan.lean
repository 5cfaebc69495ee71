import Restyle.Proofs.Source.Bytes.Offset
import Restyle.Proofs.Source.Within

/-!
# Restyle.Proofs.Source.Bytes.Scan

Looking ahead in the bytes of a text finds the offset of the position that looking ahead in its
characters finds. A backslash takes two bytes with it there, which may end within a character;
from such a place every search goes on to the next position.
-/

namespace Restyle
namespace Source

/-- A parameter of the bytes of a text. -/
def Scan.Parameter.encode (cs : Chars) (p : Parameter) : Parameter where
  mark := p.mark.map (Utf8.offset cs)
  colon := p.colon.map (Utf8.offset cs)
  equals := p.equals.map (Utf8.offset cs)
  stop := Utf8.offset cs p.stop

namespace Utf8

open Scan

variable {cs : Chars} {i j k : Nat} {c d quote : Char} {p : Char → Bool} {ps : List Char}

/-! ## Classes -/

theorem AsciiClass.or {q : Char → Bool} (hp : AsciiClass p) (hq : AsciiClass q) :
    AsciiClass fun c => p c || q c := fun c h => (Bool.or_eq_true _ _ ▸ h).elim (hp c) (hq c)

theorem AsciiClass.mono {q : Char → Bool} (hq : AsciiClass q) (h : ∀ c, p c = true → q c = true) :
    AsciiClass p := fun c hc => hq c (h c hc)

theorem asciiClass_isNamePart : AsciiClass isNamePart :=
  (asciiClass_isAlphanum.or (.beq (by decide))).or (.beq (by decide))

theorem asciiClass_isDigit : AsciiClass Char.isDigit :=
  asciiClass_isAlphanum.mono fun c h => by rw [Char.isAlphanum, h, Bool.or_true]

theorem asciiClass_isNameStart : AsciiClass isNameStart :=
  asciiClass_isNamePart.mono fun _ => isNamePart_of_isNameStart

theorem asciiClass_isSpace : AsciiClass Text.isSpace :=
  (((AsciiClass.beq (by decide)).or (.beq (by decide))).or (.beq (by decide))).or
    (.beq (by decide)) |>.or (.beq (by decide))

theorem asciiClass_isQuoteMark : AsciiClass isQuoteMark :=
  ((AsciiClass.beq (by decide)).or (.beq (by decide))).or (.beq (by decide))

theorem asciiClass_isOpening : AsciiClass isOpening :=
  ((AsciiClass.beq (by decide)).or (.beq (by decide))).or (.beq (by decide))

theorem asciiClass_isClosing : AsciiClass isClosing :=
  ((AsciiClass.beq (by decide)).or (.beq (by decide))).or (.beq (by decide))

theorem asciiClass_isLiteralPart : AsciiClass isLiteralPart :=
  asciiClass_isAlphanum.or (.beq (by decide))

theorem asciiClass_isNumberPart : AsciiClass Cursor.isNumberPart :=
  (asciiClass_isAlphanum.or (.beq (by decide))).or (.beq (by decide))

theorem asciiClass_isTagNamePart : AsciiClass Listing.isTagNamePart :=
  ((asciiClass_isNamePart.or (.beq (by decide))).or (.beq (by decide))).or (.beq (by decide))

/-! ## At an offset -/

theorem any_encode (hp : AsciiClass p) (cs : Chars) (i : Nat) :
    ((encode cs)[offset cs i]?).any p = cs[i]?.any p := by
  rw [encode_offset]
  cases cs[i]? with
  | none => rfl
  | some c => exact hp.lead c

theorem encode_beq (hd : IsAscii d) (cs : Chars) (i : Nat) :
    ((encode cs)[offset cs i]? == some d) = (cs[i]? == some d) := by
  rw [encode_offset]
  cases cs[i]? with
  | none => rfl
  | some c => exact lead_beq hd c

theorem startsAt_encode (hps : ps.all (fun d => decide (IsAscii d)) = true) :
    startsAt (encode cs) (offset cs i) ps = startsAt cs i ps := by
  induction ps generalizing i with
  | nil => rfl
  | cons d ps ih =>
    simp only [List.all_cons, Bool.and_eq_true, decide_eq_true_eq] at hps
    obtain ⟨hd, hps⟩ := hps
    rw [startsAt, startsAt, encode_beq hd]
    cases h : cs[i]? == some d with
    | false => rfl
    | true => rw [← offset_succ_of_isAscii (eq_of_beq h) hd, ih hps]

theorem arrowAt_encode (cs : Chars) (i : Nat) :
    arrowAt (encode cs) (offset cs i) = arrowAt cs i :=
  startsAt_encode (by decide)

/-! ## Searches -/

theorem AsciiClass.eq_false (hp : AsciiClass p) (hc : ¬ IsAscii c) : p c = false :=
  Bool.eq_false_iff.mpr fun h => hc (hp c h)

theorem beq_eq_false (hd : IsAscii d) (hc : ¬ IsAscii c) : (c == d) = false :=
  (AsciiClass.beq hd).eq_false hc

theorem startsAt_eq_false (h : cs[i]? = some c) (hc : ¬ IsAscii c) (hd : IsAscii d)
    (ps : List Char) : startsAt cs i (d :: ps) = false := by
  rw [startsAt, h, Option.some_beq_some, beq_eq_false hd hc, Bool.false_and]

theorem skip_of_getElem? (h : cs[i]? = some c) :
    skip p cs i = if p c then skip p cs (i + 1) else i := by
  obtain ⟨hlt, rfl⟩ := Array.getElem?_eq_some_iff.mp h
  rw [skip, dif_pos hlt]

theorem skip_of_none (h : cs[i]? = none) : skip p cs i = i := by
  rw [skip, dif_neg (Nat.not_lt.mpr (Array.getElem?_eq_none_iff.mp h))]

theorem skip_encode (hp : AsciiClass p) (cs : Chars) (i : Nat) :
    skip p (encode cs) (offset cs i) = offset cs (skip p cs i) := by
  induction i using rest_induction cs with
  | ended i h => rw [skip_of_none h, skip_of_none (encode_of_none h)]
  | ascii i c h hc ih =>
    rw [skip_of_getElem? h, skip_of_getElem? (encode_of_isAscii h hc)]
    split
    · rw [← offset_succ_of_isAscii h hc, ih _ (Nat.lt_succ_self i)]
    · rfl
  | other i c h hc _ =>
    have hbyte : (encode cs)[offset cs i]? = some (lead c) := by
      rw [encode_offset, h, Option.map_some]
    rw [skip_of_getElem? h, skip_of_getElem? hbyte, hp.lead, hp.eq_false hc]
    rfl

/-- To the next character of a class. -/
theorem skip_not_encode (hp : AsciiClass p) (cs : Chars) (i : Nat) :
    skip (fun c => !p c) (encode cs) (offset cs i) = offset cs (skip (fun c => !p c) cs i) := by
  have hpasses (cs : Chars) : Passes cs (skip (fun c => !p c) cs) := fun i c h hc => by
    rw [skip_of_getElem? h, hp.eq_false hc]
    rfl
  induction i using rest_induction cs with
  | ended i h => rw [skip_of_none h, skip_of_none (encode_of_none h)]
  | ascii i c h hc ih =>
    rw [skip_of_getElem? h, skip_of_getElem? (encode_of_isAscii h hc)]
    split
    · rw [← offset_succ_of_isAscii h hc, ih _ (Nat.lt_succ_self i)]
    · rfl
  | other i c h hc ih => rw [(hpasses _).over h hc, hpasses cs i c h hc, ih]

theorem find?_of_getElem? (h : cs[i]? = some c) :
    find? d cs i = if c == d then some i else find? d cs (i + 1) := by
  obtain ⟨hlt, rfl⟩ := Array.getElem?_eq_some_iff.mp h
  rw [find?, dif_pos hlt]

theorem find?_of_none (h : cs[i]? = none) : find? d cs i = none := by
  rw [find?, dif_neg (Nat.not_lt.mpr (Array.getElem?_eq_none_iff.mp h))]

theorem passes_find? (hd : IsAscii d) (cs : Chars) : Passes cs (find? d cs) := fun i c h hc => by
  rw [find?_of_getElem? h, beq_eq_false hd hc]
  rfl

theorem find?_encode (hd : IsAscii d) (cs : Chars) (i : Nat) :
    find? d (encode cs) (offset cs i) = (find? d cs i).map (offset cs) := by
  induction i using rest_induction cs with
  | ended i h => rw [find?_of_none h, find?_of_none (encode_of_none h)]; rfl
  | ascii i c h hc ih =>
    rw [find?_of_getElem? h, find?_of_getElem? (encode_of_isAscii h hc)]
    split
    · rfl
    · rw [← offset_succ_of_isAscii h hc, ih _ (Nat.lt_succ_self i)]
  | other i c h hc ih =>
    rw [(passes_find? hd _).over h hc, passes_find? hd cs i c h hc, ih]

theorem commentEnd?_of_getElem? (h : cs[i]? = some c) :
    commentEnd? cs i =
      if startsAt cs i ['*', '/'] then some (i + 2) else commentEnd? cs (i + 1) := by
  rw [commentEnd?, dif_pos (Array.getElem?_eq_some_iff.mp h).1]

theorem commentEnd?_of_none (h : cs[i]? = none) : commentEnd? cs i = none := by
  rw [commentEnd?, dif_neg (Nat.not_lt.mpr (Array.getElem?_eq_none_iff.mp h))]

theorem passes_commentEnd? (cs : Chars) : Passes cs (commentEnd? cs) := fun i c h hc => by
  rw [commentEnd?_of_getElem? h, startsAt_eq_false h hc (by decide), if_neg Bool.false_ne_true]

/-- A text of ASCII characters takes as many bytes. -/
theorem offset_add_length (hps : ps.all (fun d => decide (IsAscii d)) = true)
    (h : startsAt cs i ps = true) : offset cs (i + ps.length) = offset cs i + ps.length := by
  induction ps generalizing i with
  | nil => rfl
  | cons d ps ih =>
    simp only [List.all_cons, Bool.and_eq_true, decide_eq_true_eq] at hps
    simp only [startsAt, Bool.and_eq_true, beq_iff_eq] at h
    obtain ⟨hd, hps⟩ := hps
    have hrest := ih hps h.2
    rw [offset_succ_of_isAscii h.1 hd] at hrest
    rw [List.length_cons, Nat.add_comm ps.length 1, ← Nat.add_assoc, hrest, Nat.add_assoc]

theorem offset_add_two {d e : Char} (hd : IsAscii d) (he : IsAscii e)
    (h : startsAt cs i [d, e] = true) : offset cs (i + 2) = offset cs i + 2 :=
  offset_add_length (by simp [hd, he]) h

theorem commentEnd?_encode (cs : Chars) (i : Nat) :
    commentEnd? (encode cs) (offset cs i) = (commentEnd? cs i).map (offset cs) := by
  induction i using rest_induction cs with
  | ended i h => rw [commentEnd?_of_none h, commentEnd?_of_none (encode_of_none h)]; rfl
  | ascii i c h hc ih =>
    rw [commentEnd?_of_getElem? h, commentEnd?_of_getElem? (encode_of_isAscii h hc),
      startsAt_encode (by decide)]
    split
    · rename_i hend
      rw [Option.map_some, offset_add_two (by decide) (by decide) hend]
    · rw [← offset_succ_of_isAscii h hc, ih _ (Nat.lt_succ_self i)]
  | other i c h hc ih =>
    rw [(passes_commentEnd? _).over h hc, passes_commentEnd? cs i c h hc, ih]

/-! ## Strings and brackets -/

theorem stringEndFrom?_of_getElem? (h : cs[i]? = some c) :
    stringEndFrom? quote cs i =
      if c == '\\' then stringEndFrom? quote cs (i + 2)
      else if c == '\n' && quote != '\x60' then none
      else if c == quote then some (i + 1)
      else stringEndFrom? quote cs (i + 1) := by
  obtain ⟨hlt, rfl⟩ := Array.getElem?_eq_some_iff.mp h
  rw [stringEndFrom?, dif_pos hlt]

theorem stringEndFrom?_of_none (h : cs[i]? = none) : stringEndFrom? quote cs i = none := by
  rw [stringEndFrom?, dif_neg (Nat.not_lt.mpr (Array.getElem?_eq_none_iff.mp h))]

theorem passes_stringEndFrom? (hquote : IsAscii quote) (cs : Chars) :
    Passes cs (stringEndFrom? quote cs) := fun i c h hc => by
  rw [stringEndFrom?_of_getElem? h, beq_eq_false (by decide) hc, beq_eq_false (by decide) hc,
    beq_eq_false hquote hc]
  rfl

theorem stringEndFrom?_encode (hquote : IsAscii quote) (cs : Chars) (i : Nat) :
    stringEndFrom? quote (encode cs) (offset cs i) =
      (stringEndFrom? quote cs i).map (offset cs) := by
  induction i using rest_induction cs with
  | ended i h => rw [stringEndFrom?_of_none h, stringEndFrom?_of_none (encode_of_none h)]; rfl
  | ascii i c h hc ih =>
    have hnext := offset_succ_of_isAscii h hc
    -- the byte after a backslash may be the first of several
    have hskip : stringEndFrom? quote (encode cs) (offset cs i + 2) =
        (stringEndFrom? quote cs (i + 2)).map (offset cs) := by
      rw [← ih (i + 2) (by omega), ← (passes_stringEndFrom? hquote _).within (i + 1), hnext]
    rw [stringEndFrom?_of_getElem? h, stringEndFrom?_of_getElem? (encode_of_isAscii h hc), hskip,
      ← hnext, ih (i + 1) (Nat.lt_succ_self i)]
    repeat' split
    all_goals rfl
  | other i c h hc ih =>
    rw [(passes_stringEndFrom? hquote _).over h hc, passes_stringEndFrom? hquote cs i c h hc, ih]

theorem stringEnd?_encode (h : cs[i]? = some c) (hc : IsAscii c) :
    stringEnd? (encode cs) (offset cs i) = (stringEnd? cs i).map (offset cs) := by
  rw [stringEnd?, stringEnd?, encode_of_isAscii h hc, h]
  dsimp only
  rw [← offset_succ_of_isAscii h hc, stringEndFrom?_encode hc]

/-- What `closeFrom?` does at a character. -/
theorem closeFrom?_of_getElem? (h : cs[i]? = some c) (depth : Nat) :
    closeFrom? cs depth i =
      if isQuoteMark c then (stringEnd? cs i).bind (closeFrom? cs depth)
      else if isOpening c then closeFrom? cs (depth + 1) (i + 1)
      else if isClosing c then
        match depth with
        | 0 => none
        | 1 => some i
        | depth + 2 => closeFrom? cs (depth + 1) (i + 1)
      else closeFrom? cs depth (i + 1) := by
  obtain ⟨hlt, rfl⟩ := Array.getElem?_eq_some_iff.mp h
  rw [closeFrom?.eq_def, dif_pos hlt]
  cases hend : stringEnd? cs i with
  | none => rfl
  | some next => rfl

theorem closeFrom?_of_none (h : cs[i]? = none) (depth : Nat) : closeFrom? cs depth i = none := by
  rw [closeFrom?.eq_def, dif_neg (Nat.not_lt.mpr (Array.getElem?_eq_none_iff.mp h))]

theorem passes_closeFrom? (cs : Chars) (depth : Nat) : Passes cs (closeFrom? cs depth) :=
  fun i c h hc => by
  rw [closeFrom?_of_getElem? h, asciiClass_isQuoteMark.eq_false hc,
    asciiClass_isOpening.eq_false hc, asciiClass_isClosing.eq_false hc]
  rfl

theorem closeFrom?_encode (cs : Chars) (depth i : Nat) :
    closeFrom? (encode cs) depth (offset cs i) = (closeFrom? cs depth i).map (offset cs) := by
  induction i using rest_induction cs generalizing depth with
  | ended i h => rw [closeFrom?_of_none h, closeFrom?_of_none (encode_of_none h)]; rfl
  | ascii i c h hc ih =>
    have hstep (depth : Nat) := ih (i + 1) (Nat.lt_succ_self i) depth
    rw [offset_succ_of_isAscii h hc] at hstep
    rw [closeFrom?_of_getElem? h, closeFrom?_of_getElem? (encode_of_isAscii h hc),
      stringEnd?_encode h hc]
    split
    · cases hend : stringEnd? cs i with
      | none => rfl
      | some next => exact ih next (lt_of_stringEnd? hend) depth
    split
    · exact hstep _
    split
    · match depth with
      | 0 => rfl
      | 1 => rfl
      | depth + 2 => exact hstep _
    · exact hstep _
  | other i c h hc ih =>
    rw [(passes_closeFrom? _ depth).over h hc, passes_closeFrom? cs depth i c h hc, ih]

theorem close?_encode (cs : Chars) (i : Nat) :
    close? (encode cs) (offset cs i) = (close? cs i).map (offset cs) :=
  closeFrom?_encode cs 0 i

/-- A closing bracket takes one byte. -/
theorem offset_succ_of_close? (h : close? cs i = some j) :
    offset cs (j + 1) = offset cs j + 1 := by
  obtain ⟨d, hd, hclose⟩ := exists_isClosing_of_close? h
  exact offset_succ_of_isAscii hd (asciiClass_isClosing d hclose)

theorem isArrowHead_encode (cs : Chars) (i : Nat) :
    isArrowHead (encode cs) (offset cs i) = isArrowHead cs i := by
  cases i with
  | zero => rw [offset_zero]; rfl
  | succ i =>
    have hpos : 0 < offset cs (i + 1) := Nat.lt_of_le_of_lt (Nat.zero_le _) (offset_lt_succ cs i)
    rw [isArrowHead, isArrowHead, decide_eq_true hpos, encode_offset_pred, Nat.add_sub_cancel]
    cases cs[i]? with
    | none => rfl
    | some c =>
      rw [Option.map_some, Option.some_beq_some, Option.some_beq_some]
      exact (AsciiClass.beq (by decide)).trail c

/-- What `angleFrom?` does at a character. -/
theorem angleFrom?_of_getElem? (h : cs[i]? = some c) (depth : Nat) :
    angleFrom? cs depth i =
      if isQuoteMark c then (stringEnd? cs i).bind (angleFrom? cs depth)
      else if c == ';' then none
      else if c == '<' then angleFrom? cs (depth + 1) (i + 1)
      else if c == '>' && !isArrowHead cs i then
        match depth with
        | 0 => none
        | 1 => some i
        | depth + 2 => angleFrom? cs (depth + 1) (i + 1)
      else angleFrom? cs depth (i + 1) := by
  obtain ⟨hlt, rfl⟩ := Array.getElem?_eq_some_iff.mp h
  rw [angleFrom?.eq_def, dif_pos hlt]
  cases hend : stringEnd? cs i with
  | none => rfl
  | some next => rfl

theorem angleFrom?_of_none (h : cs[i]? = none) (depth : Nat) : angleFrom? cs depth i = none := by
  rw [angleFrom?.eq_def, dif_neg (Nat.not_lt.mpr (Array.getElem?_eq_none_iff.mp h))]

theorem passes_angleFrom? (cs : Chars) (depth : Nat) : Passes cs (angleFrom? cs depth) :=
  fun i c h hc => by
  rw [angleFrom?_of_getElem? h, asciiClass_isQuoteMark.eq_false hc, beq_eq_false (by decide) hc,
    beq_eq_false (by decide) hc, beq_eq_false (by decide) hc]
  rfl

theorem angleFrom?_encode (cs : Chars) (depth i : Nat) :
    angleFrom? (encode cs) depth (offset cs i) = (angleFrom? cs depth i).map (offset cs) := by
  induction i using rest_induction cs generalizing depth with
  | ended i h => rw [angleFrom?_of_none h, angleFrom?_of_none (encode_of_none h)]; rfl
  | ascii i c h hc ih =>
    have hstep (depth : Nat) := ih (i + 1) (Nat.lt_succ_self i) depth
    rw [offset_succ_of_isAscii h hc] at hstep
    rw [angleFrom?_of_getElem? h, angleFrom?_of_getElem? (encode_of_isAscii h hc),
      stringEnd?_encode h hc, isArrowHead_encode]
    split
    · cases hend : stringEnd? cs i with
      | none => rfl
      | some next => exact ih next (lt_of_stringEnd? hend) depth
    split
    · rfl
    split
    · exact hstep _
    split
    · match depth with
      | 0 => rfl
      | 1 => rfl
      | depth + 2 => exact hstep _
    · exact hstep _
  | other i c h hc ih =>
    rw [(passes_angleFrom? _ depth).over h hc, passes_angleFrom? cs depth i c h hc, ih]

theorem angle?_encode (cs : Chars) (i : Nat) :
    angle? (encode cs) (offset cs i) = (angle? cs i).map (offset cs) :=
  angleFrom?_encode cs 0 i

/-- An angle bracket takes one byte. -/
theorem offset_succ_of_angle? (h : angle? cs i = some j) :
    offset cs (j + 1) = offset cs j + 1 :=
  offset_succ_of_isAscii (getElem?_of_angle? h) (by decide)

theorem regexEnd?_of_getElem? (h : cs[i]? = some c) (inClass : Bool) :
    Listing.regexEnd? cs inClass i =
      if c == '\n' then none
      else if c == '\\' then Listing.regexEnd? cs inClass (i + 2)
      else if c == '[' then Listing.regexEnd? cs true (i + 1)
      else if c == ']' then Listing.regexEnd? cs false (i + 1)
      else if c == '/' && !inClass then some (nameEnd cs (i + 1))
      else Listing.regexEnd? cs inClass (i + 1) := by
  obtain ⟨hlt, rfl⟩ := Array.getElem?_eq_some_iff.mp h
  rw [Listing.regexEnd?, dif_pos hlt]

theorem regexEnd?_of_none (h : cs[i]? = none) (inClass : Bool) :
    Listing.regexEnd? cs inClass i = none := by
  rw [Listing.regexEnd?, dif_neg (Nat.not_lt.mpr (Array.getElem?_eq_none_iff.mp h))]

theorem passes_regexEnd? (cs : Chars) (inClass : Bool) :
    Passes cs (Listing.regexEnd? cs inClass) := fun i c h hc => by
  rw [regexEnd?_of_getElem? h, beq_eq_false (by decide) hc, beq_eq_false (by decide) hc,
    beq_eq_false (by decide) hc, beq_eq_false (by decide) hc, beq_eq_false (by decide) hc]
  rfl

theorem regexEnd?_encode (cs : Chars) (inClass : Bool) (i : Nat) :
    Listing.regexEnd? (encode cs) inClass (offset cs i) =
      (Listing.regexEnd? cs inClass i).map (offset cs) := by
  induction i using rest_induction cs generalizing inClass with
  | ended i h => rw [regexEnd?_of_none h, regexEnd?_of_none (encode_of_none h)]; rfl
  | ascii i c h hc ih =>
    have hnext := offset_succ_of_isAscii h hc
    have hstep (inClass : Bool) := ih (i + 1) (Nat.lt_succ_self i) inClass
    have hskip : Listing.regexEnd? (encode cs) inClass (offset cs i + 2) =
        (Listing.regexEnd? cs inClass (i + 2)).map (offset cs) := by
      rw [← ih (i + 2) (by omega), ← (passes_regexEnd? _ inClass).within (i + 1), hnext]
    rw [regexEnd?_of_getElem? h, regexEnd?_of_getElem? (encode_of_isAscii h hc), hskip, ← hnext,
      nameEnd, skip_encode asciiClass_isNamePart, hstep, hstep, hstep]
    repeat' split
    all_goals rfl
  | other i c h hc ih =>
    rw [(passes_regexEnd? _ inClass).over h hc, passes_regexEnd? cs inClass i c h hc, ih]

/-! ## Looking back -/

/-- The byte before a position of one character. -/
theorem offset_eq_pred_succ (cs : Chars) (i : Nat) :
    offset cs (i + 1) = offset cs (i + 1) - 1 + 1 := by
  have := offset_lt_succ cs i
  omega

theorem encode_pred_beq (hd : IsAscii d) (cs : Chars) (hi : 0 < i) :
    ((encode cs)[offset cs i - 1]? == some d) = (cs[i - 1]? == some d) := by
  obtain ⟨i, rfl⟩ := Nat.exists_eq_add_one.mpr hi
  rw [encode_offset_pred, Nat.add_sub_cancel]
  cases cs[i]? with
  | none => rfl
  | some c => exact (AsciiClass.beq hd).trail c

open Listing in
/-- Back over a class of ASCII characters. -/
theorem before?_encode (hp : AsciiClass p) (cs : Chars) (i : Nat) :
    before? p (encode cs) (offset cs i) = (before? p cs i).map trail := by
  induction i with
  | zero => rw [offset_zero]; rfl
  | succ i ih =>
    rw [offset_eq_pred_succ, before?, before?, encode_offset_pred]
    cases h : cs[i]? with
    | none => rfl
    | some c =>
      rw [Option.map_some]
      dsimp only
      rw [hp.trail]
      split
      · rename_i hc
        rw [offset_succ_of_isAscii h (hp c hc), Nat.add_sub_cancel, ih]
      · rfl

open Listing in
/-- Back to a class of ASCII characters. -/
theorem before?_not_encode (hp : AsciiClass p) (cs : Chars) (i : Nat) :
    before? (fun c => !p c) (encode cs) (offset cs i) = before? (fun c => !p c) cs i := by
  induction i with
  | zero => rw [offset_zero]; rfl
  | succ i ih =>
    cases h : cs[i]? with
    | none =>
      rw [offset_succ_of_none h, before?, before?, h, encode_of_none h]
    | some c =>
      by_cases hc : IsAscii c
      · rw [offset_succ_of_isAscii h hc, before?, before?, h, encode_of_isAscii h hc, ih]
      · have hback (k : Nat) (hk : k ≤ c.utf8Size) :
            before? (fun c => !p c) (encode cs) (offset cs i + k) =
              before? (fun c => !p c) (encode cs) (offset cs i) := by
          induction k with
          | zero => rfl
          | succ k ihk =>
            have hbyte := encode_add h (Nat.lt_of_succ_le hk)
            have hlt : k < (bytes c).length := by rw [length_bytes]; omega
            rw [List.getElem?_eq_getElem hlt] at hbyte
            have hother := hp.eq_false (not_isAscii_of_mem_bytes hc (List.getElem_mem hlt))
            rw [← Nat.add_assoc, before?, hbyte]
            dsimp only
            rw [hother, ihk (Nat.le_of_succ_le hk)]
            rfl
        rw [offset_succ h, hback _ (Nat.le_refl _), ih, before?, h]
        dsimp only
        rw [hp.eq_false hc]
        rfl

theorem optionalMark_encode (cs : Chars) (start i : Nat) :
    optionalMark (encode cs) (offset cs start) (offset cs i) =
      (optionalMark cs start i).map (offset cs) := by
  induction i with
  | zero => rw [offset_zero]; rfl
  | succ i ih =>
    have hle : offset cs start ≤ offset cs (i + 1) - 1 ↔ start ≤ i := by
      have := @offset_lt_iff cs start (i + 1)
      have := offset_lt_succ cs i
      omega
    rw [offset_eq_pred_succ, optionalMark, optionalMark, encode_offset_pred]
    simp only [hle]
    split
    · cases h : cs[i]? with
      | none => rfl
      | some c =>
        rw [Option.map_some]
        dsimp only
        rw [asciiClass_isSpace.trail, (AsciiClass.beq (d := '?') (by decide)).trail c]
        split
        · rename_i hc
          rw [offset_succ_of_isAscii h (asciiClass_isSpace c hc), Nat.add_sub_cancel, ih]
        · split
          · rename_i hc
            have hascii : IsAscii c := by rw [eq_of_beq hc]; decide
            rw [offset_succ_of_isAscii h hascii, Nat.add_sub_cancel, Option.map_some]
          · rfl
    · rfl

theorem isDefaultSign_encode (h : cs[i]? = some '=') (start : Nat) :
    isDefaultSign (encode cs) (offset cs start) (offset cs i) = isDefaultSign cs start i := by
  rw [isDefaultSign, isDefaultSign, ← offset_succ_of_isAscii h (by decide), encode_beq (by decide),
    encode_beq (by decide)]
  by_cases hi : start < i
  · have hpos := Nat.lt_of_le_of_lt (Nat.zero_le _) hi
    rw [encode_pred_beq (by decide) cs hpos, encode_pred_beq (by decide) cs hpos,
      encode_pred_beq (by decide) cs hpos, encode_pred_beq (by decide) cs hpos,
      decide_eq_true hi, decide_eq_true (offset_lt_offset hi)]
  · have hi' : ¬ offset cs start < offset cs i := fun h => hi (offset_lt_iff.mp h)
    rw [decide_eq_false hi, decide_eq_false hi', Bool.false_and, Bool.false_and]

/-! ## Parameters -/

section Parameters

variable {start close fuel fuel' : Nat} {depth angle : Int} {parts : Parameter}

theorem parameterFrom_of_le (h : close ≤ i) :
    parameterFrom cs start close fuel i depth angle parts = parts := by
  cases fuel with
  | zero => rfl
  | succ fuel => rw [parameterFrom, if_neg (Nat.not_lt.mpr h)]

theorem parameterFrom_of_none (h : cs[i]? = none) :
    parameterFrom cs start close fuel i depth angle parts = parts := by
  cases fuel with
  | zero => rfl
  | succ fuel =>
    rw [parameterFrom, h]
    split <;> rfl

/-- As many steps as there are characters up to the end are enough. -/
theorem parameterFrom_fuel (h : close ≤ fuel + i) (h' : close ≤ fuel' + i) :
    parameterFrom cs start close fuel i depth angle parts =
      parameterFrom cs start close fuel' i depth angle parts := by
  induction fuel generalizing i fuel' depth angle parts with
  | zero => rw [parameterFrom_of_le (by omega), parameterFrom_of_le (by omega)]
  | succ fuel ih =>
    cases fuel' with
    | zero => rw [parameterFrom_of_le (by omega), parameterFrom_of_le (by omega)]
    | succ fuel' =>
      have hgo {j : Nat} (hj : i < j ∨ close ≤ j) (depth angle : Int) (parts : Parameter) :
          parameterFrom cs start close fuel j depth angle parts =
            parameterFrom cs start close fuel' j depth angle parts := ih (by omega) (by omega)
      have hquote : i < (stringEnd? cs i).getD close ∨ close ≤ (stringEnd? cs i).getD close := by
        cases hend : stringEnd? cs i with
        | none => exact .inr (Nat.le_refl _)
        | some next => exact .inl (lt_of_stringEnd? hend)
      have hnext : i < i + 1 ∨ close ≤ i + 1 := .inl (Nat.lt_succ_self i)
      rw [parameterFrom, parameterFrom]
      simp only [hgo hquote, hgo hnext]

theorem passes_parameterFrom (cs : Chars) (start close : Nat) (depth angle : Int)
    (parts : Parameter) :
    Passes cs fun i => parameterFrom cs start close close i depth angle parts := by
  intro i c h hc
  by_cases hi : i < close
  · obtain ⟨n, rfl⟩ := Nat.exists_eq_add_one.mpr (Nat.lt_of_le_of_lt (Nat.zero_le i) hi)
    dsimp only
    rw [parameterFrom, if_pos hi, h]
    dsimp only
    rw [asciiClass_isQuoteMark.eq_false hc, asciiClass_isOpening.eq_false hc,
      asciiClass_isClosing.eq_false hc, beq_eq_false (by decide) hc, beq_eq_false (by decide) hc,
      beq_eq_false (by decide) hc, beq_eq_false (by decide) hc, beq_eq_false (by decide) hc]
    exact parameterFrom_fuel (by omega) (by omega)
  · dsimp only
    rw [parameterFrom_of_le (Nat.not_lt.mp hi), parameterFrom_of_le (by omega)]

theorem parameterFrom_encode (h : close ≤ fuel + i)
    (h' : offset cs close ≤ fuel' + offset cs i) :
    parameterFrom (encode cs) (offset cs start) (offset cs close) fuel' (offset cs i) depth angle
        (parts.encode cs) =
      (parameterFrom cs start close fuel i depth angle parts).encode cs := by
  induction i using rest_induction cs generalizing fuel fuel' depth angle parts with
  | ended i hi => rw [parameterFrom_of_none hi, parameterFrom_of_none (encode_of_none hi)]
  | ascii i c hi hc ih =>
    have hnext := offset_succ_of_isAscii hi hc
    by_cases hlt : i < close
    · cases fuel with
      | zero => exact absurd hlt (by omega)
      | succ n =>
      cases fuel' with
      | zero => exact absurd (@offset_lt_offset cs _ _ hlt) (by omega)
      | succ n' =>
      have hgo (depth angle : Int) (parts : Parameter) := @ih (i + 1) (Nat.lt_succ_self i) n n'
        depth angle parts (by omega) (by omega)
      rw [hnext] at hgo
      have hbefore : ((encode cs)[offset cs i - 1]? != some '=') = (cs[i - 1]? != some '=') := by
        cases i with
        | zero =>
          have hfirst := encode_of_isAscii hi hc
          rw [offset_zero] at hfirst
          rw [offset_zero, Nat.zero_sub, hfirst, hi]
        | succ i => exact congrArg (!·) (encode_pred_beq (by decide) cs (Nat.succ_pos i))
      have hcolon : (parts.encode cs).colon.isSome = parts.colon.isSome := Option.isSome_map
      have hnoColon : (parts.encode cs).colon.isNone = parts.colon.isNone := Option.isNone_map
      have hequals : (parts.encode cs).equals.isNone = parts.equals.isNone := Option.isNone_map
      rw [parameterFrom, parameterFrom, if_pos hlt, if_pos (offset_lt_offset hlt), hi,
        encode_of_isAscii hi hc]
      dsimp only
      rw [hcolon, hnoColon, hequals, stringEnd?_encode hi hc]
      by_cases hquote : isQuoteMark c = true
      · rw [if_pos hquote, if_pos hquote]
        cases hend : stringEnd? cs i with
        | none =>
          rw [Option.map_none, Option.getD_none, Option.getD_none,
            parameterFrom_of_le (Nat.le_refl _), parameterFrom_of_le (Nat.le_refl _)]
        | some next =>
          have hlater := lt_of_stringEnd? hend
          have hlater' := @offset_lt_offset cs _ _ hlater
          rw [Option.map_some, Option.getD_some, Option.getD_some]
          exact ih next hlater (by omega) (by omega)
      rw [if_neg hquote, if_neg hquote]
      by_cases hopen : isOpening c = true
      · rw [if_pos hopen, if_pos hopen, hgo]
      rw [if_neg hopen, if_neg hopen]
      by_cases hclose : isClosing c = true
      · rw [if_pos hclose, if_pos hclose, hgo]
      rw [if_neg hclose, if_neg hclose]
      by_cases hless : (c == '<' && parts.colon.isSome && parts.equals.isNone) = true
      · rw [if_pos hless, if_pos hless, hgo]
      rw [if_neg hless, if_neg hless, hbefore]
      by_cases hgreater : (c == '>' && decide (angle > 0) && cs[i - 1]? != some '=') = true
      · rw [if_pos hgreater, if_pos hgreater, hgo]
      rw [if_neg hgreater, if_neg hgreater]
      by_cases hsign : (c == '=' && depth == 0 && angle == 0 && parts.equals.isNone) = true
      · rw [if_pos hsign, if_pos hsign]
        simp only [Bool.and_eq_true, beq_iff_eq] at hsign
        rw [isDefaultSign_encode (hi.trans (congrArg some hsign.1.1.1))]
        split
        · exact hgo _ _ { parts with equals := some i }
        · rw [hgo]
      rw [if_neg hsign, if_neg hsign]
      by_cases hat : (c == ':' && depth == 0 && angle == 0 && parts.colon.isNone &&
          parts.equals.isNone) = true
      · rw [if_pos hat, if_pos hat, optionalMark_encode]
        exact hgo _ _ { parts with colon := some i, mark := optionalMark cs start i }
      rw [if_neg hat, if_neg hat]
      by_cases hcomma : (c == ',' && depth == 0 && angle == 0) = true
      · rw [if_pos hcomma, if_pos hcomma]
        rfl
      rw [if_neg hcomma, if_neg hcomma, hgo]
    · rw [parameterFrom_of_le (Nat.not_lt.mp hlt),
        parameterFrom_of_le (offset_le_iff.mpr (Nat.not_lt.mp hlt))]
  | other i c hi hc ih =>
    rw [parameterFrom_fuel h (Nat.le_add_right close i),
      parameterFrom_fuel h' (Nat.le_add_right (offset cs close) (offset cs i))]
    have hbytes := (passes_parameterFrom (encode cs) (offset cs start) (offset cs close) depth angle
      (parts.encode cs)).over hi hc
    have hchars := passes_parameterFrom cs start close depth angle parts i c hi hc
    dsimp only at hchars
    rw [hbytes, hchars]
    exact ih (by omega) (by omega)

end Parameters

end Utf8
end Source
end Restyle
