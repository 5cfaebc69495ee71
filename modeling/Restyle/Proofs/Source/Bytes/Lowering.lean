import Restyle.Proofs.Source.Bytes.Constructs

/-!
# Restyle.Proofs.Source.Bytes.Lowering

Lowering the bytes of a source is lowering its characters (`Encoded.lower_eq`): no cut leaves the
text or falls within a character, no loop takes too many steps, and every fault is found at a place
between characters.

The functions of lowering call each other with one step less. From a position on each of them needs
eight steps for every character that is left, and a few more by its rank: a function ranks above
those that it calls at the position at which it starts (`Enough`). `InStep` says of all of them that
with so many steps they agree; it passes from each number of steps to the next.
-/

namespace Restyle
namespace Source

open Scan Listing Utf8

variable {cs : Chars} {i : Nat}

/-- Where the code of the bytes of a text ends. -/
def Stop.encode (cs : Chars) : Stop → Stop
  | .text => .text
  | .brace => .brace
  | .limit n => .limit (offset cs n)

theorem Stop.reached_encode (cs : Chars) (stop : Stop) (i : Nat) :
    (stop.encode cs).reached (offset cs i) = stop.reached i := by
  cases stop with
  | text => rfl
  | brace => rfl
  | limit n => simp only [Stop.encode, Stop.reached, offset_le_iff]

theorem Stop.encode_beq_brace (cs : Chars) (stop : Stop) :
    (stop.encode cs == .brace) = (stop == .brace) := by
  cases stop <;> rfl

theorem braceDepth_lead (depth : Nat) (c : Char) :
    braceDepth depth (lead c) = braceDepth depth c := by
  rw [braceDepth, braceDepth, lead_beq (by decide), lead_beq (by decide)]

namespace Scan.Parameter

theorem nameStop_encode (cs : Chars) (p : Parameter) :
    (p.encode cs).nameStop = offset cs p.nameStop := by
  obtain ⟨mark, colon, equals, stop⟩ := p
  cases mark <;> cases colon <;> cases equals <;> rfl

theorem defaultStop_encode (cs : Chars) (p : Parameter) :
    (p.encode cs).equals.getD (p.encode cs).stop = offset cs (p.equals.getD p.stop) := by
  obtain ⟨mark, colon, equals, stop⟩ := p
  cases equals <;> rfl

variable {start close : Nat} {p : Parameter}

theorem Within.nameStop (h : p.Within cs start close) :
    start ≤ p.nameStop ∧ p.nameStop ≤ close := by
  obtain ⟨mark, colon, equals, stop⟩ := p
  cases mark with
  | some j => exact h.mark j rfl
  | none =>
    cases colon with
    | some j => exact h.colon j rfl
    | none =>
      cases equals with
      | some j => exact h.equals j rfl
      | none => exact ⟨h.le_stop, h.stop_le⟩

theorem Within.defaultStop (h : p.Within cs start close) :
    start ≤ p.equals.getD p.stop ∧ p.equals.getD p.stop ≤ close := by
  cases hequals : p.equals with
  | some j => exact h.equals j hequals
  | none => exact ⟨h.le_stop, h.stop_le⟩

end Scan.Parameter

namespace Encoded

/-- Steps that are enough from a position on, for the characters of a source and for its bytes. -/
abbrev Enough (s : Encoded) (rank pos n n' : Nat) : Prop :=
  8 * (s.chars.size + 1 - pos) + rank ≤ n ∧ 8 * (s.chars.size + 1 - pos) + rank ≤ n'

/-- With `n` steps for the characters and `n'` for the bytes all of lowering agrees. -/
structure InStep (s : Encoded) (n n' : Nat) : Prop where
  code : ∀ (stop : Stop) (depth : Nat) {c : Cursor}, c.pos ≤ s.chars.size →
    s.Enough 4 c.pos n n' →
    Agree s.chars (At s.chars c.pos)
      (s.code n' (stop.encode s.chars) depth (c.encode s.chars))
      (Source.code s.toListing n stop depth c)
  construct : ∀ {c : Cursor} {d : Char}, s.charAt? c.pos = some d → s.Enough 3 c.pos n n' →
    Agree s.chars (At s.chars (c.pos + 1)) (s.construct n' (lead d) (c.encode s.chars))
      (Source.construct s.toListing n d c)
  angle : ∀ {c : Cursor}, s.charAt? c.pos = some '<' → s.Enough 2 c.pos n n' →
    Agree s.chars (At s.chars (c.pos + 1)) (s.angle n' (c.encode s.chars))
      (Source.angle s.toListing n c)
  openParen : ∀ {c : Cursor}, s.charAt? c.pos = some '(' → s.Enough 1 c.pos n n' →
    Agree s.chars (At s.chars (c.pos + 1)) (s.openParen n' (c.encode s.chars))
      (Source.openParen s.toListing n c)
  parameters : ∀ {close : Nat} {c : Cursor}, c.pos ≤ close → close ≤ s.chars.size →
    s.Enough 5 c.pos n n' →
    Agree s.chars (At s.chars c.pos) (s.parameters n' (offset s.chars close) (c.encode s.chars))
      (Source.parameters s.toListing n close c)
  template : ∀ {start : Nat} {c : Cursor}, start ≤ s.chars.size → c.pos ≤ s.chars.size →
    s.Enough 1 c.pos n n' →
    Agree s.chars (At s.chars c.pos) (s.template n' (offset s.chars start) (c.encode s.chars))
      (Source.template s.toListing n start c)
  capture : ∀ {i : Nat}, i ≤ s.chars.size → s.Enough 5 i n n' →
    Agree s.chars (Ends s.chars i) (s.capture n' (offset s.chars i))
      (Source.capture s.toListing n i)
  element : ∀ {i : Nat}, s.charAt? i = some '<' → s.Enough 1 i n n' →
    Agree s.chars (Ends s.chars (i + 1)) (s.element n' (offset s.chars i))
      (Source.element s.toListing n i)
  attributes : ∀ {start i : Nat} (name : List Char) (props : List (List Char)),
    start ≤ s.chars.size → i ≤ s.chars.size → s.Enough 1 i n n' →
    Agree s.chars (Ends s.chars (i + 1))
      (s.attributes n' (offset s.chars start) name props (offset s.chars i))
      (Source.attributes s.toListing n start name props i)
  attributeValue : ∀ {i : Nat}, i ≤ s.chars.size → s.Enough 2 i n n' →
    Agree s.chars (Ends s.chars (i + 1)) (s.attributeValue n' (offset s.chars i))
      (Source.attributeValue s.toListing n i)
  children : ∀ {start i : Nat} (name : List Char) (found : List (List Char)),
    start ≤ s.chars.size → i ≤ s.chars.size → s.Enough 2 i n n' →
    Agree s.chars (Ends s.chars (i + 1))
      (s.children n' name (offset s.chars start) found (offset s.chars i))
      (Source.children s.toListing n name start found i)

namespace InStep

variable {s : Encoded} {n n' start close : Nat} {c : Cursor} {d : Char}

theorem code_succ (ih : s.InStep n n') (stop : Stop) (depth : Nat) (hpos : c.pos ≤ s.chars.size)
    (hn : s.Enough 4 c.pos (n + 1) (n' + 1)) :
    Agree s.chars (At s.chars c.pos)
      (s.code (n' + 1) (stop.encode s.chars) depth (c.encode s.chars))
      (Source.code s.toListing (n + 1) stop depth c) := by
  rw [Encoded.code, Source.code, Cursor.encode_pos, check_offset hpos, ok_bind,
    Stop.reached_encode, charAt?_bytes, Stop.encode_beq_brace]
  split
  · exact .ok ⟨rfl, Nat.le_refl _, hpos⟩
  cases hd : s.charAt? c.pos with
  | none =>
    rw [Option.map_none]
    dsimp only
    split
    · exact .error (by simp) hpos
    · exact .ok ⟨rfl, Nat.le_refl _, hpos⟩
  | some d =>
    have hlt := lt_size_of_getElem? hd
    rw [Option.map_some]
    dsimp only
    rw [lead_beq (by decide), braceDepth_lead]
    split
    · rename_i hclose
      simp only [Bool.and_eq_true, beq_iff_eq] at hclose
      obtain ⟨⟨rfl, -⟩, -⟩ := hclose
      rw [← offset_succ_of_isAscii hd (by decide)]
      exact .ok ⟨rfl, Nat.le_succ _, hlt⟩
    · obtain ⟨_, next, hb, ha, rfl, hle, hsize⟩ | ⟨f, k, hb, ha, hf, hk⟩ :=
        (ih.construct hd (by omega)).ok_or_error
      · rw [hb, ha, ok_bind]
        exact (ih.code stop _ hsize (by omega)).mono fun _ _ h => h.mono (by omega)
      · rw [hb, ha]
        exact .error hf hk

theorem angle_succ (ih : s.InStep n n') (hs : s.chars.size < s.steps)
    (h : s.charAt? c.pos = some '<') (hn : s.Enough 2 c.pos (n + 1) (n' + 1)) :
    Agree s.chars (At s.chars (c.pos + 1)) (s.angle (n' + 1) (c.encode s.chars))
      (Source.angle s.toListing (n + 1) c) := by
  have harrow : (if s.dialect.hasTypes && c.previous.startsExpression then
      s.arrowParametersEnd (offset s.chars c.pos) else .ok none) =
      .ok ((if s.dialect.hasTypes && c.previous.startsExpression then
        s.toListing.arrowParametersEnd? c.pos else none).map (offset s.chars)) := by
    split
    · exact arrowParametersEnd_encode hs h
    · rfl
  have hcall : (if s.dialect.hasTypes && c.previous.endsValue then
      s.callArgumentsEnd (offset s.chars c.pos) else .ok none) =
      .ok ((if s.dialect.hasTypes && c.previous.endsValue then
        s.toListing.callArgumentsEnd? c.pos else none).map (offset s.chars)) := by
    split
    · exact callArgumentsEnd_encode h
    · rfl
  have hclass : AsciiClass fun d => d == '>' || isNameStart d :=
    (AsciiClass.beq (by decide)).or asciiClass_isNameStart
  rw [Encoded.angle, Source.angle, Cursor.encode_pos, Cursor.encode_previous, harrow, ok_bind,
    ← offset_succ_of_isAscii h (by decide), any_bytes hclass, hcall,
    copyMark_encode h (by decide)]
  cases hend : if s.dialect.hasTypes && c.previous.startsExpression then
      s.toListing.arrowParametersEnd? c.pos else none with
  | some stop =>
    obtain ⟨-, hend⟩ := Option.ite_none_right_eq_some.mp hend
    obtain ⟨hlt, hsize⟩ := arrowParametersEnd?_within hend
    exact .ok ⟨rfl, hlt, hsize⟩
  | none =>
  rw [Option.map_none]
  dsimp only
  split
  · obtain ⟨_, ⟨text, j⟩, hb, ha, rfl, hle, hsize⟩ | ⟨f, k, hb, ha, hf, hk⟩ :=
      (ih.element h (by omega)).ok_or_error
    · rw [hb, ha, ok_bind]
      exact .ok ⟨rfl, hle, hsize⟩
    · rw [hb, ha]
      exact .error hf hk
  rw [ok_bind]
  cases hend : if s.dialect.hasTypes && c.previous.endsValue then
      s.toListing.callArgumentsEnd? c.pos else none with
  | some stop =>
    obtain ⟨-, hend⟩ := Option.ite_none_right_eq_some.mp hend
    obtain ⟨hlt, hsize⟩ := callArgumentsEnd?_within hend
    exact .ok ⟨rfl, hlt, hsize⟩
  | none => exact .ok ⟨rfl, Nat.le_refl _, lt_size_of_getElem? h⟩

theorem openParen_succ (ih : s.InStep n n') (hs : s.chars.size < s.steps)
    (h : s.charAt? c.pos = some '(') (hn : s.Enough 1 c.pos (n + 1) (n' + 1)) :
    Agree s.chars (At s.chars (c.pos + 1)) (s.openParen (n' + 1) (c.encode s.chars))
      (Source.openParen s.toListing (n + 1) c) := by
  have hcopy := copyMark_encode h (by decide) (.mark '(')
  have hpos := lt_size_of_getElem? h
  have hclosing : (if s.dialect.hasTypes then close? s.bytes.chars (offset s.chars c.pos)
      else none) =
      (if s.dialect.hasTypes then close? s.chars c.pos else none).map (offset s.chars) := by
    rw [bytes_chars, close?_encode]
    split <;> rfl
  rw [Encoded.openParen, Source.openParen, Cursor.encode_pos, Cursor.encode_previous, hclosing,
    hcopy, copyBlank_encode h (by decide)]
  dsimp only
  cases hend : if s.dialect.hasTypes then close? s.chars c.pos else none with
  | none => exact .ok ⟨rfl, Nat.le_refl _, hpos⟩
  | some close =>
    obtain ⟨-, hclose⟩ := Option.ite_none_right_eq_some.mp hend
    have hlt := lt_close? h (by decide) hclose
    have hsize := close?_lt_size hclose
    rw [Option.map_some, Option.bind_some]
    dsimp only
    rw [parametersEnd_encode hs c.previous hclose, ok_bind]
    cases hstop : s.toListing.parametersEnd? c.previous close with
    | none => exact .ok ⟨rfl, Nat.le_refl _, hpos⟩
    | some stop =>
      have hbehind := lt_parametersEnd? hstop
      rw [Option.map_some]
      dsimp only
      obtain ⟨_, last, hb, ha, rfl, hle, hend⟩ | ⟨f, k, hb, ha, hf, hk⟩ :=
        (ih.parameters (c := c.copyBlank '(') hlt (Nat.le_of_lt hsize)
          (by dsimp only [Cursor.copyBlank]; omega)).ok_or_error
      · rw [hb, ha, ok_bind]
        exact .ok ⟨rfl, by dsimp only; omega, parametersEnd?_le_size hsize hstop⟩
      · rw [hb, ha]
        exact .error hf hk

theorem passType_encode (p : Parameter) (c : Cursor) :
    (c.encode s.chars).passType (p.encode s.chars) = (c.passType p).encode s.chars := by
  have hcolon : (p.encode s.chars).colon.isSome = p.colon.isSome := Option.isSome_map
  have hequals : (p.encode s.chars).equals.isNone = p.equals.isNone := Option.isNone_map
  rw [Cursor.passType, Cursor.passType, hcolon, hequals, Scan.Parameter.defaultStop_encode]
  split
  · dsimp only [Cursor.encode_written]
    split <;> rfl
  · rfl

/-- Past the type of a parameter the cursor goes forward or back, but not before the parameter. -/
theorem passType_within {p : Parameter} (hp : p.Within s.chars start close)
    (hclose : close ≤ s.chars.size) (hstart : start ≤ c.pos) (hpos : c.pos ≤ s.chars.size) :
    start ≤ (c.passType p).pos ∧ (c.passType p).pos ≤ s.chars.size := by
  obtain ⟨hle, hstop⟩ := hp.defaultStop
  rw [Cursor.passType]
  split
  · exact ⟨hle, Nat.le_trans hstop hclose⟩
  · exact ⟨hstart, hpos⟩

theorem parameter_encode (hs : offset s.chars s.chars.size < s.steps) (start : Nat)
    (hclose : close ≤ s.chars.size) :
    parameterFrom s.bytes.chars (offset s.chars start) (offset s.chars close) s.steps
        (offset s.chars start) 0 0 { stop := offset s.chars close } =
      (parameter s.chars start close).encode s.chars := by
  have hsize := @offset_le_iff s.chars close s.chars.size
  have hparts : ({ stop := offset s.chars close } : Parameter) =
    Parameter.encode s.chars { stop := close } := rfl
  rw [hparts]
  exact parameterFrom_encode (by omega) (by omega)

theorem parameters_succ (ih : s.InStep n n') (hs : offset s.chars s.chars.size < s.steps)
    (hpos : c.pos ≤ close) (hclose : close ≤ s.chars.size)
    (hn : s.Enough 5 c.pos (n + 1) (n' + 1)) :
    Agree s.chars (At s.chars c.pos)
      (s.parameters (n' + 1) (offset s.chars close) (c.encode s.chars))
      (Source.parameters s.toListing (n + 1) close c) := by
  have hp : (parameter s.chars c.pos close).Within s.chars c.pos close := parameter_within hpos
  have hequals (p : Parameter) : (p.encode s.chars).equals.isSome = p.equals.isSome :=
    Option.isSome_map
  have hend (p : Parameter) : (p.encode s.chars).stop = offset s.chars p.stop := rfl
  rw [Encoded.parameters, Source.parameters, Cursor.encode_pos, Cursor.encode_written,
    parameter_encode hs c.pos hclose]
  dsimp only
  rw [Scan.Parameter.nameStop_encode, Scan.Parameter.defaultStop_encode, hequals, hend]
  generalize parameter s.chars c.pos close = p at hp
  have hstop := Nat.le_trans hp.stop_le hclose
  rw [check_offset (Nat.le_trans hp.nameStop.2 hclose), ok_bind,
    check_offset (Nat.le_trans hp.defaultStop.2 hclose), ok_bind, check_offset hstop, ok_bind]
  have hname : Agree s.chars (At s.chars c.pos)
      (s.code n' (.limit (offset s.chars p.nameStop)) 0
        { pos := offset s.chars c.pos, written := c.written })
      (Source.code s.toListing n (.limit p.nameStop) 0 { pos := c.pos, written := c.written }) :=
    ih.code (.limit p.nameStop) 0 (c := { pos := c.pos, written := c.written })
      (Nat.le_trans hpos hclose) (by dsimp only; omega)
  obtain ⟨_, named, hb, ha, rfl, hle, hsize⟩ | ⟨f, k, hb, ha, hf, hk⟩ := hname.ok_or_error
  case inr =>
    rw [hb, ha]
    exact .error hf hk
  rw [hb, ha, ok_bind]
  dsimp only
  rw [passType_encode]
  obtain ⟨hle, hsize⟩ := passType_within hp hclose hle hsize
  generalize named.passType p = named at hle hsize
  have hdefault : Agree s.chars (At s.chars c.pos)
      (if p.equals.isSome then
        s.code n' (.limit (offset s.chars p.stop)) 0 (named.encode s.chars)
      else .ok (named.encode s.chars))
      (if p.equals.isSome then Source.code s.toListing n (.limit p.stop) 0 named
      else .ok named) := by
    split
    · exact (ih.code (.limit p.stop) 0 hsize (by omega)).mono fun _ _ h => h.mono hle
    · exact .ok ⟨rfl, hle, hsize⟩
  obtain ⟨_, last, hb, ha, rfl, hle, hsize⟩ | ⟨f, k, hb, ha, hf, hk⟩ := hdefault.ok_or_error
  case inr =>
    rw [hb, ha]
    exact .error hf hk
  rw [hb, ha, ok_bind]
  dsimp only
  simp only [ge_iff_le, offset_le_iff]
  split
  · exact .ok ⟨rfl, hle, hsize⟩
  · rename_i hcomma
    have hcomma := Nat.not_le.mp hcomma
    have hstart := hp.le_stop
    rw [← offset_succ_of_isAscii (hp.comma hcomma) (by decide)]
    exact (ih.parameters (c := { last.write [','] with pos := p.stop + 1 }) hcomma hclose
      (by dsimp only; omega)).mono fun _ _ h => h.mono (by dsimp only; omega)

theorem template_succ (ih : s.InStep n n') (hstart : start ≤ s.chars.size)
    (hpos : c.pos ≤ s.chars.size) (hn : s.Enough 1 c.pos (n + 1) (n' + 1)) :
    Agree s.chars (At s.chars c.pos)
      (s.template (n' + 1) (offset s.chars start) (c.encode s.chars))
      (Source.template s.toListing (n + 1) start c) := by
  rw [Encoded.template, Source.template, Cursor.encode_pos, check_offset hpos, ok_bind,
    charAt?_bytes]
  cases hd : s.charAt? c.pos with
  | none => exact .error (by simp) hstart
  | some d =>
  have hlt := lt_size_of_getElem? hd
  have hopening : (d == '$' && s.bytes.charAt? (offset s.chars c.pos + 1) == some '{') =
      (d == '$' && s.charAt? (c.pos + 1) == some '{') := by
    by_cases hdollar : d = '$'
    · rw [← offset_succ_of_isAscii hd (hdollar ▸ by decide), charAt?_bytes_beq (by decide)]
    · rw [beq_eq_false_iff_ne.mpr hdollar, Bool.false_and, Bool.false_and]
  have hlater (next : Cursor) (hlt : c.pos < next.pos) (hsize : next.pos ≤ s.chars.size) :
      Agree s.chars (At s.chars c.pos)
        (s.template n' (offset s.chars start) (next.encode s.chars))
        (Source.template s.toListing n start next) :=
    (ih.template hstart hsize (by omega)).mono fun _ _ h => h.mono (Nat.le_of_lt hlt)
  have hchar := copyChar_encode (c := c) hd
  rw [Option.map_some]
  dsimp only
  rw [lead_beq (by decide), lead_beq (by decide), lead_beq (by decide), hopening, hchar, ok_bind]
  split
  · rename_i hslash
    obtain rfl := eq_of_beq hslash
    rw [lead_of_isAscii (by decide), copyBlank_encode hd (by decide)]
    cases he : s.charAt? (c.pos + 1) with
    | none =>
      rw [copyChar_end (c := c.copyBlank '\\') he hlt, ok_bind]
      exact hlater (c.copyBlank '\\') (Nat.lt_succ_self _) hlt
    | some e =>
      rw [copyChar_encode (c := c.copyBlank '\\') he, ok_bind]
      exact hlater ((c.copyBlank '\\').copyBlank e)
        (Nat.lt_succ_of_lt (Nat.lt_succ_self _)) (lt_size_of_getElem? he)
  split
  · rename_i hmark
    obtain rfl := eq_of_beq hmark
    rw [lead_of_isAscii (by decide), copyBlank_encode hd (by decide)]
    exact .ok ⟨rfl, Nat.le_succ _, hlt⟩
  split
  · rename_i hcode
    simp only [Bool.and_eq_true, beq_iff_eq] at hcode
    obtain ⟨rfl, hbrace⟩ := hcode
    have hsize := lt_size_of_getElem? hbrace
    rw [lead_of_isAscii (by decide), copyBlank_encode hd (by decide),
      copyBlank_encode (c := c.copyBlank '$') hbrace (by decide)]
    have hcode : Agree s.chars (At s.chars (c.pos + 2))
        (s.code n' .brace 0
          { (((c.copyBlank '$').copyBlank '{').encode s.chars) with previous := .start })
        (Source.code s.toListing n .brace 0
          { (c.copyBlank '$').copyBlank '{' with previous := .start }) :=
      ih.code .brace 0 (c := { (c.copyBlank '$').copyBlank '{' with previous := .start }) hsize
        (by dsimp only [Cursor.copyBlank]; omega)
    dsimp only at hcode ⊢
    obtain ⟨_, inner, hb, ha, rfl, hle, hsize⟩ | ⟨f, k, hb, ha, hf, hk⟩ := hcode.ok_or_error
    · rw [hb, ha, ok_bind]
      exact hlater { inner.write ['}'] with previous := c.previous }
        (by dsimp only [Cursor.write]; omega) hsize
    · rw [hb, ha]
      exact .error hf hk
  · exact hlater (c.copyBlank d) (Nat.lt_succ_self _) hlt

theorem capture_succ (ih : s.InStep n n') (hi : i ≤ s.chars.size)
    (hn : s.Enough 5 i (n + 1) (n' + 1)) :
    Agree s.chars (Ends s.chars i) (s.capture (n' + 1) (offset s.chars i))
      (Source.capture s.toListing (n + 1) i) := by
  have hcode : Agree s.chars (At s.chars i) (s.code n' .brace 0 { pos := offset s.chars i })
      (Source.code s.toListing n .brace 0 { pos := i }) :=
    ih.code .brace 0 (c := { pos := i }) hi (by dsimp only; omega)
  rw [Encoded.capture, Source.capture]
  obtain ⟨_, last, hb, ha, rfl, hle, hsize⟩ | ⟨f, k, hb, ha, hf, hk⟩ := hcode.ok_or_error
  · rw [hb, ha, ok_bind]
    exact .ok ⟨rfl, hle, hsize⟩
  · rw [hb, ha]
    exact .error hf hk

/-- Where a character outside ASCII stands it is copied. -/
theorem construct_of_not_isAscii (s : Listing) (n : Nat) (c : Cursor) (hd : ¬ IsAscii d) :
    Source.construct s (n + 1) d c = .ok (c.copyMark d .value) := by
  have hmark {a : Char} (ha : IsAscii a) : (d == a) = false := beq_eq_false ha hd
  have hhigh : d.toNat ≥ 128 := Nat.not_lt.mp hd
  rw [Source.construct]
  simp only [asciiClass_isNameStart.eq_false hd, asciiClass_isDigit.eq_false hd,
    asciiClass_isSpace.eq_false hd, hmark (a := '/') (by decide), hmark (a := '\'') (by decide),
    hmark (a := '"') (by decide), hmark (a := '\x60') (by decide), hmark (a := '{') (by decide),
    hmark (a := '}') (by decide), hmark (a := '<') (by decide), hmark (a := '(') (by decide),
    hmark (a := '!') (by decide), hmark (a := '.') (by decide), Bool.false_and, Bool.or_false,
    Bool.false_eq_true, if_false]
  rw [decide_eq_true hhigh, Bool.true_or, Bool.true_or, if_pos rfl]

theorem construct_of_not_isAscii_byte (s : Encoded) (n : Nat) (c : Cursor) (hd : ¬ IsAscii d) :
    s.construct (n + 1) d c = (do .ok { ← s.copyChar c with previous := .value }) := by
  have hmark {a : Char} (ha : IsAscii a) : (d == a) = false := beq_eq_false ha hd
  have hhigh : d.toNat ≥ 128 := Nat.not_lt.mp hd
  rw [Encoded.construct]
  simp only [asciiClass_isNameStart.eq_false hd, asciiClass_isDigit.eq_false hd,
    asciiClass_isSpace.eq_false hd, hmark (a := '/') (by decide), hmark (a := '\'') (by decide),
    hmark (a := '"') (by decide), hmark (a := '\x60') (by decide), hmark (a := '{') (by decide),
    hmark (a := '}') (by decide), hmark (a := '<') (by decide), hmark (a := '(') (by decide),
    hmark (a := '!') (by decide), hmark (a := '.') (by decide), Bool.false_and, Bool.or_false,
    Bool.false_eq_true, if_false]
  rw [if_pos hhigh]

theorem construct_succ (ih : s.InStep n n') (hs : s.chars.size < s.steps)
    (h : s.charAt? c.pos = some d) (hn : s.Enough 3 c.pos (n + 1) (n' + 1)) :
    Agree s.chars (At s.chars (c.pos + 1)) (s.construct (n' + 1) (lead d) (c.encode s.chars))
      (Source.construct s.toListing (n + 1) d c) := by
  by_cases hd : IsAscii d
  case neg =>
    have hlead : ¬ IsAscii (lead d) := fun hlead => hd (isAscii_lead.mp hlead)
    rw [construct_of_not_isAscii _ n c hd, construct_of_not_isAscii_byte s n' _ hlead,
      copyChar_encode h, ok_bind]
    exact .ok ⟨rfl, Nat.le_refl _, lt_size_of_getElem? h⟩
  have hlt := lt_size_of_getElem? h
  have hlow : ¬ d.toNat ≥ 128 := Nat.not_le.mpr hd
  have hasserts : s.bytes.assertsValue (c.encode s.chars) = s.assertsValue c :=
    assertsValue_bytes h hd c.previous c.written
  rw [lead_of_isAscii hd, Encoded.construct, Source.construct, Cursor.encode_pos, hasserts,
    ← offset_succ_of_isAscii h hd, charAt?_bytes_beq (by decide), charAt?_bytes_beq (by decide),
    any_bytes asciiClass_isDigit, bytes_chars, lineEnd_encode, copyMark_encode h hd,
    copyMark_encode h hd, copyBlank_encode h hd]
  refine .ite (fun hline => ?_) fun _ => ?_
  · simp only [Bool.and_eq_true, beq_iff_eq] at hline
    obtain ⟨rfl, -⟩ := hline
    have hstop := lt_lineEnd h (by decide)
    rw [copyTo_encode (Nat.le_of_lt hstop) (lineEnd_le_size ..)]
    exact .ok ⟨rfl, hstop, lineEnd_le_size ..⟩
  refine .ite (fun hblock => ?_) fun _ => ?_
  · simp only [Bool.and_eq_true, beq_iff_eq] at hblock
    obtain ⟨rfl, hstar⟩ := hblock
    exact blockComment_agree (startsAt_pair.mpr ⟨h, hstar⟩)
  refine .ite (fun _ => ?_) fun _ => ?_
  · exact string_agree h hd
  refine .ite (fun htemplate => ?_) fun _ => ?_
  · obtain rfl := eq_of_beq htemplate
    obtain ⟨_, last, hb, ha, rfl, hle, hsize⟩ | ⟨f, k, hb, ha, hf, hk⟩ :=
      (ih.template (c := c.copyBlank '\x60') (Nat.le_of_lt hlt) hlt
        (by dsimp only [Cursor.copyBlank]; omega)).ok_or_error
    · rw [hb, ha, ok_bind]
      exact .ok ⟨rfl, hle, hsize⟩
    · rw [hb, ha]
      exact .error hf hk
  refine .ite (fun _ => ?_) fun _ => ?_
  · exact .ok ⟨rfl, Nat.le_refl _, hlt⟩
  refine .ite (fun hangle => ?_) fun _ => ?_
  · obtain rfl := eq_of_beq hangle
    exact ih.angle h (by omega)
  refine .ite (fun hslash => ?_) fun _ => ?_
  · obtain rfl := eq_of_beq hslash
    exact slash_agree h
  refine .ite (fun hparen => ?_) fun _ => ?_
  · obtain rfl := eq_of_beq hparen
    exact ih.openParen h (by omega)
  refine .ite (fun _ => ?_) fun _ => ?_
  · exact .ok ⟨rfl, Nat.le_refl _, hlt⟩
  refine .ite (fun _ => ?_) fun _ => ?_
  · exact number_agree h hd
  refine .ite (fun hname => ?_) fun _ => ?_
  · exact word_agree hs h hname
  refine .ite (fun _ => ?_) fun _ => ?_
  · exact number_agree h hd
  refine .ite (fun _ => ?_) fun _ => ?_
  · exact .ok ⟨rfl, Nat.le_refl _, hlt⟩
  rw [if_neg hlow, decide_eq_false hlow, Bool.false_or]
  refine .ite (fun _ => ?_) fun _ => ?_
  · exact .ok ⟨rfl, Nat.le_refl _, hlt⟩
  · exact .ok ⟨rfl, Nat.le_refl _, hlt⟩

theorem element_succ (ih : s.InStep n n') (hs : s.chars.size < s.steps)
    (h : s.charAt? i = some '<') (hn : s.Enough 1 i (n + 1) (n' + 1)) :
    Agree s.chars (Ends s.chars (i + 1)) (s.element (n' + 1) (offset s.chars i))
      (Source.element s.toListing (n + 1) i) := by
  have hlt := lt_size_of_getElem? h
  rw [Encoded.element, Source.element, check_offset (Nat.le_of_lt hlt), ok_bind,
    ← offset_succ_of_isAscii h (by decide)]
  obtain ⟨_, j, hb, ha, rfl, hle, hsize⟩ | ⟨f, k, hb, ha, hf, hk⟩ :=
    (skipTagSpaces_agree hs hlt).ok_or_error
  case inr =>
    rw [hb, ha]
    exact .error hf hk
  rw [hb, ha, ok_bind, charAt?_bytes_beq (by decide)]
  dsimp only at hle hsize ⊢
  split
  · rename_i hclose
    have hclose := eq_of_beq hclose
    rw [← offset_succ_of_isAscii hclose (by decide)]
    obtain ⟨_, ⟨cs, k⟩, hb, ha, rfl, hle, hsize⟩ | ⟨f, k, hb, ha, hf, hk⟩ :=
      (ih.children (i := j + 1) [] [] (Nat.le_of_lt hlt) (lt_size_of_getElem? hclose)
        (by omega)).ok_or_error
    · rw [hb, ha, ok_bind]
      exact .ok ⟨rfl, by dsimp only at hle ⊢; omega, hsize⟩
    · rw [hb, ha]
      exact .error hf hk
  · obtain ⟨_, ⟨name, k⟩, hb, ha, rfl, hle, hsize⟩ | ⟨f, k, hb, ha, hf, hk⟩ :=
      (tagName_agree hsize).ok_or_error
    · rw [hb, ha, ok_bind]
      dsimp only at hle hsize
      exact (ih.attributes name [] (Nat.le_of_lt hlt) hsize (by omega)).mono
        fun _ _ h => h.mono (by omega)
    · rw [hb, ha]
      exact .error hf hk

/-- What the first character of a value tells. -/
theorem attributeValue_eq {s : Listing} (n : Nat) (h : s.charAt? i = some d) :
    Source.attributeValue s (n + 1) i =
      if d == '{' then
        match Source.capture s n (i + 1) with
        | .error e => .error e
        | .ok (text, stop) =>
          if Source.isBlank text then .error ⟨.emptyAttribute, i⟩
          else .ok (Text.trimBy Text.isBlank text, stop)
      else if d == '<' then Source.element s n i
      else if d == '"' || d == '\'' then
        match find? d s.chars (i + 1) with
        | some stop =>
          .ok (stringLiteral (Markup.Entity.decode (slice s.chars (i + 1) stop)), stop + 1)
        | none => .error ⟨.openString, i⟩
      else .error ⟨.noAttributeValue, i⟩ := by
  rw [Source.attributeValue, h]
  split
  · rename_i hbrace
    cases hbrace
    rfl
  · rename_i hangle
    cases hangle
    rfl
  · rename_i hbrace hangle heq
    cases heq
    exact ((if_neg fun h => hbrace (eq_of_beq h)).trans
      (if_neg fun h => hangle (eq_of_beq h))).symm
  · rename_i heq
    cases heq

theorem attributeValue_succ (ih : s.InStep n n') (hi : i ≤ s.chars.size)
    (hn : s.Enough 2 i (n + 1) (n' + 1)) :
    Agree s.chars (Ends s.chars (i + 1)) (s.attributeValue (n' + 1) (offset s.chars i))
      (Source.attributeValue s.toListing (n + 1) i) := by
  rw [Encoded.attributeValue, check_offset hi, ok_bind, charAt?_bytes]
  cases hd : s.charAt? i with
  | none =>
    rw [Source.attributeValue, hd]
    exact .error (by simp) hi
  | some d =>
  have hlt := lt_size_of_getElem? hd
  have hquote : AsciiClass fun d => d == '"' || d == '\'' :=
    (AsciiClass.beq (by decide)).or (.beq (by decide))
  have hlead := hquote.lead d
  rw [attributeValue_eq n hd, Option.map_some]
  dsimp only at hlead ⊢
  rw [lead_beq (by decide), lead_beq (by decide), hlead]
  refine .ite (fun hbrace => ?_) fun _ => ?_
  · obtain rfl := eq_of_beq hbrace
    rw [← offset_succ_of_isAscii hd (by decide)]
    obtain ⟨_, ⟨text, stop⟩, hb, ha, rfl, hle, hsize⟩ | ⟨f, k, hb, ha, hf, hk⟩ :=
      (ih.capture (i := i + 1) hlt (by omega)).ok_or_error
    · rw [hb, ha, ok_bind]
      dsimp only [Prod.map_apply, id_eq]
      rw [isBlank_eq, ok_bind]
      exact .ite (fun _ => .error (by simp) hi) fun _ => .ok ⟨rfl, hle, hsize⟩
    · rw [hb, ha]
      exact .error hf hk
  refine .ite (fun hangle => ?_) fun _ => ?_
  · obtain rfl := eq_of_beq hangle
    exact ih.element hd (by omega)
  refine .ite (fun hmark => ?_) fun _ => .error (by simp) hi
  have hascii := hquote d hmark
  rw [lead_of_isAscii hascii, ← offset_succ_of_isAscii hd hascii, bytes_chars,
    find?_encode hascii]
  cases hend : find? d s.chars (i + 1) with
  | none => exact .error (by simp) hi
  | some stop =>
    have hstop := getElem?_of_find? hend
    have hle := le_find? hend
    rw [Option.map_some]
    dsimp only
    rw [cut_offset hle (Nat.le_of_lt (lt_size_of_getElem? hstop)), ok_bind,
      ← offset_succ_of_isAscii hstop hascii]
    exact .ok ⟨rfl, Nat.le_succ_of_le hle, lt_size_of_getElem? hstop⟩

theorem attributes_succ (ih : s.InStep n n') (hs : s.chars.size < s.steps) (name : List Char)
    (props : List (List Char)) (hstart : start ≤ s.chars.size) (hi : i ≤ s.chars.size)
    (hn : s.Enough 1 i (n + 1) (n' + 1)) :
    Agree s.chars (Ends s.chars (i + 1))
      (s.attributes (n' + 1) (offset s.chars start) name props (offset s.chars i))
      (Source.attributes s.toListing (n + 1) start name props i) := by
  rw [Encoded.attributes, Source.attributes]
  obtain ⟨_, j, hb, ha, rfl, hle, hsize⟩ | ⟨f, k, hb, ha, hf, hk⟩ :=
    (skipTagSpaces_agree hs hi).ok_or_error
  case inr =>
    rw [hb, ha]
    exact .error hf hk
  rw [hb, ha, ok_bind, check_offset hsize, ok_bind, charAt?_bytes]
  dsimp only at hle hsize ⊢
  cases hd : s.charAt? j with
  | none => exact .error (by simp) hstart
  | some d =>
  have hlt := lt_size_of_getElem? hd
  have hlater {k : Nat} (props : List (List Char)) (hk : j < k) (hsize : k ≤ s.chars.size) :
      Agree s.chars (Ends s.chars (i + 1))
        (s.attributes n' (offset s.chars start) name props (offset s.chars k))
        (Source.attributes s.toListing n start name props k) :=
    (ih.attributes name props hstart hsize (by omega)).mono fun _ _ h => h.mono (by omega)
  rw [Option.map_some]
  dsimp only
  rw [lead_beq (by decide), lead_beq (by decide), lead_beq (by decide),
    asciiClass_isNameStart.lead]
  refine .ite (fun hslash => ?_) fun _ => ?_
  · obtain rfl := eq_of_beq hslash
    rw [← offset_succ_of_isAscii hd (by decide), charAt?_bytes_beq (by decide)]
    refine .ite (fun hclose => ?_) fun _ => .error (by simp) hsize
    have hclose := eq_of_beq hclose
    rw [← offset_add_two (by decide) (by decide) (startsAt_pair.mpr ⟨hd, hclose⟩)]
    exact .ok ⟨rfl, by dsimp only; omega, lt_size_of_getElem? hclose⟩
  refine .ite (fun hclose => ?_) fun _ => ?_
  · obtain rfl := eq_of_beq hclose
    rw [← offset_succ_of_isAscii hd (by decide)]
    obtain ⟨_, ⟨cs, k⟩, hb, ha, rfl, hle, hsize⟩ | ⟨f, k, hb, ha, hf, hk⟩ :=
      (ih.children (i := j + 1) name [] hstart hlt (by omega)).ok_or_error
    · rw [hb, ha, ok_bind]
      exact .ok ⟨rfl, by dsimp only at hle ⊢; omega, hsize⟩
    · rw [hb, ha]
      exact .error hf hk
  refine .ite (fun hbrace => ?_) fun _ => ?_
  · obtain rfl := eq_of_beq hbrace
    have hspaces := le_skipSpaces s.chars (j + 1)
    have hdots := skipSpaces_le_size hlt
    rw [← offset_succ_of_isAscii hd (by decide), bytes_chars, skipSpaces_encode,
      startsAt_encode (by decide)]
    generalize skipSpaces s.chars (j + 1) = dots at hspaces hdots
    refine .ite (fun hspread => ?_) fun _ => .error (by simp) hsize
    have hbehind : dots + 3 ≤ s.chars.size := le_size_of_startsAt hdots hspread
    have hoffset : offset s.chars (dots + 3) = offset s.chars dots + 3 :=
      offset_add_length (by decide) hspread
    rw [← hoffset]
    obtain ⟨_, ⟨text, k⟩, hb, ha, rfl, hle, hsize⟩ | ⟨f, k, hb, ha, hf, hk⟩ :=
      (ih.capture hbehind (by omega)).ok_or_error
    · rw [hb, ha, ok_bind]
      exact hlater _ (by dsimp only at hle; omega) hsize
    · rw [hb, ha]
      exact .error hf hk
  refine .ite (fun hname => ?_) fun _ => .error (by simp) hsize
  obtain ⟨_, ⟨key, k⟩, hb, ha, rfl, hle, hsize⟩ | ⟨f, k, hb, ha, hf, hk⟩ :=
    (tagName_agree hsize).ok_or_error
  case inr =>
    rw [hb, ha]
    exact .error hf hk
  dsimp only [Prod.map_apply, id_eq] at hb hle hsize
  rw [hb, ha, ok_bind]
  dsimp only
  have hspaces := le_skipSpaces s.chars k
  have hsign := skipSpaces_le_size hsize
  rw [bytes_chars, skipSpaces_encode, charAt?_bytes_beq (by decide)]
  generalize skipSpaces s.chars k = sign at hspaces hsign
  have hvalue : Agree s.chars (Ends s.chars (j + 1))
      (if s.charAt? sign == some '=' then
        s.attributeValue n' (skipSpaces (encode s.chars) (offset s.chars sign + 1))
      else .ok ("true".toList, offset s.chars sign))
      (if s.charAt? sign == some '=' then
        Source.attributeValue s.toListing n (skipSpaces s.chars (sign + 1))
      else .ok ("true".toList, sign)) := by
    refine .ite (fun hequals => ?_) fun _ => .ok ⟨rfl, by dsimp only; omega, hsign⟩
    have hequals := eq_of_beq hequals
    have hbehind : sign + 1 ≤ s.chars.size := lt_size_of_getElem? hequals
    have hvalue := le_skipSpaces s.chars (sign + 1)
    rw [← offset_succ_of_isAscii hequals (by decide), skipSpaces_encode]
    exact (ih.attributeValue (skipSpaces_le_size hbehind) (by omega)).mono
      fun _ _ h => h.mono (by omega)
  obtain ⟨_, ⟨value, k⟩, hb, ha, rfl, hle, hsize⟩ | ⟨f, k, hb, ha, hf, hk⟩ := hvalue.ok_or_error
  · rw [hb, ha, ok_bind]
    exact hlater _ hle hsize
  · rw [hb, ha]
    exact .error hf hk

theorem children_succ (ih : s.InStep n n') (name : List Char) (found : List (List Char))
    (hstart : start ≤ s.chars.size) (hi : i ≤ s.chars.size)
    (hn : s.Enough 2 i (n + 1) (n' + 1)) :
    Agree s.chars (Ends s.chars (i + 1))
      (s.children (n' + 1) name (offset s.chars start) found (offset s.chars i))
      (Source.children s.toListing (n + 1) name start found i) := by
  rw [Encoded.children, Source.children, check_offset hi, ok_bind, charAt?_bytes]
  cases hd : s.charAt? i with
  | none => exact .error (by simp) hstart
  | some d =>
  have hlt : i + 1 ≤ s.chars.size := lt_size_of_getElem? hd
  have hlater {k : Nat} (found : List (List Char)) (hk : i < k) (hsize : k ≤ s.chars.size) :
      Agree s.chars (Ends s.chars (i + 1))
        (s.children n' name (offset s.chars start) found (offset s.chars k))
        (Source.children s.toListing n name start found k) :=
    (ih.children name found hstart hsize (by omega)).mono fun _ _ h => h.mono (by omega)
  rw [Option.map_some]
  dsimp only
  rw [lead_beq (by decide), lead_beq (by decide)]
  refine .ite (fun hangle => ?_) fun hangle => ?_
  · obtain rfl := eq_of_beq hangle
    have hspaces := le_skipSpaces s.chars (i + 1)
    have hafter := skipSpaces_le_size hlt
    rw [← offset_succ_of_isAscii hd (by decide), bytes_chars, skipSpaces_encode,
      charAt?_bytes_beq (by decide)]
    generalize skipSpaces s.chars (i + 1) = after at hspaces hafter
    refine .ite (fun hslash => ?_) fun _ => ?_
    · have hslash := eq_of_beq hslash
      have hspaces := le_skipSpaces s.chars (after + 1)
      have hbehind : after + 1 ≤ s.chars.size := lt_size_of_getElem? hslash
      have hname := skipSpaces_le_size hbehind
      rw [← offset_succ_of_isAscii hslash (by decide), skipSpaces_encode]
      obtain ⟨_, ⟨closing, k⟩, hb, ha, rfl, hle, hsize⟩ | ⟨f, k, hb, ha, hf, hk⟩ :=
        (closingName_agree hname).ok_or_error
      case inr =>
        rw [hb, ha]
        exact .error hf hk
      dsimp only [Prod.map_apply, id_eq] at hb hle hsize
      have hother : (s.bytes.charAt? (offset s.chars k) != some '>') =
          (s.charAt? k != some '>') := congrArg (!·) (charAt?_bytes_beq (by decide) s k)
      rw [hb, ha, ok_bind]
      dsimp only
      rw [hother]
      refine .ite (fun _ => .error (by simp) hsize) fun hclose => ?_
      have hclose : s.charAt? k = some '>' := by simpa using hclose
      rw [← offset_succ_of_isAscii hclose (by decide)]
      exact .ite (fun _ => .ok ⟨rfl, by dsimp only; omega, lt_size_of_getElem? hclose⟩)
        fun _ => .error (by simp) hi
    · obtain ⟨_, ⟨text, k⟩, hb, ha, rfl, hle, hsize⟩ | ⟨f, k, hb, ha, hf, hk⟩ :=
        (ih.element hd (by omega)).ok_or_error
      · rw [hb, ha, ok_bind]
        exact hlater _ hle hsize
      · rw [hb, ha]
        exact .error hf hk
  refine .ite (fun hbrace => ?_) fun hbrace => ?_
  · obtain rfl := eq_of_beq hbrace
    rw [← offset_succ_of_isAscii hd (by decide)]
    obtain ⟨_, ⟨text, k⟩, hb, ha, rfl, hle, hsize⟩ | ⟨f, k, hb, ha, hf, hk⟩ :=
      (ih.capture (i := i + 1) hlt (by omega)).ok_or_error
    · dsimp only [Prod.map_apply, id_eq] at hb
      rw [hb, ha, ok_bind]
      dsimp only
      rw [isBlank_eq, ok_bind]
      exact hlater _ hle hsize
    · rw [hb, ha]
      exact .error hf hk
  · have hmarks : AsciiClass fun e => e == '<' || e == '{' :=
      (AsciiClass.beq (by decide)).or (.beq (by decide))
    have hclass : (fun e => e != '<' && e != '{') = fun e => !(e == '<' || e == '{') :=
      funext fun e => (Bool.not_or ..).symm
    have hstop : i < skip (fun e => e != '<' && e != '{') s.chars i :=
      lt_skip hd (by rw [bne, bne, hangle, hbrace]; rfl)
    have hsize : skip (fun e => e != '<' && e != '{') s.chars i ≤ s.chars.size := skip_le_size hi
    rw [hclass] at hstop hsize ⊢
    rw [bytes_chars, skip_not_encode hmarks, cut_offset (Nat.le_of_lt hstop) hsize, ok_bind]
    exact hlater _ hstop hsize

/-- Lowering agrees with whatever numbers of steps are enough. -/
theorem all (hs : offset s.chars s.chars.size < s.steps) (n n' : Nat) : s.InStep n n' := by
  have hsize := Nat.lt_of_le_of_lt (le_offset s.chars s.chars.size) hs
  induction n generalizing n' with
  | zero => constructor <;> intros <;> omega
  | succ n ih =>
    cases n' with
    | zero => constructor <;> intros <;> omega
    | succ n' =>
      have ih := ih n'
      exact {
        code := fun stop depth => ih.code_succ stop depth
        construct := ih.construct_succ hsize
        angle := ih.angle_succ hsize
        openParen := ih.openParen_succ hsize
        parameters := ih.parameters_succ hs
        template := ih.template_succ
        capture := ih.capture_succ
        element := ih.element_succ hsize
        attributes := ih.attributes_succ hsize
        attributeValue := ih.attributeValue_succ
        children := ih.children_succ }

end InStep

/-! ## Sources -/

theorem byteLength_eq (text : List Char) :
    Text.byteLength text = (String.ofList text).utf8ByteSize := by
  induction text with
  | nil => rfl
  | cons c text ih =>
    rw [Text.byteLength_cons, ih, String.ofList_cons, String.utf8ByteSize_append,
      String.utf8ByteSize_singleton]

theorem offset_size (source : String) :
    offset source.toList.toArray source.toList.toArray.size = source.utf8ByteSize := by
  rw [List.size_toArray, offset_length, byteLength_eq, String.ofList_toList]

/-- A position of a source is a place between characters. -/
theorem isValid_offset (source : String) (hi : i ≤ source.toList.length) :
    String.Pos.Raw.IsValid source ⟨offset source.toList.toArray i⟩ := by
  have hoffset : offset source.toList.toArray i =
      (String.ofList (source.toList.take i)).utf8ByteSize := by
    rw [offset, List.size_toArray, Nat.sub_eq_zero_of_le hi, Nat.add_zero, byteLength_eq]
  have hvalid := String.Pos.Raw.isValid_ofList (l := source.toList)
    (p := ⟨offset source.toList.toArray i⟩)
  rw [String.ofList_toList] at hvalid
  exact hvalid.mpr ⟨i, hoffset⟩

/-- From the beginning eight steps for every byte are enough. -/
theorem code_agree (s : Encoded)
    (hs : stepsPerChar * (offset s.chars s.chars.size + 2) ≤ s.steps) :
    Agree s.chars (At s.chars 0) (s.code s.steps .text 0 {})
      (Source.code s.toListing (stepsPerChar * (s.chars.size + 2)) .text 0 {}) := by
  have hsize := le_offset s.chars s.chars.size
  have hstart : Cursor.encode s.chars {} = {} := by rw [Cursor.encode, offset_zero]
  simp only [stepsPerChar] at hs ⊢
  have h := (InStep.all (s := s) (by omega) (8 * (s.chars.size + 2)) s.steps).code .text 0
    (c := {}) (Nat.zero_le _) (by dsimp only; omega)
  rwa [hstart] at h

/-- Lowering a source byte by byte never halts at a cut and never takes more steps than eight for
every byte. It gives what lowering gives, or the same fault; and a fault is found within the
source, at a place between characters. -/
theorem lower_eq (source : String) (dialect : Dialect) {steps : Nat}
    (hsteps : stepsPerChar * (source.utf8ByteSize + 2) ≤ steps) :
    Encoded.lower source dialect steps =
        (Source.lower source dialect).mapError (fun e => .fault ⟨e.fault, e.offset⟩) ∧
      ∀ e, Source.lower source dialect = .error e →
        e.fault ≠ .exhausted ∧ e.offset ≤ source.utf8ByteSize ∧
          String.Pos.Raw.IsValid source ⟨e.offset⟩ := by
  have hcode := code_agree ⟨⟨source.toList.toArray, dialect⟩, steps⟩
    (by rw [offset_size]; exact hsteps)
  rw [Encoded.lower, Source.lower]
  obtain ⟨_, c, hb, ha, rfl, -, -⟩ | ⟨f, i, hb, ha, hf, hi⟩ := hcode.ok_or_error
  · rw [List.size_toArray] at ha
    rw [hb, ha, ok_bind]
    exact ⟨rfl, nofun⟩
  · rw [List.size_toArray] at ha hi
    have hoffset : Text.byteLength (source.toList.take i) = offset source.toList.toArray i := by
      rw [offset, List.size_toArray, Nat.sub_eq_zero_of_le hi, Nat.add_zero]
    rw [hb, ha]
    dsimp only
    rw [hoffset]
    refine ⟨rfl, ?_⟩
    rintro _ ⟨⟩
    dsimp only
    rw [← offset_size, offset_le_iff, List.size_toArray]
    exact ⟨hf, hi, isValid_offset source hi⟩

/-- The type arguments in the default of `x` reach over the comma at which the default ends, and the
cursor goes back to it. The second source ends within a string, after a backslash and a character
of two bytes. -/
theorem lower_eq_overshot :
    Encoded.lower "const f = (x = a<b, c>(\"é\\ü\"), y: ñ) => x" .tsx 400 =
        .ok "const f = (x = a, c>(\"é\\ü\"), y) => x" ∧
      ∃ e, Source.lower "é = \"\\ü" .js = .error e ∧
        Encoded.lower "é = \"\\ü" .js 400 = .error (.fault ⟨e.fault, e.offset⟩) ∧
        String.Pos.Raw.IsValid "é = \"\\ü" ⟨e.offset⟩ := by
  have htext : (Source.lower "const f = (x = a<b, c>(\"é\\ü\"), y: ñ) => x" .tsx).toOption =
      some "const f = (x = a, c>(\"é\\ü\"), y) => x" := by decide +kernel
  have hfault : (Source.lower "é = \"\\ü" .js).toOption = none := by decide +kernel
  refine ⟨?_, ?_⟩
  · rw [(lower_eq _ _ (by decide)).1]
    cases h : Source.lower "const f = (x = a<b, c>(\"é\\ü\"), y: ñ) => x" .tsx with
    | error e => rw [h] at htext; cases htext
    | ok text => rw [h] at htext; cases htext; rfl
  · obtain ⟨hlower, hplace⟩ := lower_eq "é = \"\\ü" .js
      (show stepsPerChar * (("é = \"\\ü").utf8ByteSize + 2) ≤ 400 by decide)
    cases h : Source.lower "é = \"\\ü" .js with
    | error e => exact ⟨e, rfl, by rw [hlower, h]; rfl, (hplace e h).2.2⟩
    | ok text => rw [h] at hfault; cases hfault

end Encoded
end Source
end Restyle
