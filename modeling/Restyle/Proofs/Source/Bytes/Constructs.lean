import Restyle.Proofs.Source.Bytes.Types

/-!
# Restyle.Proofs.Source.Bytes.Constructs

Single constructs in the bytes of a source. `Agree` relates what lowering gives for the bytes to
what it gives for the characters: the same value at the offset of the same position, or the same
fault at the offset of the same position. A cut that is not possible agrees with nothing, and
neither does a loop that takes too many steps.
-/

namespace Restyle
namespace Source

open Scan Listing Utf8

/-- The cursor over the bytes of a text. -/
def Cursor.encode (cs : Chars) (c : Cursor) : Cursor := { c with pos := offset cs c.pos }

namespace Cursor

variable (cs : Chars) (c : Cursor)

@[simp] theorem encode_pos : (c.encode cs).pos = offset cs c.pos := rfl

@[simp] theorem encode_previous : (c.encode cs).previous = c.previous := rfl

@[simp] theorem encode_written : (c.encode cs).written = c.written := rfl

end Cursor

namespace Encoded

/-- What the bytes of a text give is what its characters give. -/
inductive Agree {α : Type} (cs : Chars) (P : α → α → Prop) :
    Except Halt α → Except FaultAt α → Prop
  | ok {b a : α} (h : P b a) : Agree cs P (.ok b) (.ok a)
  | error {f : Fault} {i : Nat} (hf : f ≠ .exhausted) (hi : i ≤ cs.size) :
    Agree cs P (.error (.fault ⟨f, offset cs i⟩)) (.error ⟨f, i⟩)

/-- The same value, whose position is one of the text from `i` on. -/
structure Reaches {α : Type} (cs : Chars) (encode : α → α) (pos : α → Nat) (i : Nat) (b a : α) :
    Prop where
  eq : b = encode a
  le : i ≤ pos a
  le_size : pos a ≤ cs.size

/-- A cursor. -/
abbrev At (cs : Chars) : Nat → Cursor → Cursor → Prop := Reaches cs (Cursor.encode cs) Cursor.pos

/-- A value with the position after it. -/
abbrev Ends {α : Type} (cs : Chars) : Nat → α × Nat → α × Nat → Prop :=
  Reaches cs (Prod.map id (offset cs)) Prod.snd

section Agree

variable {α : Type} {cs : Chars} {P Q : α → α → Prop} {r : Except Halt α} {r' : Except FaultAt α}

theorem Agree.mono (h : Agree cs P r r') (hPQ : ∀ b a, P b a → Q b a) : Agree cs Q r r' := by
  cases h with
  | ok h => exact .ok (hPQ _ _ h)
  | error hf hi => exact .error hf hi

/-- Either both give a value, or both the same fault. -/
theorem Agree.ok_or_error (h : Agree cs P r r') :
    (∃ b a, r = .ok b ∧ r' = .ok a ∧ P b a) ∨
      ∃ f i, r = .error (.fault ⟨f, offset cs i⟩) ∧ r' = .error ⟨f, i⟩ ∧ f ≠ .exhausted ∧
        i ≤ cs.size := by
  cases h with
  | ok h => exact .inl ⟨_, _, rfl, rfl, h⟩
  | error hf hi => exact .inr ⟨_, _, rfl, rfl, hf, hi⟩

/-- A test that comes out the same. -/
theorem Agree.ite {p : Bool} {a b : Except Halt α} {a' b' : Except FaultAt α}
    (ht : p = true → Agree cs P a a') (hf : p = false → Agree cs P b b') :
    Agree cs P (if p then a else b) (if p then a' else b') := by
  cases p with
  | true => exact ht rfl
  | false => exact hf rfl

theorem Reaches.mono {encode : α → α} {pos : α → Nat} {i j : Nat} {b a : α}
    (h : Reaches cs encode pos j b a) (hij : i ≤ j) : Reaches cs encode pos i b a :=
  ⟨h.eq, Nat.le_trans hij h.le, h.le_size⟩

end Agree

variable {s : Encoded} {c : Cursor} {i j : Nat} {d : Char}

theorem copyTo_encode (hij : c.pos ≤ j) (hj : j ≤ s.chars.size) :
    s.copyTo (c.encode s.chars) (offset s.chars j) =
      .ok ((c.copyTo s.toListing j).encode s.chars) := by
  rw [copyTo, Cursor.encode, cut_offset hij hj]
  rfl

/-- The text from a character on. -/
theorem slice_cons (h : s.charAt? i = some d) :
    slice s.chars i s.chars.size = d :: slice s.chars (i + 1) s.chars.size := by
  rw [← slice_append s.chars (Nat.le_succ i) (lt_size_of_getElem? h), slice_single h]
  rfl

theorem copyChar_encode (h : s.charAt? c.pos = some d) :
    s.copyChar (c.encode s.chars) = .ok ((c.copyBlank d).encode s.chars) := by
  rw [copyChar, Cursor.encode, size_encode,
    cut_offset (Nat.le_of_lt (lt_size_of_getElem? h)) (Nat.le_refl _), ok_bind, slice_cons h]
  dsimp only
  rw [← offset_succ h]
  rfl

/-- At the end of the text nothing is copied. -/
theorem copyChar_end (h : s.charAt? c.pos = none) (hpos : c.pos ≤ s.chars.size) :
    s.copyChar (c.encode s.chars) = .ok (c.encode s.chars) := by
  have hend := Nat.le_antisymm hpos (Array.getElem?_eq_none_iff.mp h)
  rw [copyChar, Cursor.encode, size_encode, hend,
    cut_offset (Nat.le_refl _) (Nat.le_refl _), ok_bind, slice_self]

theorem copyMark_encode (h : s.charAt? c.pos = some d) (hd : IsAscii d) (previous : Previous) :
    (c.encode s.chars).copyMark d previous = (c.copyMark d previous).encode s.chars := by
  rw [Cursor.copyMark, Cursor.encode, ← offset_succ_of_isAscii h hd]
  rfl

theorem copyBlank_encode (h : s.charAt? c.pos = some d) (hd : IsAscii d) :
    (c.encode s.chars).copyBlank d = (c.copyBlank d).encode s.chars := by
  rw [Cursor.copyBlank, Cursor.encode, ← offset_succ_of_isAscii h hd]
  rfl

/-! ## Comments, strings, numbers -/

theorem startsAt_pair {cs : Chars} {a b : Char} :
    startsAt cs i [a, b] = true ↔ cs[i]? = some a ∧ cs[i + 1]? = some b := by
  simp [startsAt]

theorem blockComment_agree (h : startsAt s.chars c.pos ['/', '*'] = true) :
    Agree s.chars (At s.chars (c.pos + 1)) (s.blockComment (c.encode s.chars))
      (c.blockComment s.toListing) := by
  have hpos := Nat.le_of_lt (lt_size_of_getElem? (startsAt_pair.mp h).1)
  rw [blockComment, Cursor.blockComment, bytes_chars, Cursor.encode_pos,
    ← offset_add_two (by decide) (by decide) h, commentEnd?_encode]
  cases hend : commentEnd? s.chars (c.pos + 2) with
  | none => exact .error (by simp) hpos
  | some stop =>
    have hlt := lt_commentEnd? hend
    have hle : c.pos + 1 ≤ stop := by omega
    have hstop := commentEnd?_le_size hend
    rw [Option.map_some]
    dsimp only
    rw [copyTo_encode (Nat.le_of_lt hle) hstop]
    exact .ok ⟨rfl, hle, hstop⟩

theorem string_agree (h : s.charAt? c.pos = some d) (hd : IsAscii d) :
    Agree s.chars (At s.chars (c.pos + 1)) (s.string (c.encode s.chars))
      (c.string s.toListing) := by
  rw [string, Cursor.string, bytes_chars, Cursor.encode_pos, stringEnd?_encode h hd]
  cases hend : stringEnd? s.chars c.pos with
  | none => exact .error (by simp) (Nat.le_of_lt (lt_size_of_getElem? h))
  | some stop =>
    have hlt := lt_of_stringEnd? hend
    have hstop := stringEnd?_le_size hend
    rw [Option.map_some]
    dsimp only
    rw [copyTo_encode (Nat.le_of_lt hlt) hstop, ok_bind]
    exact .ok ⟨rfl, hlt, hstop⟩

theorem number_agree (h : s.charAt? c.pos = some d) (hd : IsAscii d) :
    Agree s.chars (At s.chars (c.pos + 1)) (s.number (c.encode s.chars))
      (.ok (c.number s.toListing)) := by
  have hle := le_skip Cursor.isNumberPart s.chars (c.pos + 1)
  have hstop : skip Cursor.isNumberPart s.chars (c.pos + 1) ≤ s.chars.size :=
    skip_le_size (lt_size_of_getElem? h)
  rw [number, Cursor.number, bytes_chars, Cursor.encode_pos, ← offset_succ_of_isAscii h hd,
    skip_encode asciiClass_isNumberPart, copyTo_encode (Nat.le_of_lt hle) hstop, ok_bind]
  exact .ok ⟨rfl, hle, hstop⟩

theorem slash_agree (h : s.charAt? c.pos = some '/') :
    Agree s.chars (At s.chars (c.pos + 1)) (s.slash (c.encode s.chars)) (c.slash s.toListing) := by
  have hpos := lt_size_of_getElem? h
  rw [slash, Cursor.slash, bytes_chars, Cursor.encode_pos, Cursor.encode_previous,
    ← offset_succ_of_isAscii h (by decide), regexEnd?_encode, copyMark_encode h (by decide)]
  split
  · cases hend : regexEnd? s.chars false (c.pos + 1) with
    | none => exact .error (by simp) (Nat.le_of_lt hpos)
    | some stop =>
      have hle := le_regexEnd? hend
      have hstop := regexEnd?_le_size hend
      rw [Option.map_some]
      dsimp only
      rw [copyTo_encode (Nat.le_of_lt hle) hstop, ok_bind]
      exact .ok ⟨rfl, hle, hstop⟩
  · exact .ok ⟨rfl, Nat.le_refl _, hpos⟩

/-! ## Declarations -/

theorem bindingEnd?_bytes (s : Encoded) (i : Nat) :
    bindingEnd? s.bytes (offset s.chars i) = (bindingEnd? s.toListing i).map (offset s.chars) := by
  have hbracket : AsciiClass fun c => c == '{' || c == '[' :=
    (AsciiClass.beq (by decide)).or (.beq (by decide))
  rw [bindingEnd?, bindingEnd?, charAt?_bytes, bytes_chars, close?_encode, nameEnd_encode]
  cases s.charAt? i with
  | none => rfl
  | some d =>
    have hlead := hbracket.lead d
    dsimp only [Option.map_some] at hlead ⊢
    rw [hlead, asciiClass_isNameStart.lead]
    split
    · cases hclose : close? s.chars i with
      | none => rfl
      | some close => exact congrArg some (offset_succ_of_close? hclose).symm
    · split <;> rfl

theorem bindingEnd?_within {s : Listing} (h : bindingEnd? s i = some j) :
    i ≤ j ∧ j ≤ s.chars.size := by
  unfold bindingEnd? at h
  split at h
  · rename_i hc
    split at h
    · obtain ⟨close, hclose, rfl⟩ := Option.map_eq_some_iff.mp h
      exact ⟨Nat.le_succ_of_le (le_close? hclose), close?_lt_size hclose⟩
    · split at h
      · cases h
        exact ⟨le_nameEnd .., nameEnd_le_size (Nat.le_of_lt (lt_size_of_getElem? hc))⟩
      · cases h
  · cases h

/-- Where the names end, the annotation is passed over. -/
theorem binding_eq (s : Listing) (c : Cursor) :
    c.binding s = (bindingEnd? s (skipSpaces s.chars c.pos)).elim c fun stop =>
      if s.charAt? (skipSpaces s.chars stop) == some ':' then
        { c.copyTo s stop with
          pos := Scan.typeEnd s.chars (skipSpaces s.chars stop + 1), previous := .value }
      else c := by
  unfold Cursor.binding
  dsimp only
  split
  · rename_i hnone
    have hend : bindingEnd? s (skipSpaces s.chars c.pos) = none := hnone
    rw [hend]
    rfl
  · rename_i stop hstop
    have hend : bindingEnd? s (skipSpaces s.chars c.pos) = some stop := hstop
    rw [hend]
    rfl

theorem binding_agree (hs : s.chars.size < s.steps) (hpos : c.pos ≤ s.chars.size) :
    Agree s.chars (At s.chars c.pos) (s.binding (c.encode s.chars))
      (.ok (c.binding s.toListing)) := by
  have hstart := le_skipSpaces s.chars c.pos
  rw [binding_eq, binding, bytes_chars, Cursor.encode_pos, skipSpaces_encode, bindingEnd?_bytes]
  cases hend : bindingEnd? s.toListing (skipSpaces s.chars c.pos) with
  | none => exact .ok ⟨rfl, Nat.le_refl _, hpos⟩
  | some stop =>
    obtain ⟨hle, hstop⟩ := bindingEnd?_within hend
    have hcolon := le_skipSpaces s.chars stop
    rw [Option.map_some, Option.elim_some]
    dsimp only
    rw [skipSpaces_encode, charAt?_bytes_beq (by decide)]
    generalize skipSpaces s.chars stop = colon at hcolon
    split
    · rename_i hsign
      have hsign := eq_of_beq hsign
      have hbehind := lt_size_of_getElem? hsign
      have htype := le_typeEnd s.chars (colon + 1)
      have hle : c.pos ≤ stop := Nat.le_trans hstart hle
      rw [copyTo_encode hle hstop, ok_bind, ← offset_succ_of_isAscii hsign (by decide),
        typeEnd_encode hs hbehind, ok_bind]
      exact .ok ⟨rfl, by dsimp only; omega, typeEnd_le_size hbehind⟩
    · exact .ok ⟨rfl, Nat.le_refl _, hpos⟩

/-- Beyond a name of ASCII characters as many bytes stand as characters. -/
theorem offset_slice {cs : Chars} (hij : i ≤ j) (hj : j ≤ cs.size) :
    offset cs j = offset cs i + Text.byteLength (slice cs i j) := by
  have htake : cs.toList.take j = cs.toList.take i ++ slice cs i j := by
    have hslice := slice_append cs (Nat.zero_le i) hij
    rw [slice_eq, slice_eq cs 0 j] at hslice
    exact hslice.symm
  rw [offset, offset, htake, Text.byteLength_append]
  omega

theorem wordAfter_eq (hi : i ≤ s.chars.size) :
    s.wordAfter (offset s.chars i) = .ok (s.toListing.wordAfter i) := by
  rw [wordAfter, Listing.wordAfter, bytes_chars, skipSpaces_encode, nameEnd_encode]
  have hname := le_nameEnd s.chars (skipSpaces s.chars i)
  have hsize := nameEnd_le_size (skipSpaces_le_size hi)
  simp only [gt_iff_lt, offset_lt_iff, Bool.and_eq_true, decide_eq_true_eq]
  generalize skipSpaces s.chars i = next at hname hsize
  by_cases hnext : i < next
  · by_cases hstop : next < nameEnd s.chars next
    · rw [if_pos ⟨hnext, hstop⟩, if_pos hnext, cut_offset hname hsize]
    · rw [if_neg fun h => hstop h.2, if_pos hnext, Nat.le_antisymm (Nat.not_lt.mp hstop) hname,
        slice_self]
  · rw [if_neg fun h => hnext h.1, if_neg hnext]

/-- The second of two keywords takes as many bytes as characters. -/
theorem offset_wordAfter (hi : i ≤ s.chars.size)
    (h : s.toListing.wordAfter i = "enum".toList) :
    offset s.chars (skipSpaces s.chars i + 4) = offset s.chars (skipSpaces s.chars i) + 4 ∧
      skipSpaces s.chars i + 4 ≤ s.chars.size := by
  have hname := le_nameEnd s.chars (skipSpaces s.chars i)
  have hsize := nameEnd_le_size (skipSpaces_le_size hi)
  rw [Listing.wordAfter] at h
  generalize skipSpaces s.chars i = next at hname hsize h
  split at h
  · have hoffset := offset_slice hname hsize
    have hlength : (slice s.chars next (nameEnd s.chars next)).length =
        nameEnd s.chars next - next := by
      rw [slice_eq, List.length_take, List.length_drop, Array.length_toList]
      omega
    have hfour : nameEnd s.chars next = next + 4 := by
      rw [h] at hlength
      have : "enum".toList.length = 4 := rfl
      omega
    rw [h, hfour] at hoffset
    exact ⟨hoffset, hfour ▸ hsize⟩
  · cases h

theorem enum_agree (hij : c.pos ≤ i) (hi : i ≤ s.chars.size) :
    Agree s.chars (At s.chars i) (s.enum (c.encode s.chars) (offset s.chars i))
      (c.enum s.toListing i) := by
  have hstart := le_skipSpaces s.chars i
  have hsize := skipSpaces_le_size hi
  have hname := le_nameEnd s.chars (skipSpaces s.chars i)
  have hstop := nameEnd_le_size hsize
  have hopening := skipSpaces_le_size hstop
  have hbrace (k : Nat) : (s.bytes.charAt? (offset s.chars k) != some '{') =
      (s.charAt? k != some '{') := congrArg (!·) (charAt?_bytes_beq (by decide) s k)
  rw [enum, Cursor.enum, bytes_chars, Cursor.encode_pos, skipSpaces_encode, nameEnd_encode,
    cut_offset hname hstop, ok_bind]
  dsimp only
  rw [skipSpaces_encode, hbrace, close?_encode]
  have hafter := le_skipSpaces s.chars (nameEnd s.chars (skipSpaces s.chars i))
  generalize slice s.chars _ (nameEnd s.chars (skipSpaces s.chars i)) = name
  generalize skipSpaces s.chars (nameEnd s.chars (skipSpaces s.chars i)) = opening
    at hopening hafter
  split
  · exact .error (by simp) (Nat.le_trans hij hi)
  · rename_i hhead
    obtain ⟨-, hhead⟩ := Bool.or_eq_false_iff.mp (Bool.eq_false_iff.mpr hhead)
    have hopen : s.charAt? opening = some '{' := by simpa using hhead
    cases hclose : close? s.chars opening with
    | none => exact .error (by simp) hopening
    | some close =>
      have hlt := lt_close? hopen (by decide) hclose
      have hend := close?_lt_size hclose
      have hbody : (slice s.chars (opening + 1) close).toArray =
          s.chars.extract (opening + 1) close := Array.toArray_toList
      rw [Option.map_some]
      dsimp only
      rw [← offset_succ_of_isAscii hopen (by decide), cut_offset hlt (Nat.le_of_lt hend), ok_bind,
        declaration_eq, hbody, ok_bind, ← offset_succ_of_close? hclose,
        cut_offset (by omega) hend]
      cases Enum.declaration name (s.chars.extract (opening + 1) close) with
      | error key => exact .error (by simp) hopening
      | ok text => exact .ok ⟨rfl, by dsimp only; omega, hend⟩

theorem word_agree (hs : s.chars.size < s.steps) (h : s.charAt? c.pos = some d)
    (hd : isNameStart d = true) :
    Agree s.chars (At s.chars (c.pos + 1)) (s.word (c.encode s.chars)) (c.word s.toListing) := by
  have hpos := Nat.le_of_lt (lt_size_of_getElem? h)
  have hlt := lt_nameEnd h hd
  have hsize := nameEnd_le_size hpos
  have hspaces := le_skipSpaces s.chars (nameEnd s.chars c.pos)
  rw [word, Cursor.word, bytes_chars, Cursor.encode_pos, Cursor.encode_previous, nameEnd_encode,
    cut_offset (Nat.le_of_lt hlt) hsize, ok_bind]
  dsimp only
  rw [startsStatement_bytes, declaresName_bytes, declaresAlias_bytes, interfaceEnd_bytes,
    aliasEnd_encode hs hsize, wordAfter_eq hsize, castsBraced_bytes, typeEnd_encode hs hsize,
    nameFollows_bytes, skipSpaces_encode, ok_bind, ok_bind, ok_bind]
  generalize nameEnd s.chars c.pos = stop at hlt hsize hspaces
  refine .ite (fun _ => ?_) fun _ => ?_
  · exact .ok ⟨rfl, hlt, hsize⟩
  refine .ite (fun _ => ?_) fun _ => ?_
  · exact .ok ⟨rfl, Nat.le_trans hlt (le_interfaceEnd hsize), interfaceEnd_le_size ..⟩
  refine .ite (fun _ => ?_) fun _ => ?_
  · exact .ok ⟨rfl, Nat.le_trans hlt (le_aliasEnd ..), aliasEnd_le_size hsize⟩
  refine .ite (fun _ => ?_) fun _ => ?_
  · exact (enum_agree (Nat.le_of_lt hlt) hsize).mono fun _ _ h => h.mono hlt
  refine .ite (fun hconst => ?_) fun _ => ?_
  · obtain ⟨hnext, hle⟩ := offset_wordAfter hsize (eq_of_beq (Bool.and_eq_true_iff.mp hconst).2)
    rw [← hnext]
    exact (enum_agree (by omega) hle).mono fun _ _ h => h.mono (by omega)
  refine .ite (fun _ => ?_) fun _ => ?_
  · exact .ok ⟨rfl, Nat.le_trans hlt (le_typeEnd ..), typeEnd_le_size hsize⟩
  refine .ite (fun _ => ?_) fun _ => ?_
  · exact .ok ⟨rfl, Nat.le_trans hlt hspaces, skipSpaces_le_size hsize⟩
  refine .ite (fun _ => ?_) fun _ => ?_
  · let copied : Cursor :=
      { c.copyTo s.toListing stop with previous := .word (slice s.chars c.pos stop) }
    exact (binding_agree (c := copied) hs hsize).mono fun _ _ h => h.mono hlt
  · exact .ok ⟨rfl, hlt, hsize⟩

/-! ## Tags -/

theorem tagName_agree (hi : i ≤ s.chars.size) :
    Agree s.chars (Ends s.chars (i + 1)) (s.tagName (offset s.chars i))
      (s.toListing.tagName i) := by
  rw [tagName, Listing.tagName, any_bytes asciiClass_isNameStart, bytes_chars,
    skip_encode asciiClass_isTagNamePart]
  split
  · rename_i hc
    obtain ⟨d, hd, hname⟩ : ∃ d, s.charAt? i = some d ∧ isNameStart d = true := by
      cases hd : s.charAt? i with
      | none => rw [hd] at hc; cases hc
      | some d => rw [hd] at hc; exact ⟨d, rfl, hc⟩
    have hlt : i < skip isTagNamePart s.chars i :=
      lt_skip hd (by simp [isTagNamePart, isNamePart_of_isNameStart hname])
    have hsize : skip isTagNamePart s.chars i ≤ s.chars.size := skip_le_size hi
    dsimp only
    rw [cut_offset (Nat.le_of_lt hlt) hsize, ok_bind]
    exact .ok ⟨rfl, hlt, hsize⟩
  · exact .error (by simp) hi

theorem skipTagSpaces_agree (hs : s.chars.size < s.steps) (hi : i ≤ s.chars.size) :
    Agree s.chars (Reaches s.chars (offset s.chars) (fun j => j) i)
      (s.skipTagSpaces (offset s.chars i))
      (Listing.skipTagSpaces s.chars (s.chars.size + 1) i) := by
  -- each step passes a comment
  have hsteps {n n' k : Nat} (hk : k ≤ s.chars.size) (hn : s.chars.size < n + k)
      (hn' : s.chars.size < n' + k) :
      Agree s.chars (Reaches s.chars (offset s.chars) (fun j => j) k)
        ((Listing.skipTagSpaces (encode s.chars) n' (offset s.chars k)).mapError .fault)
        (Listing.skipTagSpaces s.chars n k) := by
    induction n generalizing n' k with
    | zero => omega
    | succ n ih =>
      cases n' with
      | zero => omega
      | succ n' =>
      have hspaces := le_skipSpaces s.chars k
      have hsize := skipSpaces_le_size hk
      rw [Listing.skipTagSpaces, Listing.skipTagSpaces, skipSpaces_encode,
        startsAt_encode (by decide), startsAt_encode (by decide)]
      generalize skipSpaces s.chars k = m at hspaces hsize
      by_cases hline : startsAt s.chars m ['/', '/'] = true
      · rw [if_pos hline, if_pos hline]
        have hlt := lt_lineEnd (startsAt_pair.mp hline).1 (by decide)
        rw [lineEnd_encode]
        exact (ih (lineEnd_le_size ..) (by omega) (by omega)).mono fun _ _ h => h.mono (by omega)
      rw [if_neg hline, if_neg hline]
      by_cases hblock : startsAt s.chars m ['/', '*'] = true
      · rw [if_pos hblock, if_pos hblock, ← offset_add_two (by decide) (by decide) hblock,
          commentEnd?_encode]
        cases hend : commentEnd? s.chars (m + 2) with
        | none => exact .error (by simp) hsize
        | some j =>
          have hlt := lt_commentEnd? hend
          exact (ih (commentEnd?_le_size hend) (by omega) (by omega)).mono
            fun _ _ h => h.mono (by omega)
      rw [if_neg hblock, if_neg hblock]
      exact .ok ⟨rfl, hspaces, hsize⟩
  exact hsteps hi (by omega) (by omega)

open Encoded.children in
theorem closingName_agree (hi : i ≤ s.chars.size) :
    Agree s.chars (Ends s.chars i) (children.closingName s (offset s.chars i))
      (Source.children.closingName s.toListing i) := by
  rw [children.closingName, Source.children.closingName, charAt?_bytes_beq (by decide)]
  split
  · exact .ok ⟨rfl, Nat.le_refl _, hi⟩
  · obtain ⟨b, ⟨name, j⟩, hb, ha, rfl, hle, hsize⟩ | ⟨f, k, hb, ha, hf, hk⟩ :=
      (tagName_agree hi).ok_or_error
    · rw [hb, ha, ok_bind]
      have hspaces := le_skipSpaces s.chars j
      dsimp only at hle hsize
      dsimp only [Prod.map_apply, id_eq, Except.map]
      rw [bytes_chars, skipSpaces_encode]
      exact .ok ⟨rfl, by dsimp only; omega, skipSpaces_le_size hsize⟩
    · rw [hb, ha]
      exact .error hf hk

/-! ## Blank expressions -/

theorem skip_ne (cs : Chars) (c : Char) (hi : i ≤ cs.size) :
    skip (· != c) cs i = (find? c cs i).getD cs.size := by
  fun_induction find? c cs i with
  | case1 i hlt hc => rw [skip, dif_pos hlt, bne, hc]; rfl
  | case2 i hlt hc ih =>
    rw [skip, dif_pos hlt, bne, Bool.eq_false_iff.mpr hc, Bool.not_false, if_pos rfl]
    exact ih hlt
  | case3 i hlt =>
    rw [skip, dif_neg hlt]
    exact Nat.le_antisymm hi (Nat.not_lt.mp hlt)

/-- The end of a block comment, by its position. -/
theorem blockEnd_drop (text : List Char) (i : Nat) :
    isBlankExpression.blockEnd (text.drop i) =
      (commentEnd? text.toArray i).map fun j => text.drop j := by
  have hdrop {k : Nat} {c : Char} (h : text.toArray[k]? = some c) :
      text.drop k = c :: text.drop (k + 1) := by
    obtain ⟨hlt, rfl⟩ := List.getElem?_eq_some_iff.mp (List.getElem?_toArray.symm.trans h)
    exact List.drop_eq_getElem_cons hlt
  fun_induction commentEnd? text.toArray i with
  | case1 i hi hend =>
    obtain ⟨hstar, hslash⟩ := startsAt_pair.mp hend
    rw [hdrop hstar, hdrop hslash, isBlankExpression.blockEnd, Option.map_some]
  | case2 i hi hend ih =>
    have hi' := Array.getElem?_eq_getElem hi
    rw [hdrop hi', isBlankExpression.blockEnd, ih]
    -- the first two characters are no end of the comment
    rintro rest hstar hrest
    refine hend (startsAt_pair.mpr ⟨hi'.trans (congrArg some hstar), ?_⟩)
    rw [List.getElem?_toArray, ← List.head?_drop, hrest]
    rfl
  | case3 i hi =>
    rw [List.drop_of_length_le (Nat.not_lt.mp hi)]
    rfl

theorem dropWhile_ne (text : List Char) (c : Char) :
    text.dropWhile (· != c) = text.drop ((find? c text.toArray 0).getD text.length) := by
  rw [← drop_skip, skip_ne text.toArray c (Nat.zero_le _)]
  rfl

/-- An expression is blank as far as its bytes go. -/
theorem isBlank_eq (text : List Char) : isBlank text = .ok (Source.isBlank text) := by
  -- each step drops the opening of a comment
  have hsteps {n n' : Nat} {text : List Char} (hn : text.length < n) (hn' : text.length < n') :
      isBlankFrom n' text = .ok (isBlankExpression n text) := by
    induction n generalizing n' text with
    | zero => omega
    | succ n ih =>
      cases n' with
      | zero => omega
      | succ n' =>
      have hlength := (List.dropWhile_suffix Text.isBlank (l := text)).length_le
      have hrest {rest : List Char} {j : Nat} (hlt : rest.length + 2 ≤ text.length)
          (hj : j ≤ rest.length) :
          (cutFrom rest (offset rest.toArray j) >>= isBlankFrom n') =
            .ok (isBlankExpression n (rest.drop j)) := by
        rw [cutFrom_offset hj, ok_bind]
        refine ih ?_ ?_ <;> (rw [List.length_drop]; omega)
      obtain ⟨blank, hblank⟩ : ∃ blank, isBlankExpression (n + 1) text = blank := ⟨_, rfl⟩
      rw [hblank, isBlankFrom]
      rw [isBlankExpression] at hblank
      generalize text.dropWhile Text.isBlank = text at hlength hblank
      split
      · rename_i rest
        have hend := commentEnd?_encode rest.toArray 0
        have hblock := blockEnd_drop rest 0
        rw [offset_zero] at hend
        rw [List.drop_zero] at hblock
        simp only [hblock] at hblank
        rw [hend, ← hblank]
        cases hfound : commentEnd? rest.toArray 0 with
        | none => rfl
        | some j => exact hrest hlength (commentEnd?_le_size hfound)
      · rename_i rest
        have hend := find?_encode (d := '\n') (by decide) rest.toArray 0
        rw [offset_zero] at hend
        have hn : 0 < n := by simp only [List.length_cons] at hlength; omega
        change isBlankExpression n (rest.dropWhile (· != '\n')) = blank at hblank
        rw [hend, ← hblank, dropWhile_ne]
        cases hfound : find? '\n' rest.toArray 0 with
        | none =>
          obtain ⟨m, rfl⟩ := Nat.exists_eq_add_one.mpr hn
          rw [Option.getD_none, List.drop_length]
          rfl
        | some j =>
          exact hrest hlength (Nat.le_of_lt (lt_size_of_getElem? (getElem?_of_find? hfound)))
      · rename_i hblock hline
        split at hblank
        · exact (hblock _ rfl).elim
        · exact (hline _ rfl).elim
        · rw [hblank]
  exact hsteps (Nat.lt_succ_self _) (Nat.lt_succ_self _)

end Encoded
end Source
end Restyle
