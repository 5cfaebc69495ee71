import Restyle.Proofs.Source.Bytes.Constructs
import Restyle.Proofs.Source.Bytes.Nested
import Restyle.Proofs.Source.AttributeText

/-!
# Restyle.Proofs.Source.Bytes.Attributes

The attributes of a tag from the bytes of their text. Offsets move byte by byte, and names and values
are cut out between two of them; a quotation mark or a brace that nothing closes reaches to the end of
the text. Every cut succeeds, and the attributes are those that the text is cut into character by
character (`spansFrom_encode`).
-/

namespace Restyle
namespace Source

open Scan Utf8
open Encoded (cut_offset offset_slice skipSpaces_encode slice_self skip_ne offset_length)

variable {cs : Chars} {i j lead : Nat} {c d : Char}

/-! ## Ends -/

/-- Position after the group in braces that opens at `i`. -/
def bracedEnd (cs : Chars) (i : Nat) : Nat :=
  match NestedSearch.braceEnd.find? cs {} i with
  | some found => found.1 + 1
  | none => cs.size

/-- Position after the value that begins at `i`. -/
def valueEnd (cs : Chars) (i : Nat) : Nat :=
  match cs[i]? with
  | none => i
  | some c =>
    if c == '{' then bracedEnd cs i
    else if c == '"' || c == '\'' then
      match find? c cs (i + 1) with
      | some close => close + 1
      | none => cs.size
    else skip isBareValueChar cs i

/-- What stands at a place in attribute text, by the ends of its parts. -/
inductive Shape where
  /-- A character that begins no attribute. -/
  | stray
  | braced (stop : Nat)
  | bare (stop : Nat)
  | valued (nameStop valueStart stop : Nat)
  deriving Repr, BEq, DecidableEq

/-- The shape of what begins with `c` at `i`. -/
def shapeAt (cs : Chars) (i : Nat) (c : Char) : Shape :=
  if c == '{' then .braced (bracedEnd cs i)
  else
    let nameStop := skip isAttributeNameChar cs i
    if nameStop == i then .stray
    else
      let sign := skipSpaces cs nameStop
      if cs[sign]? == some '=' then
        let valueStart := skipSpaces cs (sign + 1)
        .valued nameStop valueStart (valueEnd cs valueStart)
      else .bare nameStop

namespace Shape

def stop (i : Nat) : Shape → Nat
  | stray => i + 1
  | braced stop => stop
  | bare stop => stop
  | valued _ _ stop => stop

def encode (cs : Chars) : Shape → Shape
  | stray => stray
  | braced stop => braced (offset cs stop)
  | bare stop => bare (offset cs stop)
  | valued nameStop valueStart stop =>
    valued (offset cs nameStop) (offset cs valueStart) (offset cs stop)

/-- The item of a shape at `i`. -/
def item (cs : Chars) (lead : List Char) (i : Nat) : Shape → AttributeItem
  | stray => { lead, text := slice cs i (i + 1), name := none }
  | braced stop =>
    { lead, text := slice cs i stop, name := some [], value := some (slice cs i stop) }
  | bare stop => { lead, text := slice cs i stop, name := some (slice cs i stop) }
  | valued nameStop valueStart stop =>
    { lead, text := slice cs i stop, name := some (slice cs i nameStop)
      value := some (slice cs valueStart stop) }

/-- The parts of a shape stand in order within a text. -/
inductive IsWithin (cs : Chars) (i : Nat) : Shape → Prop where
  | stray : i < cs.size → offset cs (i + 1) = offset cs i + 1 → IsWithin cs i stray
  | braced {stop : Nat} : i < stop → stop ≤ cs.size → IsWithin cs i (braced stop)
  | bare {stop : Nat} : i < stop → stop ≤ cs.size → IsWithin cs i (bare stop)
  | valued {nameStop valueStart stop : Nat} : i < nameStop → nameStop ≤ valueStart →
      valueStart ≤ stop → stop ≤ cs.size → IsWithin cs i (valued nameStop valueStart stop)

end Shape

theorem bracedEnd_encode (cs : Chars) (i : Nat) :
    bracedEnd (encode cs) (offset cs i) = offset cs (bracedEnd cs i) := by
  rw [bracedEnd, bracedEnd, NestedSearch.find?_encode NestedSearch.isRegular_braceEnd
    Nesting.isSteady_start]
  cases hfound : NestedSearch.braceEnd.find? cs {} i with
  | none => exact size_encode cs
  | some found =>
    obtain ⟨-, -, c, hc, hstops⟩ :=
      NestedSearch.find?_spec NestedSearch.isRegular_braceEnd Nesting.isSteady_start hfound
    have hascii : IsAscii c := Decidable.of_not_not fun h => by
      rw [NestedSearch.isRegular_braceEnd.not_stops h] at hstops
      cases hstops
    exact (offset_succ_of_isAscii hc hascii).symm

theorem lt_bracedEnd (hi : i < cs.size) : i < bracedEnd cs i := by
  rw [bracedEnd]
  split
  · rename_i found hfound
    have := (NestedSearch.find?_spec NestedSearch.isRegular_braceEnd Nesting.isSteady_start hfound).1
    omega
  · exact hi

theorem bracedEnd_le_size (cs : Chars) (i : Nat) : bracedEnd cs i ≤ cs.size := by
  rw [bracedEnd]
  split
  · rename_i found hfound
    obtain ⟨-, -, c, hc, -⟩ :=
      NestedSearch.find?_spec NestedSearch.isRegular_braceEnd Nesting.isSteady_start hfound
    exact lt_size_of_getElem? hc
  · exact Nat.le_refl _

theorem slice_to_size (cs : Chars) (i : Nat) : slice cs i cs.size = cs.toList.drop i := by
  rw [slice_eq, ← Array.length_toList, List.take_of_length_le (Nat.le_of_eq (List.length_drop ..))]

theorem drop_size (cs : Chars) : cs.toList.drop cs.size = [] :=
  List.drop_of_length_le (Nat.le_of_eq Array.length_toList)

/-- A group in braces is cut where it ends. -/
theorem cutBraced_drop (cs : Chars) (i : Nat) :
    cutBraced {} (cs.toList.drop i) =
      (slice cs i (bracedEnd cs i), cs.toList.drop (bracedEnd cs i)) := by
  rw [NestedSearch.cutBraced_eq, NestedSearch.cutAt?_drop NestedSearch.isRegular_braceEnd
    Nesting.isSteady_start, bracedEnd]
  cases hfound : NestedSearch.braceEnd.find? cs {} i with
  | none => rw [slice_to_size, drop_size]; rfl
  | some found =>
    obtain ⟨hle, -, c, hc, hstops⟩ :=
      NestedSearch.find?_spec NestedSearch.isRegular_braceEnd Nesting.isSteady_start hfound
    simp only [NestedSearch.braceEnd, Bool.and_eq_true, beq_iff_eq] at hstops
    obtain ⟨⟨-, rfl⟩, -⟩ := hstops
    rw [Option.map_some, Option.map_some, Option.getD_some,
      ← slice_append cs hle (Nat.le_succ _), slice_single (s := ⟨cs, .js⟩) hc]

theorem takeWhile_drop (p : Char → Bool) (cs : Chars) (i : Nat) :
    (cs.toList.drop i).takeWhile p = slice cs i (skip p cs i) := by
  have hskip : skip p cs i = i + ((cs.toList.drop i).takeWhile p).length :=
    skip_eq_add p ⟨cs, .js⟩ i
  have htake := List.takeWhile_prefix p (l := cs.toList.drop i)
  rw [slice_eq, hskip, Nat.add_sub_cancel_left]
  exact List.prefix_iff_eq_take.mp htake

theorem dropWhile_drop (p : Char → Bool) (cs : Chars) (i : Nat) :
    (cs.toList.drop i).dropWhile p = cs.toList.drop (skip p cs i) :=
  (tail_skip p ⟨cs, .js⟩ i).symm

theorem asciiClass_endsBare : AsciiClass fun c => Text.isSpace c || c == '>' :=
  asciiClass_isSpace.or (.beq (by decide))

theorem asciiClass_endsAttributeName :
    AsciiClass fun c => Text.isSpace c || c == '=' || c == '/' || c == '>' :=
  ((asciiClass_isSpace.or (.beq (by decide))).or (.beq (by decide))).or (.beq (by decide))

theorem getElem?_of_find? (h : find? d cs i = some j) : cs[j]? = some d :=
  (find?_spec (s := ⟨cs, .js⟩) h).2

theorem valueEnd_of_getElem? (h : cs[i]? = some c) :
    valueEnd cs i =
      if c == '{' then bracedEnd cs i
      else if c == '"' || c == '\'' then
        match find? c cs (i + 1) with
        | some close => close + 1
        | none => cs.size
      else skip isBareValueChar cs i := by
  rw [valueEnd, h]

theorem valueEnd_of_none (h : cs[i]? = none) : valueEnd cs i = i := by rw [valueEnd, h]

theorem valueEnd_encode (cs : Chars) (i : Nat) :
    valueEnd (encode cs) (offset cs i) = offset cs (valueEnd cs i) := by
  cases h : cs[i]? with
  | none => rw [valueEnd_of_none h, valueEnd_of_none (encode_of_none h)]
  | some c =>
    have hbare : skip isBareValueChar (encode cs) (offset cs i) =
        offset cs (skip isBareValueChar cs i) := skip_not_encode asciiClass_endsBare cs i
    by_cases hc : IsAscii c
    · rw [valueEnd_of_getElem? h, valueEnd_of_getElem? (encode_of_isAscii h hc),
        bracedEnd_encode, ← offset_succ_of_isAscii h hc, find?_encode hc, hbare]
      split
      · rfl
      split
      · cases hfound : find? c cs (i + 1) with
        | none => exact size_encode cs
        | some close => exact (offset_succ_of_isAscii (getElem?_of_find? hfound) hc).symm
      · rfl
    · have hbyte : (encode cs)[offset cs i]? = some (lead c) := by
        rw [encode_offset, h, Option.map_some]
      have hquotes : AsciiClass fun c => c == '"' || c == '\'' :=
        (AsciiClass.beq (by decide)).or (.beq (by decide))
      have hopen : (c == '{') = false := beq_eq_false (by decide) hc
      rw [valueEnd_of_getElem? h, valueEnd_of_getElem? hbyte, lead_beq (by decide), hopen,
        hquotes.lead c, hquotes.eq_false hc, hbare]
      rfl

theorem valueEnd_bounds (hi : i ≤ cs.size) : i ≤ valueEnd cs i ∧ valueEnd cs i ≤ cs.size := by
  cases h : cs[i]? with
  | none =>
    rw [valueEnd_of_none h]
    exact ⟨Nat.le_refl i, hi⟩
  | some c =>
    have hlt := lt_size_of_getElem? h
    rw [valueEnd_of_getElem? h]
    split
    · exact ⟨Nat.le_of_lt (lt_bracedEnd hlt), bracedEnd_le_size cs i⟩
    split
    · cases hfound : find? c cs (i + 1) with
      | none => exact ⟨hi, Nat.le_refl _⟩
      | some close =>
        have hle := le_find? hfound
        have hclose := lt_size_of_getElem? (getElem?_of_find? hfound)
        dsimp only
        omega
    · exact ⟨le_skip .., skip_le_size hi⟩

/-- A value is cut where it ends. -/
theorem cutValue_drop (cs : Chars) (i : Nat) :
    cutValue (cs.toList.drop i) =
      (slice cs i (valueEnd cs i), cs.toList.drop (valueEnd cs i)) := by
  cases h : cs[i]? with
  | none =>
    have hself : slice cs i i = [] := slice_self cs i
    rw [valueEnd_of_none h, drop_eq_nil h, hself]
    rfl
  | some c =>
    have hlt := lt_size_of_getElem? h
    have hdrop := drop_eq_cons h
    rw [valueEnd_of_getElem? h, hdrop, cutValue]
    split
    · rw [← hdrop, cutBraced_drop]
    split
    · have hrest : (cs.toList.drop (i + 1)).dropWhile (· != c) =
          cs.toList.drop ((find? c cs (i + 1)).getD cs.size) := by
        rw [dropWhile_drop, skip_ne cs c hlt]
      have hinside : (cs.toList.drop (i + 1)).takeWhile (· != c) =
          slice cs (i + 1) ((find? c cs (i + 1)).getD cs.size) := by
        rw [takeWhile_drop, skip_ne cs c hlt]
      cases hfound : find? c cs (i + 1) with
      | none =>
        rw [hfound, Option.getD_none, drop_size] at hrest
        rw [cutQuoted, hrest, slice_to_size, drop_size, hdrop]
      | some close =>
        have hclose := getElem?_of_find? hfound
        have hle := le_find? hfound
        rw [hfound, Option.getD_some] at hrest hinside
        rw [drop_eq_cons hclose] at hrest
        rw [cutQuoted, hrest, hinside, slice_eq_cons h (Nat.lt_succ_of_lt hle),
          ← slice_append cs hle (Nat.le_succ close), slice_single (s := ⟨cs, .js⟩) hclose]
        rfl
    · rw [← hdrop, takeWhile_drop, dropWhile_drop]

/-! ## Items -/

theorem shapeAt_encode (cs : Chars) (i : Nat) (c : Char) :
    shapeAt (encode cs) (offset cs i) (Utf8.lead c) = (shapeAt cs i c).encode cs := by
  have hname : skip isAttributeNameChar (encode cs) (offset cs i) =
      offset cs (skip isAttributeNameChar cs i) := skip_not_encode asciiClass_endsAttributeName cs i
  have hstray : (offset cs (skip isAttributeNameChar cs i) == offset cs i) =
      (skip isAttributeNameChar cs i == i) := by
    rw [Bool.eq_iff_iff, beq_iff_eq, beq_iff_eq, offset_inj]
  have hsign : ((encode cs)[offset cs (skipSpaces cs (skip isAttributeNameChar cs i))]? == some '=') =
      (cs[skipSpaces cs (skip isAttributeNameChar cs i)]? == some '=') :=
    encode_beq (by decide) cs _
  rw [shapeAt, shapeAt, lead_beq (by decide), bracedEnd_encode]
  dsimp only
  rw [hname, hstray, skipSpaces_encode, hsign]
  split
  · rfl
  split
  · rfl
  split
  · rename_i hequals
    rw [← offset_succ_of_isAscii (beq_iff_eq.mp hequals) (by decide), skipSpaces_encode,
      valueEnd_encode]
    rfl
  · rfl

theorem shapeAt_isWithin (h : cs[i]? = some c) : (shapeAt cs i c).IsWithin cs i := by
  have hlt := lt_size_of_getElem? h
  have hname := skip_le_size (p := isAttributeNameChar) (Nat.le_of_lt hlt)
  have hle := le_skip isAttributeNameChar cs i
  rw [shapeAt]
  dsimp only
  split
  · exact .braced (lt_bracedEnd hlt) (bracedEnd_le_size cs i)
  split
  · rename_i hstray
    refine .stray hlt (offset_succ_of_isAscii h ?_)
    have hends : isAttributeNameChar c = false := Bool.eq_false_iff.mpr fun hc => by
      have := lt_skip h hc
      rw [beq_iff_eq] at hstray
      omega
    rw [isAttributeNameChar, Bool.not_eq_false'] at hends
    exact asciiClass_endsAttributeName c hends
  · rename_i hstray
    rw [beq_iff_eq] at hstray
    split
    · rename_i hequals
      have hsign := lt_size_of_getElem? (beq_iff_eq.mp hequals)
      have hspaces := le_skipSpaces cs (skip isAttributeNameChar cs i)
      have hvalue := le_skipSpaces cs (skipSpaces cs (skip isAttributeNameChar cs i) + 1)
      obtain ⟨hstart, hstop⟩ := valueEnd_bounds (skipSpaces_le_size (Nat.succ_le_of_lt hsign))
      exact .valued (by omega) (by omega) hstart hstop
    · exact .bare (by omega) hname

theorem cutNamed_of_equals {name rest afterSign : List Char} (lead : List Char)
    (h : rest.dropWhile Text.isSpace = '=' :: afterSign) :
    cutNamed lead name rest =
      let written := cutValue (afterSign.dropWhile Text.isSpace)
      ({ lead
         text := name ++ rest.takeWhile Text.isSpace ++ '=' :: afterSign.takeWhile Text.isSpace ++
           written.1
         name := some name
         value := some written.1 }, written.2) := by
  rw [cutNamed, h]
  rfl

/-- What follows a name is cut as the shape says. -/
theorem cutNamed_drop (lead : List Char) {nameStop : Nat} (hname : i ≤ nameStop) :
    let sign := skipSpaces cs nameStop
    let shape : Shape := if cs[sign]? == some '=' then
      let valueStart := skipSpaces cs (sign + 1)
      .valued nameStop valueStart (valueEnd cs valueStart)
    else .bare nameStop
    cutNamed lead (slice cs i nameStop) (cs.toList.drop nameStop) =
      (shape.item cs lead i, cs.toList.drop (shape.stop i)) := by
  intro sign shape
  have hle : nameStop ≤ sign := le_skipSpaces cs nameStop
  have hspaces : (cs.toList.drop nameStop).takeWhile Text.isSpace = slice cs nameStop sign :=
    takeWhile_drop ..
  have hrest : (cs.toList.drop nameStop).dropWhile Text.isSpace = cs.toList.drop sign :=
    dropWhile_drop ..
  by_cases hequals : (cs[sign]? == some '=') = true
  · have hsign := beq_iff_eq.mp hequals
    have hshape : shape = .valued nameStop (skipSpaces cs (sign + 1))
        (valueEnd cs (skipSpaces cs (sign + 1))) := if_pos hequals
    have hstart := le_skipSpaces cs (sign + 1)
    obtain ⟨hstop, -⟩ :=
      valueEnd_bounds (skipSpaces_le_size (Nat.succ_le_of_lt (lt_size_of_getElem? hsign)))
    have hblanks : (cs.toList.drop (sign + 1)).takeWhile Text.isSpace =
        slice cs (sign + 1) (skipSpaces cs (sign + 1)) := takeWhile_drop ..
    have hvalue : (cs.toList.drop (sign + 1)).dropWhile Text.isSpace =
        cs.toList.drop (skipSpaces cs (sign + 1)) := dropWhile_drop ..
    rw [drop_eq_cons hsign] at hrest
    rw [cutNamed_of_equals lead hrest, hshape, hspaces]
    dsimp only
    rw [hblanks, hvalue, cutValue_drop]
    generalize skipSpaces cs (sign + 1) = valueStart at hstart hstop
    generalize valueEnd cs valueStart = stop at hstop
    have htext : slice cs i nameStop ++ slice cs nameStop sign ++
        '=' :: slice cs (sign + 1) valueStart ++ slice cs valueStart stop = slice cs i stop := by
      rw [slice_append cs hname hle, ← slice_eq_cons hsign hstart,
        slice_append cs (Nat.le_trans hname hle) (Nat.le_of_succ_le hstart),
        slice_append cs (by omega) hstop]
    rw [htext]
    rfl
  · have hshape : shape = .bare nameStop := if_neg hequals
    rw [hshape, cutNamed, hrest]
    split
    · rename_i afterSign hafter
      cases hs : cs[sign]? with
      | none =>
        rw [drop_eq_nil hs] at hafter
        cases hafter
      | some e =>
        rw [drop_eq_cons hs] at hafter
        cases hafter
        rw [hs, beq_self_eq_true] at hequals
        exact absurd rfl hequals
    · rfl

/-- An item is cut as its shape says. -/
theorem cutItem_drop (h : cs[i]? = some c) (lead : List Char) :
    cutItem lead c (cs.toList.drop (i + 1)) =
      ((shapeAt cs i c).item cs lead i, cs.toList.drop ((shapeAt cs i c).stop i)) := by
  have hdrop := drop_eq_cons h
  rw [cutItem, shapeAt]
  split
  · rw [← hdrop, cutBraced_drop]
    rfl
  · dsimp only
    cases hname : isAttributeNameChar c with
    | false =>
      have hstray : skip isAttributeNameChar cs i = i := by
        rw [skip_of_getElem? h, hname]
        rfl
      rw [if_neg Bool.false_ne_true, hstray, if_pos (beq_self_eq_true i), Shape.item,
        slice_single (s := ⟨cs, .js⟩) h]
      rfl
    | true =>
      have hnext : skip isAttributeNameChar cs (i + 1) = skip isAttributeNameChar cs i := by
        rw [skip_of_getElem? h, hname, if_pos rfl]
      have hlt := lt_skip h hname
      have htext : c :: (cs.toList.drop (i + 1)).takeWhile isAttributeNameChar =
          slice cs i (skip isAttributeNameChar cs i) := by
        rw [takeWhile_drop, hnext, slice_eq_cons h hlt]
      have hstray : ¬ (skip isAttributeNameChar cs i == i) = true := by
        rw [beq_iff_eq]
        omega
      rw [if_pos rfl, htext, dropWhile_drop, hnext, if_neg hstray]
      exact cutNamed_drop lead (Nat.le_of_lt hlt)

/-! ## Spans -/

/-- An attribute by its offsets: of the white space before it, of its first character and past its
last one. A braced item has the empty name. -/
structure AttributeSpan where
  lead : Nat
  start : Nat
  stop : Nat
  name : List Char
  value : Option (List Char)
  deriving Repr, BEq, DecidableEq

/-- The attributes from a byte offset on; a stray character is left out. -/
def spansFrom (cs : Chars) : Nat → Nat → Except Halt (List AttributeSpan)
  | 0, i => halt .exhausted i
  | fuel + 1, lead =>
    let start := skipSpaces (encode cs) lead
    match (encode cs)[start]? with
    | none => .ok []
    | some b =>
      match shapeAt (encode cs) start b with
      | .stray => spansFrom cs fuel (start + 1)
      | .braced stop => do
        let value ← cut cs start stop
        .ok ({ lead, start, stop, name := [], value := some value } :: (← spansFrom cs fuel stop))
      | .bare stop => do
        let name ← cut cs start stop
        .ok ({ lead, start, stop, name, value := none } :: (← spansFrom cs fuel stop))
      | .valued nameStop valueStart stop => do
        let name ← cut cs start nameStop
        let value ← cut cs valueStart stop
        .ok ({ lead, start, stop, name, value := some value } :: (← spansFrom cs fuel stop))

/-- The attributes of a text. Each takes at least one byte. -/
def spans (text : List Char) : Except Halt (List AttributeSpan) :=
  spansFrom text.toArray (Text.byteLength text + 1) 0

/-- The span of an item whose white space begins at a byte offset. -/
def AttributeItem.span? (i : AttributeItem) (lead : Nat) : Option AttributeSpan :=
  i.name.map fun name =>
    { lead, start := lead + Text.byteLength i.lead
      stop := lead + Text.byteLength i.lead + Text.byteLength i.text, name, value := i.value }

/-- The spans of items that stand one after another. -/
def placed (lead : Nat) : List AttributeItem → List AttributeSpan
  | [] => []
  | i :: items =>
    (i.span? lead).toList ++ placed (lead + Text.byteLength i.lead + Text.byteLength i.text) items

theorem scan_drop_of_none (h : cs[skipSpaces cs lead]? = none) :
    scan (cs.toList.drop lead) = ([], cs.toList.drop lead) := by
  refine scan_of_isSpaces fun c hc => ?_
  have hrest : (cs.toList.drop lead).dropWhile Text.isSpace = [] :=
    (dropWhile_drop ..).trans (drop_eq_nil h)
  have hall := List.all_takeWhile (p := Text.isSpace) (l := cs.toList.drop lead)
  rw [← List.takeWhile_append_dropWhile (p := Text.isSpace) (l := cs.toList.drop lead), hrest,
    List.append_nil] at hc
  exact List.all_eq_true.mp hall c hc

theorem scan_drop (h : cs[skipSpaces cs lead]? = some c) :
    let shape := shapeAt cs (skipSpaces cs lead) c
    let after := scan (cs.toList.drop (shape.stop (skipSpaces cs lead)))
    scan (cs.toList.drop lead) =
      (shape.item cs (slice cs lead (skipSpaces cs lead)) (skipSpaces cs lead) :: after.1,
        after.2) := by
  intro shape after
  have hspaces : (cs.toList.drop lead).takeWhile Text.isSpace =
      slice cs lead (skipSpaces cs lead) := takeWhile_drop ..
  have hrest : (cs.toList.drop lead).dropWhile Text.isSpace =
      c :: cs.toList.drop (skipSpaces cs lead + 1) :=
    (dropWhile_drop ..).trans (drop_eq_cons h)
  have hlead : IsSpaces (slice cs lead (skipSpaces cs lead)) := fun d hd => by
    rw [← hspaces] at hd
    exact List.all_eq_true.mp (List.all_takeWhile ..) d hd
  have hc : Text.isSpace c = false := by
    have hfirst := List.head?_dropWhile_not Text.isSpace (cs.toList.drop lead)
    rwa [hrest] at hfirst
  rw [← scan_cons hlead hc (cutItem_drop h _), ← hspaces, ← hrest,
    List.takeWhile_append_dropWhile]

theorem Shape.IsWithin.lt_stop {shape : Shape} (h : shape.IsWithin cs i) : i < shape.stop i := by
  cases h with
  | stray => exact Nat.lt_succ_self i
  | braced hlt => exact hlt
  | bare hlt => exact hlt
  | valued h₁ h₂ h₃ => exact Nat.lt_of_lt_of_le h₁ (Nat.le_trans h₂ h₃)

theorem Shape.IsWithin.stop_le_size {shape : Shape} (h : shape.IsWithin cs i) :
    shape.stop i ≤ cs.size := by
  cases h with
  | stray hi => exact hi
  | braced _ hstop => exact hstop
  | bare _ hstop => exact hstop
  | valued _ _ _ hstop => exact hstop

theorem Shape.text_item (shape : Shape) (cs : Chars) (lead : List Char) (i : Nat) :
    (shape.item cs lead i).text = slice cs i (shape.stop i) := by cases shape <;> rfl

theorem Shape.lead_item (shape : Shape) (cs : Chars) (lead : List Char) (i : Nat) :
    (shape.item cs lead i).lead = lead := by cases shape <;> rfl

/-- The spans from an item on, by the offsets at which it begins and ends. -/
theorem placed_item {shape : Shape} (hij : lead ≤ i) (h : shape.IsWithin cs i)
    (items : List AttributeItem) :
    placed (offset cs lead) (shape.item cs (slice cs lead i) i :: items) =
      ((shape.item cs (slice cs lead i) i).name.map fun name =>
        { lead := offset cs lead, start := offset cs i, stop := offset cs (shape.stop i), name
          value := (shape.item cs (slice cs lead i) i).value : AttributeSpan }).toList ++
        placed (offset cs (shape.stop i)) items := by
  have hstart := offset_slice hij (Nat.le_trans (Nat.le_of_lt h.lt_stop) h.stop_le_size)
  have hstop := offset_slice (Nat.le_of_lt h.lt_stop) h.stop_le_size
  rw [placed, AttributeItem.span?, Shape.text_item, Shape.lead_item, ← hstart, ← hstop]

/-- The spans of attribute text are those of the items it is cut into. -/
theorem spansFrom_encode {fuel : Nat} (hlead : lead ≤ cs.size) (hfuel : cs.size < fuel + lead) :
    spansFrom cs fuel (offset cs lead) =
      .ok (placed (offset cs lead) (scan (cs.toList.drop lead)).1) := by
  induction fuel generalizing lead with
  | zero => omega
  | succ fuel ih =>
    have hle := le_skipSpaces cs lead
    rw [spansFrom, skipSpaces_encode]
    cases h : cs[skipSpaces cs lead]? with
    | none =>
      rw [encode_of_none h, scan_drop_of_none h]
      rfl
    | some c =>
      have hwithin := shapeAt_isWithin h
      have hscan := scan_drop h
      have hnext {j : Nat} (hlt : skipSpaces cs lead < j) (hj : j ≤ cs.size) :=
        ih hj (show cs.size < fuel + j by omega)
      rw [encode_offset, h, Option.map_some, hscan, placed_item hle hwithin]
      dsimp only
      rw [shapeAt_encode]
      generalize shapeAt cs (skipSpaces cs lead) c = shape at hwithin
      generalize skipSpaces cs lead = start at hwithin hnext
      have hrest := hnext hwithin.lt_stop hwithin.stop_le_size
      cases hwithin with
      | stray hi hstart =>
        dsimp only [Shape.encode, Shape.stop] at hrest ⊢
        rw [← hstart, hrest]
        rfl
      | braced hlt hstop =>
        dsimp only [Shape.encode, Shape.stop] at hrest ⊢
        rw [cut_offset (Nat.le_of_lt hlt) hstop, ok_bind, hrest, ok_bind]
        rfl
      | bare hlt hstop =>
        dsimp only [Shape.encode, Shape.stop] at hrest ⊢
        rw [cut_offset (Nat.le_of_lt hlt) hstop, ok_bind, hrest, ok_bind]
        rfl
      | valued hname hvalue hstart hstop =>
        dsimp only [Shape.encode, Shape.stop] at hrest ⊢
        rw [cut_offset (Nat.le_of_lt hname) (by omega), ok_bind,
          cut_offset hstart hstop, ok_bind, hrest, ok_bind]
        rfl

theorem spans_eq (text : List Char) : spans text = .ok (placed 0 (scan text).1) := by
  have hzero := offset_zero text.toArray
  have hlength := le_offset text.toArray text.length
  rw [offset_length] at hlength
  have h : spansFrom text.toArray (Text.byteLength text + 1) (offset text.toArray 0) =
      .ok (placed (offset text.toArray 0) (scan (text.toArray.toList.drop 0)).1) :=
    spansFrom_encode (Nat.zero_le _) (by rw [List.size_toArray]; omega)
  rwa [hzero] at h

theorem join_scan_drop (cs : Chars) (hlead : lead ≤ cs.size) :
    AttributeItem.join (scan (cs.toList.drop lead)).1 ++ (scan (cs.toList.drop lead)).2 =
      cs.toList.drop lead := by
  induction hn : cs.size - lead using Nat.strongRecOn generalizing lead with
  | ind n ih =>
    have hle := le_skipSpaces cs lead
    cases h : cs[skipSpaces cs lead]? with
    | none =>
      rw [scan_drop_of_none h]
      rfl
    | some c =>
      have hwithin := shapeAt_isWithin h
      have hscan := scan_drop h
      generalize shapeAt cs (skipSpaces cs lead) c = shape at hwithin hscan
      generalize skipSpaces cs lead = start at hle hwithin hscan
      have hlt := hwithin.lt_stop
      have hstop := hwithin.stop_le_size
      have hrest := ih (cs.size - shape.stop start) (by omega) hstop rfl
      rw [hscan]
      dsimp only
      rw [AttributeItem.join, List.flatMap_cons, ← AttributeItem.join, Shape.lead_item,
        Shape.text_item, List.append_assoc, hrest, slice_append cs hle (Nat.le_of_lt hlt)]
      exact slice_append_tail ⟨cs, .js⟩ (Nat.le_trans hle (Nat.le_of_lt hlt))

/-- The items of a text and the white space after them are the text. -/
theorem join_scan (text : List Char) :
    AttributeItem.join (scan text).1 ++ (scan text).2 = text :=
  join_scan_drop text.toArray (Nat.zero_le _)

end Source
end Restyle
