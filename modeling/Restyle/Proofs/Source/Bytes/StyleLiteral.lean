import Restyle.Proofs.Source.Bytes.Attributes
import Restyle.Proofs.Source.Repatch

/-!
# Restyle.Proofs.Source.Bytes.StyleLiteral

The `style` attribute rewritten on the bytes of the attributes. The pieces of the object literal, the
value behind the colon of an entry and what stays around the attribute are cut out at byte offsets.
Every cut succeeds, and what is written is what rewriting writes character by character
(`rewriteAttributes_eq`).
-/

namespace Restyle
namespace Source

open Scan Utf8

namespace Encoded

variable {cs : Chars} {n : Nesting} {i : Nat} {mark : Char}

/-! ## The literal -/

/-- The pieces between marks outside strings and brackets, from the bytes of a text. -/
def piecesFrom (cs : Chars) (mark : Char) : Nat → Nesting → Nat → Except Halt (List (List Char))
  | 0, _, start => halt .exhausted start
  | fuel + 1, n, start =>
    match (NestedSearch.marks mark).find? (encode cs) n start with
    | none => do
      let piece ← cut cs (min start (encode cs).size) (encode cs).size
      .ok [piece]
    | some found => do
      let piece ← cut cs start found.1
      .ok (piece :: (← piecesFrom cs mark fuel found.2 (found.1 + 1)))

def pieces (text : List Char) (mark : Char) : Except Halt (List (List Char)) :=
  piecesFrom text.toArray mark (Text.byteLength text + 1) {} 0

/-- Reads an entry from its trimmed text. -/
def parseEntry (text : List Char) : Except Halt (Except StyleFault Entry) := do
  match ← pieces text ':' with
  | rawKey :: _ :: _ =>
    let key := (unquote? (trimmed rawKey)).getD (String.ofList (trimmed rawKey))
    if key.isEmpty then .ok (.error .emptyKey)
    else do
      let value ← cutFrom text (Text.byteLength rawKey + 1)
      match unquote? (trimmed value) with
      | some value => .ok (.ok (.quoted key value (some (String.ofList text))))
      | none => .ok (.ok (.raw (some key) (String.ofList text)))
  | _ => .ok (.ok (.raw none (String.ofList text)))

/-- Reads entries up to the first that has no key. -/
def parseEntries : List (List Char) → Except Halt (Except StyleFault (List Entry))
  | [] => .ok (.ok [])
  | text :: rest => do
    match ← parseEntry text with
    | .error fault => .ok (.error fault)
    | .ok entry => .ok ((← parseEntries rest).map (entry :: ·))

def parseStyleValue (value : List Char) : Except Halt (Except StyleFault (List Entry)) :=
  match unbrace? value with
  | none => .ok (.error (.notLiteral (String.ofList value)))
  | some inside =>
    let expression := trimmed inside
    match unbrace? expression with
    | none => .ok (.error (.notLiteral (String.ofList expression)))
    | some body => do
      let texts ← pieces body ','
      parseEntries ((texts.map trimmed).filter (!·.isEmpty))

/-- The entries of the attribute at a span. -/
def entriesAt (span : AttributeSpan) : Except Halt (Except StyleFault (List Entry)) :=
  match span.value with
  | some value => parseStyleValue value
  | none => .ok (.ok [])

/-- Is this the span of the `style` attribute? -/
def isStyleSpan (span : AttributeSpan) : Bool := span.name == "style".toList

/-- Rewrites the attributes of a tag: around the first span with the name `style`, or behind them. -/
def rewriteAttributes (attributes : List Char) (edits : Styles) :
    Except Halt (Except StyleFault (List Char)) := do
  match (← spans attributes).find? isStyleSpan with
  | some span =>
    match ← entriesAt span with
    | .error fault => .ok (.error fault)
    | .ok entries =>
      let rest ← cutFrom attributes span.stop
      match Entry.merge entries edits with
      | [] => .ok (.ok ((← cut attributes.toArray 0 span.lead) ++ rest))
      | entries =>
        .ok (.ok ((← cut attributes.toArray 0 span.start) ++ styleAttribute entries ++ rest))
  | none =>
    match Entry.merge [] edits with
    | [] => .ok (.ok attributes)
    | entries =>
      let kept := Text.trimEndBy Text.isBlank attributes
      let rest ← cutFrom attributes (Text.byteLength kept)
      .ok (.ok (kept ++ ' ' :: styleAttribute entries ++ rest))

/-! ## Pieces -/

theorem piecesFrom_encode {fuel : Nat} (hmark : IsAscii mark) (hn : n.IsSteady) (hi : i ≤ cs.size)
    (hfuel : cs.size < fuel + i) :
    piecesFrom cs mark fuel n (offset cs i) = .ok (splitPieces mark n (cs.toList.drop i)) := by
  have hr := NestedSearch.isRegular_marks hmark
  induction fuel generalizing n i with
  | zero => omega
  | succ fuel ih =>
    rw [piecesFrom, NestedSearch.find?_encode hr hn, NestedSearch.splitPieces_eq,
      NestedSearch.cutAt?_drop hr hn]
    cases hfound : (NestedSearch.marks mark).find? cs n i with
    | none =>
      rw [Option.map_none, Option.map_none, Option.map_none, Option.getD_none]
      dsimp only
      rw [cut_rest hi, ok_bind, slice_to_size]
    | some found =>
      obtain ⟨hle, hsteady, c, hc, hstops⟩ := NestedSearch.find?_spec hr hn hfound
      have hlt := lt_size_of_getElem? hc
      have hascii : IsAscii c := Decidable.of_not_not fun h => by
        rw [hr.not_stops h] at hstops
        cases hstops
      have hrest := ih hsteady hlt (by omega)
      rw [offset_succ_of_isAscii hc hascii] at hrest
      rw [Option.map_some, Option.map_some, Option.map_some, Option.getD_some]
      dsimp only [Prod.map_apply, Prod.map_fst, Prod.map_snd, id_eq]
      rw [cut_offset hle (Nat.le_of_lt hlt), ok_bind, hrest, ok_bind]

theorem pieces_eq (hmark : IsAscii mark) (text : List Char) :
    pieces text mark = .ok (splitPieces mark {} text) := by
  have hzero := offset_zero text.toArray
  have hlength := le_offset text.toArray text.length
  rw [offset_length] at hlength
  have h : piecesFrom text.toArray mark (Text.byteLength text + 1) {} (offset text.toArray 0) =
      .ok (splitPieces mark {} (text.toArray.toList.drop 0)) :=
    piecesFrom_encode hmark Nesting.isSteady_start (Nat.zero_le _) (by rw [List.size_toArray]; omega)
  rwa [hzero] at h

/-- The first of several pieces ends at a mark. -/
theorem exists_mark_of_splitPieces {text first second : List Char} {pieces : List (List Char)}
    (hmark : IsAscii mark) (h : splitPieces mark {} text = first :: second :: pieces) :
    ∃ j, text.toArray[j]? = some mark ∧ first = text.take j := by
  have hr := NestedSearch.isRegular_marks hmark
  have hcut := NestedSearch.cutAt?_drop hr Nesting.isSteady_start text.toArray 0
  rw [List.toList_toArray, List.drop_zero] at hcut
  rw [NestedSearch.splitPieces_eq, hcut] at h
  cases hfound : (NestedSearch.marks mark).find? text.toArray {} 0 with
  | none =>
    rw [hfound] at h
    cases h
  | some found =>
    obtain ⟨-, -, c, hc, hstops⟩ := NestedSearch.find?_spec hr Nesting.isSteady_start hfound
    simp only [NestedSearch.marks, Bool.and_eq_true, beq_iff_eq] at hstops
    obtain ⟨-, rfl⟩ := hstops
    rw [hfound] at h
    obtain ⟨rfl, -⟩ := List.cons.inj h
    refine ⟨found.1, hc, ?_⟩
    dsimp only
    rw [slice_eq]
    rfl

/-! ## Entries -/

theorem parseEntry_eq (text : List Char) : parseEntry text = .ok (Entry.parse text) := by
  rw [parseEntry, pieces_eq (by decide), ok_bind, Entry.parse]
  cases hpieces : splitPieces ':' {} text with
  | nil => rfl
  | cons rawKey rest =>
    cases rest with
    | nil => rfl
    | cons second rest =>
      obtain ⟨j, hj, rfl⟩ := exists_mark_of_splitPieces (by decide) hpieces
      have hlt : j < text.length := lt_size_of_getElem? hj
      have hlength : (text.take j).length = j := List.length_take_of_le (Nat.le_of_lt hlt)
      have hoffset : Text.byteLength (text.take j) + 1 = offset text.toArray (j + 1) := by
        rw [offset_succ_of_isAscii hj (by decide), offset, List.size_toArray,
          Nat.sub_eq_zero_of_le (Nat.le_of_lt hlt)]
      dsimp only
      rw [hlength, hoffset, cutFrom_offset hlt, ok_bind]
      split
      · rfl
      · cases unquote? (trimmed (text.drop (j + 1))) <;> rfl

theorem parseEntries_eq (texts : List (List Char)) :
    parseEntries texts = .ok (texts.mapM Entry.parse) := by
  induction texts with
  | nil => rfl
  | cons text rest ih =>
    rw [parseEntries, parseEntry_eq, ok_bind, List.mapM_cons, ih]
    cases Entry.parse text with
    | error fault => rfl
    | ok entry => cases rest.mapM Entry.parse <;> rfl

theorem parseStyleValue_eq (value : List Char) :
    parseStyleValue value = .ok (Source.parseStyleValue value) := by
  rw [parseStyleValue, Source.parseStyleValue]
  cases unbrace? value with
  | none => rfl
  | some inside =>
    dsimp only
    cases unbrace? (trimmed inside) with
    | none => rfl
    | some body =>
      dsimp only
      rw [pieces_eq (by decide), ok_bind, parseEntries_eq]

/-! ## The attribute -/

theorem offset_append (as bs : List Char) :
    offset (as ++ bs).toArray as.length = Text.byteLength as := by
  rw [offset, List.toList_toArray, List.take_left, List.size_toArray, List.length_append]
  omega

theorem cut_append (as bs : List Char) :
    cut (as ++ bs).toArray 0 (Text.byteLength as) = .ok as := by
  have hsize : as.length ≤ (as ++ bs).toArray.size := by simp
  have hcut := cut_offset (Nat.zero_le as.length) hsize
  rw [offset_zero, offset_append, slice_eq] at hcut
  simpa using hcut

theorem cutFrom_append (as bs : List Char) :
    cutFrom (as ++ bs) (Text.byteLength as) = .ok bs := by
  rw [← offset_append as bs, cutFrom_offset (by simp), List.drop_left]

theorem find?_span? (i : AttributeItem) (lead : Nat) :
    (i.span? lead).toList.find? isStyleSpan =
      if i.isStyle then i.span? lead else none := by
  rw [AttributeItem.span?, AttributeItem.isStyle]
  cases i.name with
  | none => rfl
  | some name =>
    rw [Option.map_some, Option.toList_some, Option.some_beq_some, List.find?_singleton]
    rfl

theorem find?_placed_of_forall {items : List AttributeItem} (lead : Nat)
    (h : ∀ i ∈ items, i.isStyle = false) : (placed lead items).find? isStyleSpan = none := by
  induction items generalizing lead with
  | nil => rfl
  | cons i items ih =>
    obtain ⟨hi, hitems⟩ := List.forall_mem_cons.mp h
    rw [placed, List.find?_append, find?_span?, hi, ih _ hitems]
    rfl

/-- The `style` attribute stands where the attributes before it end. -/
theorem find?_placed {earlier later : List AttributeItem} {item : AttributeItem} (lead : Nat)
    (hearlier : ∀ i ∈ earlier, i.isStyle = false) (hitem : item.isStyle = true) :
    (placed lead (earlier ++ item :: later)).find? isStyleSpan =
      item.span? (lead + Text.byteLength (AttributeItem.join earlier)) := by
  induction earlier generalizing lead with
  | nil =>
    have hname : item.name = some "style".toList := beq_iff_eq.mp hitem
    have hnil : Text.byteLength (AttributeItem.join []) = 0 := rfl
    rw [List.nil_append, placed, List.find?_append, find?_span?, hitem, if_pos rfl, hnil,
      Nat.add_zero, AttributeItem.span?, hname]
    rfl
  | cons i earlier ih =>
    obtain ⟨hi, hearlier⟩ := List.forall_mem_cons.mp hearlier
    have hjoin : AttributeItem.join (i :: earlier) =
        i.lead ++ (i.text ++ AttributeItem.join earlier) := by
      rw [AttributeItem.join, List.flatMap_cons, List.append_assoc]
      rfl
    rw [List.cons_append, placed, List.find?_append, find?_span?, hi, ih _ hearlier, hjoin,
      Text.byteLength_append, Text.byteLength_append]
    simp only [Bool.false_eq_true, if_false, Option.none_or, Nat.add_assoc]

theorem entriesAt_eq (value : Option (List Char)) (lead start stop : Nat) (name : List Char) :
    entriesAt { lead, start, stop, name, value } =
      .ok ((value.map Source.parseStyleValue).getD (.ok [])) := by
  cases value with
  | none => rfl
  | some value => exact parseStyleValue_eq value

/-- Rewriting the attributes of a tag byte by byte never halts at a cut, and writes what rewriting
them character by character writes. -/
theorem rewriteAttributes_eq (attributes : List Char) (edits : Styles) :
    rewriteAttributes attributes edits = .ok (Source.rewriteAttributes attributes edits) := by
  have htext := join_scan attributes
  rw [rewriteAttributes, spans_eq, ok_bind, Source.rewriteAttributes]
  generalize scan attributes = scanned at htext
  obtain ⟨items, trailing⟩ := scanned
  dsimp only at htext ⊢
  obtain hnone | ⟨earlier, item, later, rfl, hearlier, hitem, -⟩ := exists_split_style items
  · have hdrop : (items ++ []).dropWhile (!AttributeItem.isStyle ·) = [] :=
      List.dropWhile_append_of_pos fun i hi => by rw [hnone i hi]; rfl
    rw [List.append_nil] at hdrop
    rw [find?_placed_of_forall 0 hnone, hdrop]
    dsimp only
    cases Entry.merge [] edits with
    | nil => rfl
    | cons e es =>
      obtain ⟨blanks, -, hblanks⟩ := exists_trimEndBy Text.isBlank attributes
      dsimp only
      generalize Text.trimEndBy Text.isBlank attributes = kept at hblanks
      rw [hblanks, cutFrom_append, ok_bind, List.drop_left]
  · have hpos : ∀ i ∈ earlier, (!AttributeItem.isStyle i) = true := fun i hi => by
      rw [hearlier i hi]
      rfl
    have hdrop : (earlier ++ item :: later).dropWhile (!AttributeItem.isStyle ·) =
        item :: later := by
      rw [List.dropWhile_append_of_pos hpos, List.dropWhile_cons_of_neg (by rw [hitem]; decide)]
    have htake : (earlier ++ item :: later).takeWhile (!AttributeItem.isStyle ·) = earlier := by
      rw [List.takeWhile_append_of_pos hpos, List.takeWhile_cons_of_neg (by rw [hitem]; decide),
        List.append_nil]
    have hname : item.name = some "style".toList := beq_iff_eq.mp hitem
    have hjoin : attributes = AttributeItem.join earlier ++ (item.lead ++ (item.text ++
        (AttributeItem.join later ++ trailing))) := by
      rw [← htext]
      simp [AttributeItem.join]
    rw [find?_placed 0 hearlier hitem, AttributeItem.span?, hname, Option.map_some, hdrop, htake]
    dsimp only
    rw [entriesAt_eq, ok_bind]
    cases (item.value.map Source.parseStyleValue).getD (.ok []) with
    | error fault => rfl
    | ok entries =>
      have hbefore := cut_append (AttributeItem.join earlier)
        (item.lead ++ (item.text ++ (AttributeItem.join later ++ trailing)))
      have hlead := cut_append (AttributeItem.join earlier ++ item.lead)
        (item.text ++ (AttributeItem.join later ++ trailing))
      have hrest := cutFrom_append (AttributeItem.join earlier ++ (item.lead ++ item.text))
        (AttributeItem.join later ++ trailing)
      simp only [List.append_assoc, Text.byteLength_append] at hlead hrest
      dsimp only
      rw [Nat.zero_add, hjoin, Nat.add_assoc, hrest, ok_bind]
      cases Entry.merge entries edits with
      | nil =>
        dsimp only
        rw [hbefore, ok_bind]
      | cons e es =>
        dsimp only
        rw [hlead, ok_bind, List.append_assoc]

end Encoded
end Source
end Restyle
