import Restyle.Proofs.Source.Bytes.StyleLiteral

/-!
# Restyle.Proofs.Source.Bytes.PassedOver

What the searches of the patcher pass over: written values, whatever is in them, and groups in braces.

A value is written between quotation marks, with a backslash before what would end it. All searches
come out behind it as they went in, from every place outside strings, and the entry that it stands in
is read as it was (`written_value_read_back`). A group in braces is passed over by the search for the
end of a tag just where the reader of attributes cuts it (`tagEnd_behind_group`).

Both are shown on the text that is cut, and carried over to its bytes.
-/

namespace Restyle
namespace Source

open Scan Utf8

variable {r : NestedSearch} {bs cs : Chars} {n n' : Nesting} {i j d : Nat} {q text rest : List Char}

namespace NestedSearch

/-- More text before the place that a search has found. -/
def ahead (q : List Char) (found : List Char × Nesting × List Char) :
    List Char × Nesting × List Char := (q ++ found.1, found.2)

theorem map_ahead_append (p q : List Char) (found : Option (List Char × Nesting × List Char)) :
    (found.map (ahead q)).map (ahead p) = found.map (ahead (p ++ q)) := by
  rw [Option.map_map]
  congr 1
  funext f
  rw [Function.comp_apply, ahead, ahead, ahead, List.append_assoc]

theorem cutAt?_cons {c : Char} (h : r.stops n c = false) (text : List Char) :
    r.cutAt? n (c :: text) = (r.cutAt? (r.step n c) text).map (ahead [c]) := by
  rw [cutAt?, if_neg (by rw [h]; exact Bool.false_ne_true)]
  rfl

/-- Searches that cut off the same text end at the same place. -/
theorem find?_eq_of_cutAt? (hr : r.IsRegular) (hn : n.IsSteady) (hn' : n'.IsSteady)
    (hq : i + q.length = j)
    (h : r.cutAt? n (cs.toList.drop i) = (r.cutAt? n' (cs.toList.drop j)).map (ahead q)) :
    r.find? cs n i = r.find? cs n' j := by
  have hplace : ∀ {m : Nesting} {k : Nat} {found : Nat × Nesting}, m.IsSteady →
      r.find? cs m k = some found → k ≤ found.1 ∧ (slice cs k found.1).length = found.1 - k := by
    intro m k found hm hfound
    obtain ⟨hle, -, c, hc, -⟩ := find?_spec hr hm hfound
    have hlt := lt_size_of_getElem? hc
    refine ⟨hle, ?_⟩
    rw [slice_eq, List.length_take, List.length_drop, Array.length_toList]
    omega
  rw [cutAt?_drop hr hn, cutAt?_drop hr hn'] at h
  cases hfound : r.find? cs n i with
  | none =>
    rw [hfound] at h
    cases hfound' : r.find? cs n' j with
    | none => rfl
    | some found' =>
      rw [hfound'] at h
      cases h
  | some found =>
    cases hfound' : r.find? cs n' j with
    | none =>
      rw [hfound, hfound'] at h
      cases h
    | some found' =>
      obtain ⟨hle, hlength⟩ := hplace hn hfound
      obtain ⟨hle', hlength'⟩ := hplace hn' hfound'
      rw [hfound, hfound', Option.map_some, Option.map_some, Option.map_some, Option.some.injEq,
        ahead, Prod.mk.injEq, Prod.mk.injEq] at h
      obtain ⟨hslice, hnesting, -⟩ := h
      have hlengths := congrArg List.length hslice
      rw [List.length_append, hlength, hlength'] at hlengths
      have hplaces : found.1 = found'.1 := by omega
      exact congrArg some (Prod.ext hplaces hnesting)

/-! ## Written values -/

/-- The search reads strings in double quotation marks as they are written, at a depth. -/
structure ReadsStrings (r : NestedSearch) (d : Nat) : Prop where
  opens : r.stops { depth := d } '"' = false ∧ r.step { depth := d } '"' = { quote := some '"', depth := d }
  inside : ∀ (e : Bool) (c : Char), r.stops { quote := some '"', escaped := e, depth := d } c = false ∧
    r.step { quote := some '"', escaped := e, depth := d } c =
      Nesting.inString { quote := some '"', escaped := e, depth := d } '"' c

theorem readsStrings_braceEnd (d : Nat) : braceEnd.ReadsStrings d where
  opens := ⟨rfl, rfl⟩
  inside _ _ := ⟨rfl, rfl⟩

theorem readsStrings_marks {mark : Char} (hmark : mark ≠ '"') (d : Nat) :
    (marks mark).ReadsStrings d where
  opens := by
    refine ⟨?_, rfl⟩
    simp only [marks, beq_eq_false_iff_ne.mpr hmark.symm, Bool.and_false]
  inside _ _ := ⟨rfl, rfl⟩

/-- Backslashes mean something to the search for the end of a tag inside braces only. -/
theorem readsStrings_tagEnd (d : Nat) : tagEnd.ReadsStrings (d + 1) where
  opens := ⟨rfl, rfl⟩
  inside e c := by
    refine ⟨rfl, ?_⟩
    simp only [tagEnd, Nesting.tag, Nat.zero_lt_succ, if_true]

/-- A character of a value is passed over, with the backslash before it if there is one. -/
theorem ReadsStrings.cutAt?_escape_single (hr : r.ReadsStrings d) (c : Char) (rest : List Char) :
    r.cutAt? { quote := some '"', depth := d } (escape [c] ++ rest) =
      (r.cutAt? { quote := some '"', depth := d } rest).map (ahead (escape [c])) := by
  obtain ⟨e, he, -⟩ | ⟨hc, hquote, hslash⟩ := escape_single c
  · rw [he, List.cons_append, List.singleton_append, cutAt?_cons (hr.inside false '\\').1,
      (hr.inside false '\\').2]
    have hescaped : Nesting.inString { quote := some '"', depth := d } '"' '\\' =
        { quote := some '"', escaped := true, depth := d } := rfl
    rw [hescaped, cutAt?_cons (hr.inside true e).1, (hr.inside true e).2, map_ahead_append]
    rfl
  · have hstays : Nesting.inString { quote := some '"', depth := d } '"' c =
        { quote := some '"', depth := d } := by
      simp [Nesting.inString, hquote, hslash]
    rw [hc, List.singleton_append, cutAt?_cons (hr.inside false c).1, (hr.inside false c).2, hstays]

theorem ReadsStrings.cutAt?_escape (hr : r.ReadsStrings d) (v rest : List Char) :
    r.cutAt? { quote := some '"', depth := d } (escape v ++ rest) =
      (r.cutAt? { quote := some '"', depth := d } rest).map (ahead (escape v)) := by
  induction v with
  | nil =>
    have hid : ahead (escape []) = id := rfl
    rw [hid, Option.map_id_fun]
    rfl
  | cons c v ih =>
    rw [escape_cons, List.append_assoc, hr.cutAt?_escape_single, ih, map_ahead_append]

end NestedSearch

/-- A value as it is written. -/
def quotedText (v : String) : List Char := '"' :: (escape v.toList ++ ['"'])

namespace NestedSearch

/-- **A written value is passed over**, whatever is in it. -/
theorem ReadsStrings.cutAt?_quotedText (hr : r.ReadsStrings d) (v : String) (rest : List Char) :
    r.cutAt? { depth := d } (quotedText v ++ rest) =
      (r.cutAt? { depth := d } rest).map (ahead (quotedText v)) := by
  have hcloses : r.cutAt? { quote := some '"', depth := d } ('"' :: rest) =
      (r.cutAt? { depth := d } rest).map (ahead ['"']) := by
    rw [cutAt?_cons (hr.inside false '"').1, (hr.inside false '"').2]
    rfl
  rw [quotedText, List.cons_append, List.append_assoc, List.singleton_append,
    cutAt?_cons hr.opens.1, hr.opens.2, hr.cutAt?_escape, hcloses, map_ahead_append,
    map_ahead_append]
  rfl

theorem isSteady_depth (d : Nat) : Nesting.IsSteady { depth := d } := ⟨rfl, fun _ h => by cases h⟩

/-- On the bytes of a text the search goes on behind a written value as it would from there. -/
theorem ReadsStrings.find?_quotedText (hr : r.IsRegular) (hs : r.ReadsStrings d) (front : List Char)
    (v : String) (rest : List Char) :
    r.find? (encode (front ++ (quotedText v ++ rest)).toArray) { depth := d } (Text.byteLength front) =
      r.find? (encode (front ++ (quotedText v ++ rest)).toArray) { depth := d }
        (Text.byteLength (front ++ quotedText v)) := by
  have hn := isSteady_depth d
  have hfront := Encoded.offset_append front (quotedText v ++ rest)
  have hbehind := Encoded.offset_append (front ++ quotedText v) rest
  rw [List.append_assoc] at hbehind
  rw [← hfront, ← hbehind, find?_encode hr hn, find?_encode hr hn]
  congr 1
  refine find?_eq_of_cutAt? hr hn hn List.length_append.symm ?_
  rw [List.toList_toArray, List.drop_left, ← List.append_assoc, List.drop_left]
  exact hs.cutAt?_quotedText v rest

end NestedSearch

theorem splitPieces_quotedText {mark : Char} (hmark : mark ≠ '"') (d : Nat) (v : String)
    (rest : List Char) :
    splitPieces mark { depth := d } (quotedText v ++ rest) =
      beforeFirst (quotedText v) (splitPieces mark { depth := d } rest) := by
  rw [NestedSearch.splitPieces_eq, NestedSearch.splitPieces_eq mark _ rest,
    (NestedSearch.readsStrings_marks hmark d).cutAt?_quotedText]
  cases (NestedSearch.marks mark).cutAt? { depth := d } rest <;> rfl

theorem cutBraced_quotedText (d : Nat) (v : String) (rest : List Char) :
    cutBraced { depth := d } (quotedText v ++ rest) =
      before (quotedText v) (cutBraced { depth := d } rest) := by
  rw [NestedSearch.cutBraced_eq, NestedSearch.cutBraced_eq _ rest,
    (NestedSearch.readsStrings_braceEnd d).cutAt?_quotedText]
  cases NestedSearch.braceEnd.cutAt? { depth := d } rest with
  | none => rfl
  | some found => simp [NestedSearch.ahead, before]

theorem cutTagEnd_quotedText (d : Nat) (v : String) (rest : List Char) :
    cutTagEnd { depth := d + 1 } (quotedText v ++ rest) =
      (cutTagEnd { depth := d + 1 } rest).map (before (quotedText v)) := by
  rw [NestedSearch.cutTagEnd_eq, NestedSearch.cutTagEnd_eq _ rest,
    (NestedSearch.readsStrings_tagEnd d).cutAt?_quotedText]
  cases NestedSearch.tagEnd.cutAt? { depth := d + 1 } rest <;> rfl

/-- **A written value is read back**, and it is passed over where it stands. The text of an entry is
read as its key and its value; from every place outside strings the readers of style objects, of groups
in braces and of tags come out behind the value as they went in, on the text and on its bytes; and
among other entries in the braces of a `style` attribute it is found again. -/
theorem written_value_read_back (p : Property) (v : String) :
    (Entry.edited p v).text.toList = p.key.toList ++ ':' :: ' ' :: quotedText v ∧
    Entry.parse (Entry.edited p v).text.toList =
      .ok (.quoted p.key v (some (Entry.edited p v).text)) ∧
    (∀ (d : Nat) (rest : List Char),
      (∀ mark ∈ [',', ':'], splitPieces mark { depth := d } (quotedText v ++ rest) =
        beforeFirst (quotedText v) (splitPieces mark { depth := d } rest)) ∧
      cutBraced { depth := d } (quotedText v ++ rest) =
        before (quotedText v) (cutBraced { depth := d } rest) ∧
      cutTagEnd { depth := d + 1 } (quotedText v ++ rest) =
        (cutTagEnd { depth := d + 1 } rest).map (before (quotedText v))) ∧
    (∀ (d : Nat) (front rest : List Char),
      let bs := encode (front ++ (quotedText v ++ rest)).toArray
      let start := Text.byteLength front
      let stop := Text.byteLength (front ++ quotedText v)
      (∀ mark ∈ [',', ':'], (NestedSearch.marks mark).find? bs { depth := d } start =
        (NestedSearch.marks mark).find? bs { depth := d } stop) ∧
      NestedSearch.braceEnd.find? bs { depth := d } start =
        NestedSearch.braceEnd.find? bs { depth := d } stop ∧
      NestedSearch.tagEnd.find? bs { depth := d + 1 } start =
        NestedSearch.tagEnd.find? bs { depth := d + 1 } stop) ∧
    ∀ earlier later : List Entry, (∀ e ∈ earlier ++ later, e.IsWritten) →
      let value := inBraces (literal (earlier ++ Entry.edited p v :: later))
      parseStyleValue value = .ok (earlier.map Entry.settled ++
        .quoted p.key v (some (Entry.edited p v).text) :: later.map Entry.settled) ∧
      ∀ rest, cutBraced {} (value ++ rest) = (value, rest) ∧
        cutTagEnd {} (value ++ rest) = (cutTagEnd {} rest).map (before value) := by
  have hmarks : ∀ mark ∈ [',', ':'], mark ≠ '"' ∧ IsAscii mark := by
    intro mark hmark
    rw [List.mem_cons, List.mem_singleton] at hmark
    obtain rfl | rfl := hmark
    · exact ⟨by decide, by decide⟩
    · exact ⟨by decide, by decide⟩
  refine ⟨?_, (Entry.isWritten_edited p v).parse, fun d rest => ⟨fun mark hmark => ?_, ?_, ?_⟩,
    fun d front rest => ⟨fun mark hmark => ?_, ?_, ?_⟩, fun earlier later hothers => ?_⟩
  · simp [Entry.edited, Entry.text, quotedText]
  · exact splitPieces_quotedText (hmarks mark hmark).1 d v rest
  · exact cutBraced_quotedText d v rest
  · exact cutTagEnd_quotedText d v rest
  · obtain ⟨hne, hascii⟩ := hmarks mark hmark
    exact (NestedSearch.readsStrings_marks hne d).find?_quotedText
      (NestedSearch.isRegular_marks hascii) front v rest
  · exact (NestedSearch.readsStrings_braceEnd d).find?_quotedText
      NestedSearch.isRegular_braceEnd front v rest
  · exact (NestedSearch.readsStrings_tagEnd d).find?_quotedText
      NestedSearch.isRegular_tagEnd front v rest
  · have hall : ∀ e ∈ earlier ++ Entry.edited p v :: later, e.IsWritten := by
      intro e he
      rw [List.mem_append, List.mem_cons] at he
      obtain he | rfl | he := he
      · exact hothers e (List.mem_append_left later he)
      · exact Entry.isWritten_edited p v
      · exact hothers e (List.mem_append_right earlier he)
    have hnested := nested_literal hall
    refine ⟨?_, fun rest => ⟨cutBraced_nested hnested rest, cutTagEnd_nested hnested rest⟩⟩
    rw [parseStyleValue_literal hall, List.map_append, List.map_cons]
    rfl

theorem written_value_read_back_between :
    (∀ e ∈ [Entry.raw (some "margin") "margin: f(1, '\x7d')"] ++ [Entry.edited .fontSize "1px"],
      e.IsWritten) ∧
    parseStyleValue "\x7b\x7b margin: f(1, '\x7d'), padding: \"a\\\"\x7d, b: \\\\\", fontSize: \"1px\" \x7d\x7d".toList =
      .ok [.raw (some "margin") "margin: f(1, '\x7d')",
        .quoted "padding" "a\"\x7d, b: \\" (some "padding: \"a\\\"\x7d, b: \\\\\""),
        .quoted "fontSize" "1px" (some "fontSize: \"1px\"")] := by
  have hothers : ∀ e ∈ [Entry.raw (some "margin") "margin: f(1, '\x7d')"] ++
      [Entry.edited .fontSize "1px"], e.IsWritten := by
    intro e he
    rw [List.singleton_append, List.mem_cons, List.mem_singleton] at he
    obtain rfl | rfl := he
    · exact ⟨⟨by decide, by decide, by decide⟩, eq_ok_of_toOption (by decide)⟩
    · exact Entry.isWritten_edited _ _
  have hread := ((written_value_read_back .padding "a\"\x7d, b: \\").2.2.2.2 _ _ hothers).1
  exact ⟨hothers, hread⟩

/-! ## Groups in braces -/

/-- The group in braces that begins a text, and the text behind it, if the group is closed. -/
def closedGroup? (text : List Char) : Option (List Char × List Char) :=
  (NestedSearch.braceEnd.cutAt? {} text).map fun found => (found.1 ++ ['}'], found.2.2)

/-- Inside braces, and with no backslash waiting outside a string. -/
structure Nesting.IsInside (n : Nesting) : Prop where
  depth : 0 < n.depth
  escaped : n.quote = none → n.escaped = false

theorem Nesting.IsInside.inString {mark : Char} (hn : n.IsInside) (hquote : n.quote = some mark)
    (c : Char) : (n.inString mark c).IsInside := by
  cases hescaped : n.escaped with
  | true =>
    rw [Nesting.inString, if_pos hescaped]
    exact ⟨hn.depth, fun _ => rfl⟩
  | false =>
    obtain hcase | hcase | hcase := Nesting.inString_cases hescaped mark c
    · rw [hcase]
      exact ⟨hn.depth, fun hnone => by cases hquote.symm.trans hnone⟩
    · rw [hcase]
      exact ⟨hn.depth, fun _ => hescaped⟩
    · rw [hcase]
      exact hn

namespace NestedSearch

/-- Inside braces a character ends no tag, and none but the brace that ends the group leads out. -/
theorem isInside_step {c : Char} (hn : n.IsInside) (hgo : braceEnd.stops n c = false) :
    tagEnd.stops n c = false ∧ tagEnd.step n c = braceEnd.step n c ∧ (braceEnd.step n c).IsInside := by
  have hdepth := hn.depth
  refine ⟨?_, Nesting.tag_eq_brace hdepth c, ?_⟩
  · simp only [tagEnd, Nesting.isTop, beq_eq_false_iff_ne.mpr (Nat.pos_iff_ne_zero.mp hdepth),
      Bool.and_false, Bool.false_and]
  · show (n.brace c).IsInside
    unfold Nesting.brace
    cases hquote : n.quote with
    | some mark => exact hn.inString hquote c
    | none =>
      have hescaped := hn.escaped hquote
      have hdeep : c = '}' → 1 < n.depth := by
        rintro rfl
        simp only [braceEnd, hquote, Option.isNone_none, beq_self_eq_true, Bool.and_self,
          Bool.true_and, decide_eq_false_iff_not, Nat.not_le] at hgo
        exact hgo
      dsimp only
      split
      · exact ⟨hdepth, fun h => by cases h⟩
      split
      · exact ⟨Nat.succ_pos _, fun _ => hescaped⟩
      split
      · rename_i hc
        have := hdeep (eq_of_beq hc)
        exact ⟨Nat.sub_pos_of_lt this, fun _ => hescaped⟩
      · exact hn

/-- Inside braces the search for the end of a tag goes on behind the group. -/
theorem cutAt?_tagEnd_inside (hn : n.IsInside) (text : List Char) :
    tagEnd.cutAt? n text = (braceEnd.cutAt? n text).bind fun found =>
      (tagEnd.cutAt? {} found.2.2).map (ahead (found.1 ++ ['}'])) := by
  induction text generalizing n with
  | nil => rfl
  | cons c text ih =>
    cases hstops : braceEnd.stops n c with
    | true =>
      -- the brace that ends the group leads to where the search began
      obtain ⟨quote, escaped, depth⟩ := n
      simp only [braceEnd, Bool.and_eq_true, Option.isNone_iff_eq_none, beq_iff_eq,
        decide_eq_true_eq] at hstops
      obtain ⟨⟨rfl, rfl⟩, hle⟩ := hstops
      obtain rfl : escaped = false := hn.escaped rfl
      obtain rfl : depth = 1 := Nat.le_antisymm hle hn.depth
      rfl
    | false =>
      obtain ⟨hgo, hstep, hinside⟩ := isInside_step hn hstops
      rw [cutAt?_cons hgo, cutAt?_cons hstops, hstep, ih hinside]
      cases braceEnd.cutAt? (braceEnd.step n c) text with
      | none => rfl
      | some found => exact map_ahead_append [c] (found.1 ++ ['}']) _

/-- The search for the end of a tag goes on behind a group in braces, if the group is closed. -/
theorem cutAt?_tagEnd_group (text : List Char) :
    tagEnd.cutAt? {} ('{' :: text) = (braceEnd.cutAt? {} ('{' :: text)).bind fun found =>
      (tagEnd.cutAt? {} found.2.2).map (ahead (found.1 ++ ['}'])) := by
  have hinside : Nesting.IsInside { depth := 1 } := ⟨Nat.one_pos, fun _ => rfl⟩
  have hopens : tagEnd.step {} '{' = { depth := 1 } ∧ braceEnd.step {} '{' = { depth := 1 } := ⟨rfl, rfl⟩
  rw [cutAt?_cons rfl, cutAt?_cons rfl, hopens.1, hopens.2, cutAt?_tagEnd_inside hinside]
  cases braceEnd.cutAt? { depth := 1 } text with
  | none => rfl
  | some found => exact map_ahead_append ['{'] (found.1 ++ ['}']) _

end NestedSearch

/-- **No `>` in a group in braces ends a tag, and none behind it is missed.** From the brace that opens
a group the end of a tag is looked for as it is from behind the group, and it is not found if nothing
closes the group; so it is for any bytes, whether they are those of a text or not, and on texts. -/
theorem tagEnd_behind_group (bs : Chars) (i : Nat) (hopen : bs[i]? = some '{') :
    (∀ found, NestedSearch.braceEnd.find? bs {} i = some found →
      bracedEnd bs i = found.1 + 1 ∧
      NestedSearch.tagEnd.find? bs {} i = NestedSearch.tagEnd.find? bs {} (bracedEnd bs i)) ∧
    (NestedSearch.braceEnd.find? bs {} i = none →
      bracedEnd bs i = bs.size ∧ NestedSearch.tagEnd.find? bs {} i = none) ∧
    (∀ found, NestedSearch.tagEnd.find? bs {} i = some found → bracedEnd bs i ≤ found.1) ∧
    ∀ text : List Char,
      cutBraced {} ('{' :: text) = (closedGroup? ('{' :: text)).getD ('{' :: text, []) ∧
      cutTagEnd {} ('{' :: text) = (closedGroup? ('{' :: text)).bind fun group =>
        (cutTagEnd {} group.2).map (before group.1) := by
  have htag := NestedSearch.isRegular_tagEnd
  have hbrace := NestedSearch.isRegular_braceEnd
  have hstart := Nesting.isSteady_start
  have hcut := NestedSearch.cutAt?_tagEnd_group (bs.toList.drop (i + 1))
  rw [← drop_eq_cons hopen, NestedSearch.cutAt?_drop hbrace hstart] at hcut
  have hclosed : ∀ found, NestedSearch.braceEnd.find? bs {} i = some found →
      bracedEnd bs i = found.1 + 1 ∧
      NestedSearch.tagEnd.find? bs {} i = NestedSearch.tagEnd.find? bs {} (bracedEnd bs i) := by
    intro found hfound
    obtain ⟨hle, -, c, hc, -⟩ := NestedSearch.find?_spec hbrace hstart hfound
    have hend : bracedEnd bs i = found.1 + 1 := by rw [bracedEnd, hfound]
    have hlt := lt_size_of_getElem? hc
    rw [hfound] at hcut
    refine ⟨hend, ?_⟩
    rw [hend]
    refine NestedSearch.find?_eq_of_cutAt? htag hstart hstart ?_ hcut
    dsimp only
    rw [slice_eq, List.length_append, List.length_take, List.length_drop, Array.length_toList,
      List.length_singleton]
    omega
  have hopened : NestedSearch.braceEnd.find? bs {} i = none →
      bracedEnd bs i = bs.size ∧ NestedSearch.tagEnd.find? bs {} i = none := by
    intro hnone
    rw [hnone, NestedSearch.cutAt?_drop htag hstart] at hcut
    exact ⟨by rw [bracedEnd, hnone], Option.map_eq_none_iff.mp hcut⟩
  refine ⟨hclosed, hopened, fun found hfound => ?_, fun text => ⟨NestedSearch.cutBraced_eq {} _, ?_⟩⟩
  · cases hgroup : NestedSearch.braceEnd.find? bs {} i with
    | none =>
      rw [(hopened hgroup).2] at hfound
      cases hfound
    | some group =>
      rw [(hclosed group hgroup).2] at hfound
      exact (NestedSearch.find?_spec htag hstart hfound).1
  · rw [NestedSearch.cutTagEnd_eq, NestedSearch.cutAt?_tagEnd_group, closedGroup?]
    cases NestedSearch.braceEnd.cutAt? {} ('{' :: text) with
    | none => rfl
    | some found =>
      show (Option.map (NestedSearch.ahead (found.1 ++ ['}'])) _).map _ = _
      rw [Option.map_some, Option.bind_some, NestedSearch.cutTagEnd_eq, Option.map_map,
        Option.map_map]
      rfl

/-- A group with a `>` in it and a brace in a string, and the end of the tag behind it. -/
theorem tagEnd_behind_group_arrow :
    let bs := "\x7be > '\x7d' > f\x7d >".toList.toArray
    bs[0]? = some '{' ∧ bracedEnd bs 0 = 13 ∧
      NestedSearch.tagEnd.find? bs {} 0 = NestedSearch.tagEnd.find? bs {} 13 ∧
      NestedSearch.tagEnd.find? bs {} 0 = some (14, {}) := by
  intro bs
  have hopen : bs[0]? = some '{' := rfl
  have hgroup : NestedSearch.braceEnd.find? bs {} 0 = some (12, { depth := 1 }) := by decide +kernel
  obtain ⟨hend, htag⟩ := (tagEnd_behind_group bs 0 hopen).1 _ hgroup
  rw [hend] at htag
  refine ⟨hopen, hend, htag, htag.trans ?_⟩
  decide +kernel

end Source
end Restyle
