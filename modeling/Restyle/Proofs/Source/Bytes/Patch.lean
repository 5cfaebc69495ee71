import Restyle.Proofs.Source.Bytes.Lowering
import Restyle.Proofs.Source.Bytes.StyleLiteral
import Restyle.Source.Patch

/-!
# Restyle.Proofs.Source.Bytes.Patch

Tags located and patched on the bytes of the source. A tag is looked for byte by byte, its span is
four byte offsets, and the source is cut at two of them. Whatever stands in the source, these offsets
are places between characters, in order and within it (`TagSpan.IsIn`), and the source is patched
without a cut that is not possible; around what is written everything stays (`patch_eq`).
-/

namespace Restyle
namespace Source

open Scan Utf8
open Encoded (offset_slice)

/-- An opening tag by byte offsets: of its `<` and past its `>`, and the ends of its attributes. -/
structure TagSpan where
  start : Nat
  stop : Nat
  attributesStart : Nat
  attributesEnd : Nat
  selfClosing : Bool
  deriving Repr, BEq, DecidableEq

def TagSite.span (s : TagSite) : TagSpan where
  start := s.start
  stop := s.stop
  attributesStart := s.attributesStart
  attributesEnd := s.attributesEnd
  selfClosing := s.selfClosing

/-- The place of the last character of its kind. -/
def lastIndex? (d : Char) (cs : List Char) : Option Nat :=
  match cs.reverse.dropWhile (· != d) with
  | [] => none
  | _ :: before => some before.length

namespace Encoded

/-- Does a tag open at `i` whose name has these bytes? -/
def opensAt (bs : Chars) (name : List Char) (i : Nat) : Bool :=
  bs[i]? == some '<' && startsAt bs (i + 1) name && (bs[i + 1 + name.length]?).any endsName

/-- The span of the tag that opens at `start` and whose name ends at `attributesStart`. -/
def spanAt? (bs : Chars) (start attributesStart : Nat) : Option TagSpan :=
  (NestedSearch.tagEnd.find? bs {} attributesStart).map fun found =>
    let inside := slice bs attributesStart found.1
    let selfClosing := inside.reverse.find? (!Text.isSpace ·) == some '/'
    { start, stop := found.1 + 1, attributesStart, selfClosing
      attributesEnd :=
        if selfClosing then (lastIndex? '/' (slice bs 0 found.1)).getD found.1 else found.1 }

/-- The span of the tag at an occurrence, from a byte offset on. -/
def locateFrom? (bs : Chars) (name : List Char) (occurrence i : Nat) : Option TagSpan :=
  if _h : i < bs.size then
    if opensAt bs name i then
      match occurrence with
      | 0 => spanAt? bs i (i + 1 + name.length)
      | occurrence + 1 => locateFrom? bs name occurrence (i + 1)
    else locateFrom? bs name occurrence (i + 1)
  else none
termination_by bs.size - i

def locateTag? (source tag : String) (occurrence : Nat) : Option TagSpan :=
  if tag.isEmpty then none
  else locateFrom? (encode source.toList.toArray) (tag.toList.flatMap Utf8.bytes) occurrence 0

/-- Rewrites the style of a tag at an occurrence. -/
def patch (source tag : String) (occurrence : Nat) (edits : Styles) :
    Except Halt (Except PatchError String) :=
  match locateTag? source tag occurrence with
  | none => .ok (.error (.tagNotFound tag occurrence))
  | some span => do
    let attributes ← cut source.toList.toArray span.attributesStart span.attributesEnd
    match ← rewriteAttributes attributes edits with
    | .error fault => .ok (.error (.style fault))
    | .ok written =>
      let before ← cut source.toList.toArray 0 span.attributesStart
      let after ← cutFrom source.toList span.attributesEnd
      .ok (.ok (String.ofList (before ++ written ++ after)))

end Encoded

/-! ## Bytes of texts -/

namespace Utf8

variable {cs : Chars} {i j : Nat} {c d : Char}

theorem map_toUInt8_bytes (c : Char) :
    (bytes c).map (fun b => UInt8.ofNat b.toNat) = String.utf8EncodeChar c := by
  rw [bytes, List.map_map]
  have hid : (fun b => UInt8.ofNat b.toNat) ∘ (fun b : UInt8 => Char.ofNat b.toNat) = id := by
    funext b
    show UInt8.ofNat (Char.ofNat b.toNat).toNat = b
    rw [toNat_ofNat_byte, UInt8.ofNat_toNat]
  rw [hid, List.map_id]

/-- The bytes of a text begin with the bytes of its first character and of no other. -/
theorem eq_of_bytes_append {xs ys : List Char} (h : bytes c ++ xs = bytes d ++ ys) : c = d := by
  have hbytes := congrArg (fun bs => (bs.map fun b => UInt8.ofNat b.toNat).toByteArray) h
  simp only [List.map_append, map_toUInt8_bytes, List.toByteArray_append] at hbytes
  have hc := ByteArray.utf8DecodeChar?_utf8EncodeChar_append (c := c)
    (b := (xs.map fun b => UInt8.ofNat b.toNat).toByteArray)
  rw [hbytes, ByteArray.utf8DecodeChar?_utf8EncodeChar_append] at hc
  exact (Option.some.inj hc).symm

theorem flatMap_bytes_prefix_iff {xs ys : List Char} :
    xs.flatMap bytes <+: ys.flatMap bytes ↔ xs <+: ys := by
  constructor
  · intro h
    induction xs generalizing ys with
    | nil => exact List.nil_prefix
    | cons x xs ih =>
      obtain ⟨rest, hrest⟩ := h
      rw [List.flatMap_cons, List.append_assoc] at hrest
      cases ys with
      | nil =>
        have hlength := congrArg List.length hrest
        have hpos := x.utf8Size_pos
        rw [List.length_append, length_bytes, List.flatMap_nil, List.length_nil] at hlength
        omega
      | cons y ys =>
        rw [List.flatMap_cons] at hrest
        obtain rfl := eq_of_bytes_append hrest
        exact List.cons_prefix_cons.mpr ⟨rfl, ih ⟨rest, List.append_cancel_left hrest⟩⟩
  · rintro ⟨rest, rfl⟩
    rw [List.flatMap_append]
    exact List.prefix_append ..

theorem startsAt_iff {ps : List Char} :
    startsAt cs i ps = true ↔ ps <+: cs.toList.drop i := by
  induction ps generalizing i with
  | nil => exact ⟨fun _ => List.nil_prefix, fun _ => rfl⟩
  | cons p ps ih =>
    rw [startsAt, Bool.and_eq_true, beq_iff_eq, ih]
    cases h : cs[i]? with
    | none =>
      rw [drop_eq_nil h]
      exact ⟨fun h => (by cases h.1), fun h => absurd (List.prefix_nil.mp h) (List.cons_ne_nil p ps)⟩
    | some c => rw [drop_eq_cons h, List.cons_prefix_cons, Option.some.injEq, eq_comm]

theorem toList_encode (cs : Chars) : (encode cs).toList = cs.toList.flatMap bytes := rfl

theorem length_take_flatMap (hi : i ≤ cs.size) :
    ((cs.toList.take i).flatMap bytes).length = offset cs i := by
  rw [length_flatMap_bytes, offset]
  omega

theorem drop_encode (hi : i ≤ cs.size) :
    (encode cs).toList.drop (offset cs i) = (cs.toList.drop i).flatMap bytes := by
  conv => lhs; rw [toList_encode, ← List.take_append_drop i cs.toList, List.flatMap_append]
  exact List.drop_left' (length_take_flatMap hi)

theorem slice_encode (hij : i ≤ j) (hj : j ≤ cs.size) :
    slice (encode cs) (offset cs i) (offset cs j) = (slice cs i j).flatMap bytes := by
  have hi := Nat.le_trans hij hj
  have hlength := offset_slice hij hj
  have hrest : cs.toList.drop i = slice cs i j ++ cs.toList.drop j :=
    (slice_append_tail ⟨cs, .js⟩ hij).symm
  rw [slice_eq, drop_encode hi, hrest, List.flatMap_append]
  exact List.take_left' (by rw [length_flatMap_bytes]; omega)

end Utf8

/-! ## The span of a site -/

variable {cs : Chars} {i j k : Nat} {c d : Char}

theorem lastIndex?_append {xs ys : List Char} (h : d ∉ ys) :
    lastIndex? d (xs ++ d :: ys) = some xs.length := by
  have hpos : ∀ c ∈ ys.reverse, (c != d) = true := fun c hc => by
    rw [bne_iff_ne]
    rintro rfl
    exact h (List.mem_reverse.mp hc)
  rw [lastIndex?, List.reverse_append, List.reverse_cons, List.append_assoc,
    List.dropWhile_append_of_pos hpos]
  simp

/-- The last character outside a class of ASCII, as far as one of ASCII is looked for. -/
theorem find?_reverse_flatMap {p : Char → Bool} (hp : AsciiClass p) (hd : IsAscii d)
    (xs : List Char) :
    ((xs.flatMap Utf8.bytes).reverse.find? (!p ·) == some d) =
      (xs.reverse.find? (!p ·) == some d) := by
  rw [List.reverse_flatMap]
  induction xs.reverse with
  | nil => rfl
  | cons c ys ih =>
    rw [List.flatMap_cons, List.find?_append, List.find?_cons]
    by_cases hc : IsAscii c
    · rw [Function.comp_apply, bytes_of_isAscii hc, List.reverse_singleton, List.find?_singleton]
      cases p c with
      | true => exact ih
      | false => rfl
    · rw [hp.eq_false hc]
      have hother : ∀ b ∈ (Utf8.bytes c).reverse, ¬ IsAscii b := fun b hb =>
        not_isAscii_of_mem_bytes hc (List.mem_reverse.mp hb)
      rw [Function.comp_apply]
      cases hbytes : (Utf8.bytes c).reverse with
      | nil =>
        have hlength := length_bytes c
        have hpos := c.utf8Size_pos
        rw [← List.length_reverse, hbytes, List.length_nil] at hlength
        omega
      | cons b bs =>
        rw [hbytes] at hother
        have hb := hother b List.mem_cons_self
        rw [List.find?_cons, hp.eq_false hb]
        show (b == d) = (c == d)
        rw [beq_eq_false hd hb, beq_eq_false hd hc]

theorem getLast?_trimEndBy (p : Char → Bool) (cs : List Char) :
    (Text.trimEndBy p cs).getLast? = cs.reverse.find? (!p ·) := by
  rw [Text.trimEndBy, List.getLast?_reverse]
  induction cs.reverse with
  | nil => rfl
  | cons c cs ih =>
    rw [List.find?_cons, List.dropWhile_cons]
    cases p c with
    | true => exact ih
    | false => rfl

theorem not_mem_flatMap_bytes {spaces : List Char} (h : IsSpaces spaces) :
    '/' ∉ spaces.flatMap Utf8.bytes := by
  intro hmem
  obtain ⟨c, hc, hbyte⟩ := List.mem_flatMap.mp hmem
  have hspace := h c hc
  rw [bytes_of_isAscii (asciiClass_isSpace c hspace), List.mem_singleton] at hbyte
  subst hbyte
  cases hspace

/-- The offset behind the name of a tag. -/
theorem offset_behind_name {name : List Char} (hi : cs[i]? = some '<')
    (hname : cs.toList.drop (i + 1) = name ++ cs.toList.drop (i + 1 + name.length)) :
    i + 1 + name.length ≤ cs.size ∧
      offset cs (i + 1 + name.length) = offset cs i + 1 + Text.byteLength name := by
  have hlt := lt_size_of_getElem? hi
  have hlength := congrArg List.length hname
  simp only [List.length_append, List.length_drop, Array.length_toList] at hlength
  have hslice : slice cs (i + 1) (i + 1 + name.length) = name := by
    rw [slice_eq, hname, Nat.add_sub_cancel_left, List.take_left]
  refine ⟨by omega, ?_⟩
  rw [offset_slice (show i + 1 ≤ i + 1 + name.length by omega) (by omega), hslice,
    offset_succ_of_isAscii hi (by decide)]

namespace Encoded

theorem spanAt?_encode {name : List Char} (hi : cs[i]? = some '<')
    (hname : cs.toList.drop (i + 1) = name ++ cs.toList.drop (i + 1 + name.length)) :
    spanAt? (encode cs) (offset cs i) (offset cs (i + 1 + name.length)) =
      (siteOf? name (cs.toList.drop (i + 1 + name.length))).map fun s =>
        (s.behind (cs.toList.take i)).span := by
  have hlt := lt_size_of_getElem? hi
  have hstart : Text.byteLength (cs.toList.take i) = offset cs i := by rw [offset]; omega
  obtain ⟨hk, hoffset⟩ := offset_behind_name hi hname
  generalize i + 1 + name.length = k at hk hoffset
  rw [spanAt?, NestedSearch.find?_encode NestedSearch.isRegular_tagEnd Nesting.isSteady_start,
    siteOf?, NestedSearch.cutTagEnd_eq, NestedSearch.cutAt?_drop NestedSearch.isRegular_tagEnd
      Nesting.isSteady_start]
  cases hfound : NestedSearch.tagEnd.find? cs {} k with
  | none => rfl
  | some found =>
    obtain ⟨hkj, -, e, he, hstops⟩ :=
      NestedSearch.find?_spec NestedSearch.isRegular_tagEnd Nesting.isSteady_start hfound
    obtain ⟨j, m⟩ := found
    simp only [NestedSearch.tagEnd, Bool.and_eq_true, beq_iff_eq] at hstops hkj he
    obtain ⟨-, rfl⟩ := hstops
    have hj := lt_size_of_getElem? he
    have hstop := offset_slice hkj (Nat.le_of_lt hj)
    simp only [Option.map_some, Prod.map_apply, id_eq, Option.some.injEq]
    rw [slice_encode hkj (Nat.le_of_lt hj), find?_reverse_flatMap asciiClass_isSpace (by decide),
      ← getLast?_trimEndBy]
    cases hslash : (Text.trimEndBy Text.isSpace (slice cs k j)).getLast? == some '/' with
    | false =>
      have hbytes : offset cs (j + 1) = offset cs j + 1 := offset_succ_of_isAscii he (by decide)
      simp [TagSite.span, TagSite.behind, TagSite.start, TagSite.stop, TagSite.attributesStart,
        TagSite.attributesEnd, hstart, ← hoffset, ← hstop]
      rfl
    | true =>
      obtain ⟨init, spaces, hspaces, hkept, hinside⟩ := exists_slash hslash
      have hclosing : (init ++ '/' :: spaces).drop ((init ++ ['/']).length - 1) = '/' :: spaces := by
        simp
      have hlast : lastIndex? '/' (slice (encode cs) 0 (offset cs j)) =
          some (offset cs k + Text.byteLength init) := by
        have hfront := slice_encode (Nat.zero_le j) (Nat.le_of_lt hj)
        have hbefore := offset_slice (Nat.zero_le k) hk
        rw [offset_zero, Nat.zero_add] at hbefore
        rw [offset_zero, ← slice_append cs (Nat.zero_le k) hkj, hinside, List.flatMap_append,
          List.flatMap_append, List.flatMap_cons, bytes_of_isAscii (by decide),
          ← List.append_assoc] at hfront
        rw [hfront]
        refine (lastIndex?_append (not_mem_flatMap_bytes hspaces)).trans ?_
        rw [List.length_append, length_flatMap_bytes, length_flatMap_bytes, ← hbefore]
      have hslash : Text.byteLength ['/'] = 1 := rfl
      have hangle : Text.byteLength ['>'] = 1 := rfl
      have hsplit : init ++ '/' :: spaces = init ++ (['/'] ++ spaces) := rfl
      rw [hinside, hsplit, Text.byteLength_append, Text.byteLength_append, hslash] at hstop
      rw [hkept, hinside, hlast]
      simp only [TagSite.span, TagSite.behind, TagSite.start, TagSite.stop, TagSite.attributesStart,
        TagSite.attributesEnd, hstart, ← hoffset, if_true, List.append_nil, Option.getD_some,
        hclosing, List.dropLast_concat]
      have hclosed : offset cs j + 1 = offset cs k + Text.byteLength init +
          Text.byteLength ('/' :: spaces ++ ['>']) := by
        have hsplit : '/' :: spaces ++ ['>'] = ['/'] ++ (spaces ++ ['>']) := rfl
        rw [hsplit, Text.byteLength_append, Text.byteLength_append, hslash, hangle]
        omega
      rw [hclosed]

theorem asciiClass_endsName : AsciiClass endsName :=
  (asciiClass_isSpace.or (.beq (by decide))).or (.beq (by decide))

/-- A tag opens in the bytes of a text where it opens in the text. -/
theorem opensAt_encode (h : cs[i]? = some c) (name : List Char) :
    opensAt (encode cs) (name.flatMap Utf8.bytes) (offset cs i) = true ↔
      opens? name c (cs.toList.drop (i + 1)) = some (cs.toList.drop (i + 1 + name.length)) := by
  have hlt := lt_size_of_getElem? h
  rw [opensAt, Bool.and_eq_true, Bool.and_eq_true, encode_beq (by decide), h, beq_iff_eq,
    Option.some.injEq, opens?_eq_some_iff, and_assoc]
  refine and_congr_right fun hc => ?_
  subst hc
  have hnext := offset_succ_of_isAscii h (show IsAscii '<' by decide)
  -- behind the name the bytes go on at the offset of the place after it
  have hbehind (hread : cs.toList.drop (i + 1) = name ++ cs.toList.drop (i + 1 + name.length)) :
      (encode cs)[offset cs i + 1 + (name.flatMap Utf8.bytes).length]?.any endsName =
        cs[i + 1 + name.length]?.any endsName := by
    rw [length_flatMap_bytes, ← (offset_behind_name h hread).2, any_encode asciiClass_endsName]
  rw [← hnext, startsAt_iff, drop_encode hlt, flatMap_bytes_prefix_iff]
  constructor
  · rintro ⟨⟨rest, hrest⟩, hends⟩
    have hdrop : cs.toList.drop (i + 1 + name.length) = rest := by
      rw [← List.drop_drop, ← hrest, List.drop_left]
    rw [hnext, hbehind (by rw [hdrop, hrest])] at hends
    cases hd : cs[i + 1 + name.length]? with
    | none =>
      rw [hd] at hends
      cases hends
    | some d =>
      rw [hd] at hends
      exact ⟨by rw [hdrop, hrest], d, _, drop_eq_cons hd, hends⟩
  · rintro ⟨hread, d, tail, hrest, hends⟩
    refine ⟨⟨_, hread.symm⟩, ?_⟩
    have hd : cs[i + 1 + name.length]? = some d := charAt?_of_cons (s := ⟨cs, .js⟩) hrest
    rw [hnext, hbehind hread, hd]
    exact hends

theorem opens?_drop (h : cs[i]? = some c) (name : List Char) :
    opens? name c (cs.toList.drop (i + 1)) =
      if opensAt (encode cs) (name.flatMap Utf8.bytes) (offset cs i) then
        some (cs.toList.drop (i + 1 + name.length))
      else none := by
  split
  · rename_i hopens
    exact (opensAt_encode h name).mp hopens
  · rename_i hopens
    rw [Option.eq_none_iff_forall_ne_some]
    intro rest hrest
    obtain ⟨-, hread, -⟩ := opens?_eq_some_iff.mp hrest
    have hdrop : cs.toList.drop (i + 1 + name.length) = rest := by
      rw [← List.drop_drop, hread, List.drop_left]
    rw [← hdrop] at hrest
    exact hopens ((opensAt_encode h name).mpr hrest)

theorem locateFrom?_of_getElem? {bs : Chars} {name : List Char} {occurrence : Nat}
    (h : bs[i]? = some c) :
    locateFrom? bs name occurrence i =
      if opensAt bs name i then
        match occurrence with
        | 0 => spanAt? bs i (i + 1 + name.length)
        | occurrence + 1 => locateFrom? bs name occurrence (i + 1)
      else locateFrom? bs name occurrence (i + 1) := by
  rw [locateFrom?.eq_def, dif_pos (lt_size_of_getElem? h)]

theorem locateFrom?_of_none {bs : Chars} {name : List Char} {occurrence : Nat}
    (h : bs[i]? = none) : locateFrom? bs name occurrence i = none := by
  rw [locateFrom?.eq_def, dif_neg (Nat.not_lt.mpr (Array.getElem?_eq_none_iff.mp h))]

theorem passes_locateFrom? (bs : Chars) (name : List Char) (occurrence : Nat) :
    Utf8.Passes bs (locateFrom? bs name occurrence) := by
  intro i c h hc
  have hopens : opensAt bs name i = false := by
    rw [opensAt, h, Option.some_beq_some, beq_eq_false (by decide) hc]
    rfl
  rw [locateFrom?_of_getElem? h, hopens]
  rfl

/-- The site found behind a character, seen from before it. -/
theorem span_behind_cons (h : cs[i]? = some c) (found : Option TagSite) :
    (found.map (TagSite.behind [c])).map (fun s => (s.behind (cs.toList.take i)).span) =
      found.map fun s => (s.behind (cs.toList.take (i + 1))).span := by
  have htake : cs.toList.take (i + 1) = cs.toList.take i ++ [c] := by
    rw [List.take_add_one, Array.getElem?_toList, h]
    rfl
  rw [Option.map_map, htake]
  cases found with
  | none => rfl
  | some s => simp [TagSite.behind, Function.comp_def]

theorem findSite?_of_opens {name rest : List Char} {occurrence : Nat} {cs : List Char}
    (h : opens? name c cs = some rest) :
    findSite? name (occurrence + 1) (c :: cs) = (findSite? name occurrence cs).map (.behind [c]) := by
  have hcons : findSite? name _ (c :: cs) = _ := findSite?_cons c cs occurrence
  rwa [h, Option.isSome_some, if_pos rfl, Nat.add_comm] at hcons

theorem findSite?_of_opens_none {name : List Char} {occurrence : Nat} {cs : List Char}
    (h : opens? name c cs = none) :
    findSite? name occurrence (c :: cs) = (findSite? name occurrence cs).map (.behind [c]) := by
  have hcons : findSite? name _ (c :: cs) = _ := findSite?_cons c cs occurrence
  rwa [h, Option.isSome_none, if_neg Bool.false_ne_true, Nat.zero_add] at hcons

/-- The span found over the bytes is that of the site found over the characters. -/
theorem locateFrom?_encode (name : List Char) (occurrence : Nat) (cs : Chars) (i : Nat) :
    locateFrom? (encode cs) (name.flatMap Utf8.bytes) occurrence (offset cs i) =
      (findSite? name occurrence (cs.toList.drop i)).map fun s =>
        (s.behind (cs.toList.take i)).span := by
  induction i using rest_induction cs generalizing occurrence with
  | ended i h =>
    rw [locateFrom?_of_none (encode_of_none h), drop_eq_nil h]
    rfl
  | ascii i c h hc ih =>
    have hrest (occurrence : Nat) := ih (i + 1) (Nat.lt_succ_self i) occurrence
    rw [offset_succ_of_isAscii h hc] at hrest
    have hopens := opens?_drop h name
    rw [locateFrom?_of_getElem? (encode_of_isAscii h hc), drop_eq_cons h]
    split
    · rename_i hopen
      rw [if_pos hopen] at hopens
      cases occurrence with
      | zero =>
        obtain ⟨rfl, hread, -⟩ := opens?_eq_some_iff.mp hopens
        rw [findSite?_zero hopens, ← spanAt?_encode h hread, length_flatMap_bytes,
          (offset_behind_name h hread).2]
      | succ occurrence =>
        rw [findSite?_of_opens hopens, span_behind_cons h]
        exact hrest occurrence
    · rename_i hopen
      rw [if_neg hopen] at hopens
      rw [findSite?_of_opens_none hopens, span_behind_cons h]
      exact hrest occurrence
  | other i c h hc ih =>
    have hne : c ≠ '<' := by
      rintro rfl
      exact hc (by decide)
    rw [(passes_locateFrom? _ _ occurrence).over h hc, ih, drop_eq_cons h,
      findSite?_of_opens_none (opens?_of_ne hne), span_behind_cons h]

theorem locateTag?_eq_map (source tag : String) (occurrence : Nat) :
    locateTag? source tag occurrence = (Source.locateTag? source tag occurrence).map TagSite.span := by
  rw [locateTag?, Source.locateTag?]
  split
  · rfl
  · have h := locateFrom?_encode tag.toList occurrence source.toList.toArray 0
    rw [offset_zero] at h
    rw [h]
    simp [TagSite.behind]

end Encoded

/-! ## Patching -/

/-- A span in a source: its offsets are places between characters, in order and within the source;
it begins with the tag, and it ends with what closes the tag. -/
structure TagSpan.IsIn (source tag : String) (t : TagSpan) : Prop where
  start_lt : t.start < t.attributesStart
  attributesStart : t.attributesStart = t.start + 1 + tag.utf8ByteSize
  attributesStart_le : t.attributesStart ≤ t.attributesEnd
  attributesEnd_lt : t.attributesEnd < t.stop
  stop_le : t.stop ≤ source.utf8ByteSize
  isValid : ∀ i ∈ [t.start, t.attributesStart, t.attributesEnd, t.stop],
    String.Pos.Raw.IsValid source ⟨i⟩
  opening : cut? source.toList.toArray t.start t.attributesStart = some ('<' :: tag.toList)
  closing : ∃ closing, cut? source.toList.toArray t.attributesEnd t.stop = some closing ∧
    IsClosing t.selfClosing closing

/-- A source with other text in the place of the attributes. -/
def TagSpan.Rewrites (source : String) (t : TagSpan) (out : String) : Prop :=
  ∃ before written after, cut? source.toList.toArray 0 t.attributesStart = some before ∧
    cut? source.toList.toArray t.attributesEnd source.utf8ByteSize = some after ∧
    out.toList = before ++ written ++ after

/-- Lengths in bytes are offsets at which a text is cut. -/
theorem cut?_append (xs ys zs : List Char) :
    cut? (xs ++ (ys ++ zs)).toArray (Text.byteLength xs) (Text.byteLength xs + Text.byteLength ys) =
      some ys := by
  have hstart := Encoded.offset_append xs (ys ++ zs)
  have hstop := Encoded.offset_append (xs ++ ys) zs
  have hsize : (xs ++ ys).length ≤ (xs ++ (ys ++ zs)).toArray.size := by simp
  have hle : xs.length ≤ (xs ++ ys).length := by simp
  rw [Text.byteLength_append, List.append_assoc] at hstop
  rw [← hstop, ← hstart, cut?_offset hle hsize, slice_eq]
  simp

theorem byteLength_toList (source : String) :
    Text.byteLength source.toList = source.utf8ByteSize := by
  rw [Encoded.byteLength_eq, String.ofList_toList]

theorem isValid_byteLength {source : String} {xs ys : List Char} (h : source.toList = xs ++ ys) :
    String.Pos.Raw.IsValid source ⟨Text.byteLength xs⟩ := by
  have hle : xs.length ≤ source.toList.length := by simp [h]
  have hvalid := Encoded.isValid_offset source hle
  rwa [h, Encoded.offset_append] at hvalid

/-- The pieces of a site are between the offsets of its span. -/
theorem TagSite.isIn_span {source tag : String} {s : TagSite} (hname : s.name = tag.toList)
    (hsource : s.source = source.toList) (hclosing : IsClosing s.selfClosing s.closing) :
    s.span.IsIn source tag := by
  obtain ⟨before, name, attributes, closing, selfClosing, after⟩ := s
  dsimp only at hname hclosing
  subst hname
  have hsplit : source.toList =
      before ++ (('<' :: tag.toList) ++ (attributes ++ (closing ++ after))) := by
    rw [← hsource, TagSite.source, TagSite.withAttributes]
    simp
  have hangle : Text.byteLength ('<' :: tag.toList) = 1 + tag.utf8ByteSize := by
    rw [Text.byteLength_cons, byteLength_toList]
    rfl
  have hsize := congrArg Text.byteLength hsplit
  have hpos : 0 < Text.byteLength closing := by
    cases hclosing with
    | tag => decide
    | element => rw [Text.byteLength_cons]; have := Char.utf8Size_pos '/'; omega
  rw [byteLength_toList] at hsize
  simp only [Text.byteLength_append, hangle] at hsize
  have htag := byteLength_toList tag
  have hopening := cut?_append before ('<' :: tag.toList) (attributes ++ (closing ++ after))
  have hends := cut?_append (before ++ ('<' :: tag.toList ++ attributes)) closing after
  have hbefore := isValid_byteLength hsplit
  have hbehind : source.toList =
      (before ++ '<' :: tag.toList) ++ (attributes ++ (closing ++ after)) := by simp [hsplit]
  have hattributes : source.toList =
      (before ++ ('<' :: tag.toList ++ attributes)) ++ (closing ++ after) := by simp [hsplit]
  have hclosed : source.toList =
      (before ++ ('<' :: tag.toList ++ (attributes ++ closing))) ++ after := by simp [hsplit]
  have hplaces := And.intro (isValid_byteLength hbehind)
    (And.intro (isValid_byteLength hattributes) (isValid_byteLength hclosed))
  rw [← hsplit] at hopening
  rw [← hattributes] at hends
  simp only [Text.byteLength_append, hangle, Nat.add_assoc] at hopening hends hplaces
  constructor
  all_goals
    simp only [TagSite.span, TagSite.start, TagSite.stop, TagSite.attributesStart,
      TagSite.attributesEnd, htag]
  · omega
  · omega
  · omega
  · omega
  · simp only [List.forall_mem_cons, Nat.add_assoc]
    exact ⟨hbefore, hplaces.1, hplaces.2.1, hplaces.2.2, List.forall_mem_nil _⟩
  · rwa [Nat.add_assoc]
  · refine ⟨closing, ?_, hclosing⟩
    simpa only [Nat.add_assoc] using hends

/-- The source is cut around the attributes of a site. -/
theorem TagSite.cut?_around {source : String} {s : TagSite} (hsource : s.source = source.toList) :
    cut? source.toList.toArray s.attributesStart s.attributesEnd = some s.attributes ∧
      cut? source.toList.toArray 0 s.attributesStart = some (s.before ++ '<' :: s.name) ∧
      cut? source.toList.toArray s.attributesEnd source.utf8ByteSize =
        some (s.closing ++ s.after) := by
  have hangle : Text.byteLength ('<' :: s.name) = 1 + Text.byteLength s.name := by
    rw [Text.byteLength_cons]
    rfl
  have hnil : Text.byteLength [] = 0 := rfl
  have hsplit : source.toList =
      s.before ++ '<' :: s.name ++ (s.attributes ++ (s.closing ++ s.after)) := by
    rw [← hsource, TagSite.source, TagSite.withAttributes]
    simp
  have hinside := cut?_append (s.before ++ '<' :: s.name) s.attributes (s.closing ++ s.after)
  have hbefore := cut?_append [] (s.before ++ '<' :: s.name)
    (s.attributes ++ (s.closing ++ s.after))
  have hafter := cut?_append (s.before ++ '<' :: s.name ++ s.attributes) (s.closing ++ s.after) []
  have hjoined : source.toList =
      s.before ++ '<' :: s.name ++ s.attributes ++ (s.closing ++ s.after) := by
    rw [hsplit]
    simp only [List.append_assoc, List.cons_append]
  rw [List.append_nil, ← Text.byteLength_append, ← hjoined, byteLength_toList] at hafter
  rw [← hsplit] at hinside
  rw [List.nil_append, ← hsplit, hnil, Nat.zero_add] at hbefore
  simp only [Text.byteLength_append, hangle, ← Nat.add_assoc] at hinside hbefore hafter
  exact ⟨hinside, hbefore, hafter⟩

theorem locateTag?_spec {source tag : String} {occurrence : Nat} {s : TagSite}
    (h : locateTag? source tag occurrence = some s) :
    s.name = tag.toList ∧ s.source = source.toList ∧ IsClosing s.selfClosing s.closing := by
  unfold locateTag? at h
  split at h
  · cases h
  · obtain ⟨hname, hsource, -⟩ := findSite?_spec h
    obtain ⟨before, rest, own, -, -, hown, rfl, -⟩ := exists_siteOf?_of_findSite? h
    have hclosing := isClosing_of_siteOf? hown
    exact ⟨hname, hsource, hclosing⟩

namespace Encoded

/-- **Tags and patches in bytes.** The span that is found byte by byte is that of the site that is
found character by character, and its offsets cut the source between characters. Patching at it never
halts at a cut, gives what patching gives, and changes nothing but the attributes. -/
theorem patch_eq (source tag : String) (occurrence : Nat) :
    locateTag? source tag occurrence =
        (Source.locateTag? source tag occurrence).map TagSite.span ∧
      (∀ t, locateTag? source tag occurrence = some t → t.IsIn source tag) ∧
      ∀ edits, patch source tag occurrence edits = .ok (Source.patch source tag occurrence edits) ∧
        ∀ out, Source.patch source tag occurrence edits = .ok out →
          ∃ t, locateTag? source tag occurrence = some t ∧ t.Rewrites source out := by
  have hlocate := locateTag?_eq_map source tag occurrence
  refine ⟨hlocate, ?_, fun edits => ⟨?_, ?_⟩⟩
  · intro t ht
    rw [hlocate] at ht
    obtain ⟨s, hs, rfl⟩ := Option.map_eq_some_iff.mp ht
    obtain ⟨hname, hsource, hclosing⟩ := locateTag?_spec hs
    exact TagSite.isIn_span hname hsource hclosing
  · rw [patch, Source.patch, hlocate]
    cases hs : Source.locateTag? source tag occurrence with
    | none => rfl
    | some s =>
      obtain ⟨hinside, hbefore, hafter⟩ := TagSite.cut?_around (locateTag?_spec hs).2.1
      have hrest : cutFrom source.toList s.attributesEnd = .ok (s.closing ++ s.after) := by
        rw [cutFrom, byteLength_toList, cut, hafter]
      rw [Option.map_some]
      dsimp only [TagSite.span]
      rw [cut, hinside]
      dsimp only
      rw [ok_bind, rewriteAttributes_eq, ok_bind]
      cases Source.rewriteAttributes s.attributes edits with
      | error fault => rfl
      | ok written =>
        dsimp only
        rw [cut, hbefore]
        dsimp only
        rw [ok_bind, hrest, ok_bind, TagSite.withAttributes]
        simp only [List.append_assoc, List.cons_append]
  · intro out hout
    rw [Source.patch] at hout
    cases hs : Source.locateTag? source tag occurrence with
    | none =>
      rw [hs] at hout
      cases hout
    | some s =>
      obtain ⟨-, hbefore, hafter⟩ := TagSite.cut?_around (locateTag?_spec hs).2.1
      rw [hs] at hout
      dsimp only at hout
      cases hwritten : Source.rewriteAttributes s.attributes edits with
      | error fault =>
        rw [hwritten] at hout
        cases hout
      | ok written =>
        rw [hwritten] at hout
        cases hout
        refine ⟨s.span, by rw [hlocate, hs]; rfl, _, written, _, hbefore, hafter, ?_⟩
        rw [String.toList_ofList, TagSite.withAttributes]
        simp only [List.append_assoc, List.cons_append]

/-- A name and values outside ASCII, a backslash before a character of two bytes, and an entry
without a value. -/
theorem patch_eq_escaped :
    let source := "ñ<Ü ß=\"é\" style=\x7b\x7b c: '\\ü', d \x7d\x7d / >x"
    let patched := "ñ<Ü ß=\"é\" style=\x7b\x7b c: '\\ü', d, margin: \"1px\" \x7d\x7d / >x"
    patch source "Ü" 0 { margin := some "1px" } = .ok (.ok patched) ∧
      ∃ t, locateTag? source "Ü" 0 = some t ∧ t.attributesStart = 5 ∧ t.selfClosing = true ∧
        t.IsIn source "Ü" ∧ t.Rewrites source patched := by
  intro source patched
  obtain ⟨hlocate, hin, hpatch⟩ := patch_eq source "Ü" 0
  have hwritten : Source.patch source "Ü" 0 { margin := some "1px" } = .ok patched :=
    eq_ok_of_toOption (by decide +kernel)
  have hsite : (Source.locateTag? source "Ü" 0).map
      (fun s => (s.span.attributesStart, s.span.selfClosing)) = some (5, true) := by decide +kernel
  obtain ⟨hbytes, hrewrites⟩ := hpatch { margin := some "1px" }
  obtain ⟨t, ht, hrewrites⟩ := hrewrites patched hwritten
  refine ⟨by rw [hbytes, hwritten], t, ht, ?_, ?_, hin t ht, hrewrites⟩
  all_goals
    obtain ⟨s, hs, rfl⟩ := Option.map_eq_some_iff.mp (hlocate.symm.trans ht)
    rw [hs, Option.map_some, Option.some.injEq, Prod.mk.injEq] at hsite
  · exact hsite.1
  · exact hsite.2

end Encoded
end Source
end Restyle
