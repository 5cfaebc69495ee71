import Restyle.Source.Dialect
import Restyle.Source.Scan

/-!
# Restyle.Proofs.Source.Bytes.Offset

Texts as the bytes of their UTF-8 form. A byte stands for the character with its number, so that
what searches characters searches bytes as well.

* `Utf8.encode` — the bytes of a text.
* `Utf8.offset` — the number of bytes before a position.
* `Utf8.Passes` — a search that goes over the bytes of a character outside ASCII finds the place
  after it, from before the character or from within.
-/

namespace Restyle

namespace Text

theorem byteLength_cons (c : Char) (cs : List Char) :
    byteLength (c :: cs) = c.utf8Size + byteLength cs := by
  have shift : ∀ (cs : List Char) (n m : Nat), cs.foldl (fun n c => n + c.utf8Size) (n + m) =
      n + cs.foldl (fun n c => n + c.utf8Size) m := by
    intro cs
    induction cs with
    | nil => intro n m; rfl
    | cons c cs ih => intro n m; rw [List.foldl_cons, List.foldl_cons, Nat.add_assoc, ih]
  have hshift := shift cs c.utf8Size 0
  rwa [Nat.add_comm] at hshift

theorem byteLength_append (cs ds : List Char) :
    byteLength (cs ++ ds) = byteLength cs + byteLength ds := by
  induction cs with
  | nil => exact (Nat.zero_add _).symm
  | cons c cs ih => rw [List.cons_append, byteLength_cons, byteLength_cons, ih, Nat.add_assoc]

end Text

namespace Source
namespace Utf8

/-- The bytes of a character. -/
def bytes (c : Char) : List Char := (String.utf8EncodeChar c).map fun b => Char.ofNat b.toNat

def encode (cs : Chars) : Chars := (cs.toList.flatMap bytes).toArray

/-- Number of bytes before a position. Behind the text every position counts as one byte. -/
def offset (cs : Chars) (i : Nat) : Nat :=
  Text.byteLength (cs.toList.take i) + (i - cs.size)

variable {cs : Chars} {i j k : Nat} {b c d : Char} {p : Char → Bool}

/-! ## Characters -/

def IsAscii (c : Char) : Prop := c.toNat < 128

instance : Decidable (IsAscii c) := inferInstanceAs (Decidable (c.toNat < 128))

theorem isAscii_iff : IsAscii c ↔ c.utf8Size = 1 := by
  rw [Char.utf8Size_eq_one_iff, UInt32.le_iff_toNat_le]
  exact Nat.lt_succ_iff

theorem length_bytes (c : Char) : (bytes c).length = c.utf8Size := by
  rw [bytes, List.length_map, String.length_utf8EncodeChar]

theorem bytes_of_isAscii (hc : IsAscii c) : bytes c = [c] := by
  rw [bytes, String.utf8EncodeChar_eq_singleton (isAscii_iff.mp hc)]
  have hval : c.val.toUInt8.toNat = c.toNat := by
    rw [UInt32.toNat_toUInt8]
    exact Nat.mod_eq_of_lt (Nat.lt_trans hc (by decide))
  rw [List.map_singleton, hval, Char.ofNat_toNat]

theorem toNat_ofNat_byte (b : UInt8) : (Char.ofNat b.toNat).toNat = b.toNat := by
  have hvalid : b.toNat.isValidChar := .inl (Nat.lt_trans b.toNat_lt (by decide))
  rw [Char.ofNat, dif_pos hvalid]
  rfl

/-- No byte of a character outside ASCII is one of ASCII. -/
theorem not_isAscii_of_mem_bytes (hc : ¬ IsAscii c) (hb : b ∈ bytes c) : ¬ IsAscii b := by
  obtain ⟨u, hu, rfl⟩ := List.mem_map.mp hb
  have hor (x m : UInt8) (hm : 128 ≤ m.toNat) : 128 ≤ (x ||| m).toNat := by
    rw [UInt8.toNat_or]
    exact Nat.le_trans hm Nat.right_le_or
  rw [IsAscii, toNat_ofNat_byte, Nat.not_lt]
  rcases c.utf8Size_eq with h | h | h | h
  · exact absurd (isAscii_iff.mpr h) hc
  · rw [String.utf8EncodeChar_eq_cons_cons h] at hu
    simp only [List.mem_cons, List.not_mem_nil, or_false] at hu
    rcases hu with rfl | rfl <;> exact hor _ _ (by decide)
  · rw [String.utf8EncodeChar_eq_cons_cons_cons h] at hu
    simp only [List.mem_cons, List.not_mem_nil, or_false] at hu
    rcases hu with rfl | rfl | rfl <;> exact hor _ _ (by decide)
  · rw [String.utf8EncodeChar_eq_cons_cons_cons_cons h] at hu
    simp only [List.mem_cons, List.not_mem_nil, or_false] at hu
    rcases hu with rfl | rfl | rfl | rfl <;> exact hor _ _ (by decide)

/-- The byte with which a character begins. -/
def lead (c : Char) : Char := (bytes c).headD c

theorem lead_of_isAscii (hc : IsAscii c) : lead c = c := by rw [lead, bytes_of_isAscii hc]; rfl

theorem lead_mem_bytes (c : Char) : lead c ∈ bytes c := by
  cases hb : bytes c with
  | nil =>
    have hlength := length_bytes c
    rw [hb] at hlength
    exact absurd hlength.symm (Nat.ne_of_gt c.utf8Size_pos)
  | cons b bs => rw [lead, hb]; exact List.mem_cons_self

theorem isAscii_lead : IsAscii (lead c) ↔ IsAscii c := by
  refine ⟨fun h => ?_, fun h => by rwa [lead_of_isAscii h]⟩
  exact Decidable.of_not_not fun hc => not_isAscii_of_mem_bytes hc (lead_mem_bytes c) h

/-- A class of ASCII characters. -/
def AsciiClass (p : Char → Bool) : Prop := ∀ c, p c = true → IsAscii c

theorem AsciiClass.lead (hp : AsciiClass p) (c : Char) : p (lead c) = p c := by
  by_cases hc : IsAscii c
  · rw [lead_of_isAscii hc]
  · rw [Bool.eq_false_iff.mpr fun h => hc (hp c h),
      Bool.eq_false_iff.mpr fun h => hc (isAscii_lead.mp (hp _ h))]

theorem AsciiClass.beq (hd : IsAscii d) : AsciiClass (· == d) := fun c h => by
  rwa [eq_of_beq h]

theorem lead_beq (hd : IsAscii d) (c : Char) : (lead c == d) = (c == d) :=
  (AsciiClass.beq hd).lead c

theorem asciiClass_isAlphanum : AsciiClass Char.isAlphanum := by
  intro c h
  have hclass : c.isAlphanum = (decide (c.val ≥ 'A'.val ∧ c.val ≤ 'Z'.val) ||
      (decide (c.val ≥ 'a'.val) && decide (c.val ≤ 'z'.val)) ||
      (decide (c.val ≥ '0'.val) && decide (c.val ≤ '9'.val))) := rfl
  simp only [hclass, Bool.or_eq_true, Bool.and_eq_true, decide_eq_true_eq, ge_iff_le,
    UInt32.le_iff_toNat_le] at h
  rw [IsAscii, Char.toNat]
  have hvals : 'Z'.val.toNat = 90 ∧ 'z'.val.toNat = 122 ∧ '9'.val.toNat = 57 := by decide
  omega

/-! ## Offsets -/

theorem offset_zero (cs : Chars) : offset cs 0 = 0 := by
  rw [offset, List.take_zero, Nat.zero_sub]
  rfl

theorem offset_succ (h : cs[i]? = some c) : offset cs (i + 1) = offset cs i + c.utf8Size := by
  obtain ⟨hlt, hc⟩ := Array.getElem?_eq_some_iff.mp h
  have htake : cs.toList.take (i + 1) = cs.toList.take i ++ [c] := by
    rw [List.take_add_one, Array.getElem?_toList, h]
    rfl
  rw [offset, offset, htake, Text.byteLength_append, Text.byteLength_cons]
  have hnil : Text.byteLength [] = 0 := rfl
  omega

theorem offset_succ_of_none (h : cs[i]? = none) : offset cs (i + 1) = offset cs i + 1 := by
  have hsize := Array.getElem?_eq_none_iff.mp h
  rw [offset, offset, List.take_of_length_le (Nat.le_succ_of_le hsize),
    List.take_of_length_le hsize]
  omega

theorem offset_succ_of_isAscii (h : cs[i]? = some c) (hc : IsAscii c) :
    offset cs (i + 1) = offset cs i + 1 := by
  rw [offset_succ h, isAscii_iff.mp hc]

theorem offset_lt_succ (cs : Chars) (i : Nat) : offset cs i < offset cs (i + 1) := by
  cases h : cs[i]? with
  | none => rw [offset_succ_of_none h]; omega
  | some c => have := c.utf8Size_pos; rw [offset_succ h]; omega

theorem offset_lt_offset (h : i < j) : offset cs i < offset cs j := by
  induction j with
  | zero => cases h
  | succ j ih =>
    have := offset_lt_succ cs j
    rcases Nat.lt_succ_iff_lt_or_eq.mp h with hlt | rfl
    · exact Nat.lt_trans (ih hlt) this
    · exact this

theorem le_offset (cs : Chars) (i : Nat) : i ≤ offset cs i := by
  induction i with
  | zero => exact Nat.zero_le _
  | succ i ih => exact Nat.succ_le_of_lt (Nat.lt_of_le_of_lt ih (offset_lt_succ cs i))

theorem offset_lt_iff : offset cs i < offset cs j ↔ i < j := by
  refine ⟨fun h => ?_, offset_lt_offset⟩
  rcases Nat.lt_trichotomy i j with hlt | rfl | hgt
  · exact hlt
  · exact absurd h (Nat.lt_irrefl _)
  · exact absurd h (Nat.not_lt.mpr (Nat.le_of_lt (offset_lt_offset hgt)))

theorem offset_le_iff : offset cs i ≤ offset cs j ↔ i ≤ j := by
  rw [← Nat.not_lt, offset_lt_iff, Nat.not_lt]

theorem offset_inj : offset cs i = offset cs j ↔ i = j := by
  refine ⟨fun h => Nat.le_antisymm ?_ ?_, fun h => h ▸ rfl⟩
  · exact offset_le_iff.mp (Nat.le_of_eq h)
  · exact offset_le_iff.mp (Nat.le_of_eq h.symm)

/-! ## Bytes at an offset -/

theorem length_flatMap_bytes (ds : List Char) : (ds.flatMap bytes).length = Text.byteLength ds := by
  induction ds with
  | nil => rfl
  | cons d ds ih =>
    rw [List.flatMap_cons, List.length_append, length_bytes, ih, Text.byteLength_cons]

theorem size_encode (cs : Chars) : (encode cs).size = offset cs cs.size := by
  rw [encode, List.size_toArray, length_flatMap_bytes, offset, ← Array.length_toList,
    List.take_length, Nat.sub_self, Nat.add_zero]

theorem encode_add (h : cs[i]? = some c) (hk : k < c.utf8Size) :
    (encode cs)[offset cs i + k]? = (bytes c)[k]? := by
  obtain ⟨hlt, hc⟩ := Array.getElem?_eq_some_iff.mp h
  have hsplit : cs.toList = cs.toList.take i ++ c :: cs.toList.drop (i + 1) := by
    rw [← hc, ← Array.getElem_toList, List.getElem_cons_drop, List.take_append_drop]
  have hoffset : offset cs i = ((cs.toList.take i).flatMap bytes).length := by
    rw [length_flatMap_bytes, offset]
    omega
  rw [encode, List.getElem?_toArray, hsplit, List.flatMap_append, List.flatMap_cons, hoffset,
    List.getElem?_append_right (Nat.le_add_right ..), Nat.add_sub_cancel_left,
    List.getElem?_append_left (by rwa [length_bytes])]

theorem encode_offset (cs : Chars) (i : Nat) : (encode cs)[offset cs i]? = cs[i]?.map lead := by
  cases h : cs[i]? with
  | some c =>
    rw [← Nat.add_zero (offset cs i), encode_add h c.utf8Size_pos, Option.map_some, lead,
      List.headD_eq_head?_getD, List.head?_eq_getElem?]
    have hlt : 0 < (bytes c).length := by rw [length_bytes]; exact c.utf8Size_pos
    rw [List.getElem?_eq_getElem hlt, Option.getD_some]
  | none =>
    rw [Option.map_none, Array.getElem?_eq_none_iff, size_encode, offset_le_iff]
    exact Array.getElem?_eq_none_iff.mp h

theorem encode_of_isAscii (h : cs[i]? = some c) (hc : IsAscii c) :
    (encode cs)[offset cs i]? = some c := by
  rw [encode_offset, h, Option.map_some, lead_of_isAscii hc]

theorem encode_of_none (h : cs[i]? = none) : (encode cs)[offset cs i]? = none := by
  rw [encode_offset, h, Option.map_none]

/-- The byte with which a character ends. -/
def trail (c : Char) : Char := (bytes c).getLastD c

theorem trail_of_isAscii (hc : IsAscii c) : trail c = c := by rw [trail, bytes_of_isAscii hc]; rfl

theorem getElem?_bytes_pred (c : Char) : (bytes c)[c.utf8Size - 1]? = some (trail c) := by
  have hlength := length_bytes c
  have hpos := c.utf8Size_pos
  rw [← hlength, ← List.getLast?_eq_getElem?, trail, List.getLastD_eq_getLast?,
    List.getLast?_eq_some_getLast (List.ne_nil_of_length_pos (hlength ▸ hpos)), Option.getD_some]

theorem AsciiClass.trail (hp : AsciiClass p) (c : Char) : p (trail c) = p c := by
  by_cases hc : IsAscii c
  · rw [trail_of_isAscii hc]
  · have htrail := not_isAscii_of_mem_bytes hc (List.mem_of_getElem? (getElem?_bytes_pred c))
    rw [Bool.eq_false_iff.mpr fun h => hc (hp c h), Bool.eq_false_iff.mpr fun h => htrail (hp _ h)]

/-- The byte before an offset ends the character before it. -/
theorem encode_offset_pred (cs : Chars) (i : Nat) :
    (encode cs)[offset cs (i + 1) - 1]? = cs[i]?.map trail := by
  cases h : cs[i]? with
  | some c =>
    have hpos := c.utf8Size_pos
    rw [offset_succ h, Nat.add_sub_assoc hpos, encode_add h (by omega), getElem?_bytes_pred,
      Option.map_some]
  | none =>
    rw [offset_succ_of_none h, Nat.add_sub_cancel, encode_offset, h, Option.map_none,
      Option.map_none]

/-! ## Searches that go over bytes -/

/-- A search that goes over what is outside ASCII. -/
def Passes {α : Sort _} (cs : Chars) (f : Nat → α) : Prop :=
  ∀ i c, cs[i]? = some c → ¬ IsAscii c → f i = f (i + 1)

section Passes

variable {α : Sort _} {f : Nat → α}

theorem Passes.add (hf : Passes (encode cs) f) (h : cs[i]? = some c) (hc : ¬ IsAscii c)
    (hk : k ≤ c.utf8Size) : f (offset cs i + k) = f (offset cs i) := by
  induction k with
  | zero => rfl
  | succ k ih =>
    have hbyte := encode_add h (Nat.lt_of_succ_le hk)
    have hlt : k < (bytes c).length := by rw [length_bytes]; omega
    rw [List.getElem?_eq_getElem hlt] at hbyte
    rw [← ih (by omega), hf _ _ hbyte (not_isAscii_of_mem_bytes hc (List.getElem_mem hlt)),
      Nat.add_assoc]

/-- Over a character outside ASCII. -/
theorem Passes.over (hf : Passes (encode cs) f) (h : cs[i]? = some c) (hc : ¬ IsAscii c) :
    f (offset cs i) = f (offset cs (i + 1)) := by
  rw [offset_succ h, hf.add h hc (Nat.le_refl _)]

/-- A place that may be within a character is as good as the one after it. -/
theorem Passes.within (hf : Passes (encode cs) f) (i : Nat) :
    f (offset cs i + 1) = f (offset cs (i + 1)) := by
  cases h : cs[i]? with
  | none => rw [offset_succ_of_none h]
  | some c =>
    by_cases hc : IsAscii c
    · rw [offset_succ_of_isAscii h hc]
    · rw [hf.add h hc c.utf8Size_pos, hf.over h hc]

end Passes

/-- A loop that takes one step for each byte goes over the bytes of a character. -/
theorem steps_over {α : Sort _} {f : Nat → Nat → α}
    (hf : ∀ n j b, (encode cs)[j]? = some b → ¬ IsAscii b → f (n + 1) j = f n (j + 1))
    (h : cs[i]? = some c) (hc : ¬ IsAscii c) (n : Nat) :
    f (n + c.utf8Size) (offset cs i) = f n (offset cs (i + 1)) := by
  have hover (k : Nat) (hk : k ≤ c.utf8Size) :
      f (n + c.utf8Size) (offset cs i) = f (n + c.utf8Size - k) (offset cs i + k) := by
    induction k with
    | zero => rfl
    | succ k ih =>
      have hlt : k < (bytes c).length := by rw [length_bytes]; omega
      have hbyte := (encode_add h (Nat.lt_of_succ_le hk)).trans (List.getElem?_eq_getElem hlt)
      have hsteps : n + c.utf8Size - k = n + c.utf8Size - (k + 1) + 1 := by omega
      rw [ih (Nat.le_of_succ_le hk), hsteps,
        hf _ _ _ hbyte (not_isAscii_of_mem_bytes hc (List.getElem_mem hlt)), Nat.add_assoc]
  rw [hover _ (Nat.le_refl _), Nat.add_sub_cancel, offset_succ h]

/-- Induction on the text from a position on, by the character that stands there. -/
theorem rest_induction (cs : Chars) {motive : Nat → Prop}
    (ended : ∀ i, cs[i]? = none → motive i)
    (ascii : ∀ i c, cs[i]? = some c → IsAscii c → (∀ j, i < j → motive j) → motive i)
    (other : ∀ i c, cs[i]? = some c → ¬ IsAscii c → motive (i + 1) → motive i) (i : Nat) :
    motive i := by
  induction hn : cs.size - i using Nat.strongRecOn generalizing i with
  | ind n ih =>
    cases h : cs[i]? with
    | none => exact ended i h
    | some c =>
      have hlt := (Array.getElem?_eq_some_iff.mp h).1
      have hrest : ∀ j, i < j → motive j := fun j hj => ih (cs.size - j) (by omega) j rfl
      by_cases hc : IsAscii c
      · exact ascii i c h hc hrest
      · exact other i c h hc (hrest _ (Nat.lt_succ_self i))

/-! ## Cutting -/

/-- The text between two offsets, if both are places between characters and in order. -/
def cut? (cs : Chars) (m n : Nat) : Option (List Char) :=
  if m ≤ n then
    match takeBytes? m cs.toList, takeBytes? n cs.toList with
    | some before, some upto => some (upto.drop before.length)
    | _, _ => none
  else none

theorem takeBytes?_append (as ds : List Char) :
    takeBytes? (Text.byteLength as) (as ++ ds) = some as := by
  induction as with
  | nil =>
    have hnil : Text.byteLength [] = 0 := rfl
    rw [hnil, takeBytes?]
  | cons a as ih =>
    have hpos := a.utf8Size_pos
    obtain ⟨n, hn⟩ : ∃ n, Text.byteLength (a :: as) = n + 1 :=
      Nat.exists_eq_add_one.mpr (by rw [Text.byteLength_cons]; omega)
    have hrest : n + 1 - a.utf8Size = Text.byteLength as := by
      rw [← hn, Text.byteLength_cons, Nat.add_sub_cancel_left]
    rw [hn, List.cons_append, takeBytes?, if_pos (by rw [← hn, Text.byteLength_cons]; omega),
      hrest, ih, Option.map_some]

theorem takeBytes?_offset (h : i ≤ cs.size) :
    takeBytes? (offset cs i) cs.toList = some (cs.toList.take i) := by
  have hoffset : offset cs i = Text.byteLength (cs.toList.take i) := by rw [offset]; omega
  rw [hoffset]
  exact (congrArg _ (List.take_append_drop i cs.toList).symm).trans (takeBytes?_append _ _)

/-- Between positions every cut succeeds. -/
theorem cut?_offset (hij : i ≤ j) (hj : j ≤ cs.size) :
    cut? cs (offset cs i) (offset cs j) = some (Scan.slice cs i j) := by
  rw [cut?, if_pos (offset_le_iff.mpr hij), takeBytes?_offset (Nat.le_trans hij hj),
    takeBytes?_offset hj]
  simp [Scan.slice, Nat.min_eq_left (Nat.le_trans hij hj), List.drop_take]

theorem eq_byteLength_of_takeBytes? {n : Nat} {ds text : List Char}
    (h : takeBytes? n ds = some text) : n = Text.byteLength text ∧ text <+: ds := by
  fun_induction takeBytes? n ds generalizing text with
  | case1 =>
    cases h
    exact ⟨rfl, List.nil_prefix⟩
  | case2 => cases h
  | case3 n c ds hle ih =>
    obtain ⟨text, htext, rfl⟩ := Option.map_eq_some_iff.mp h
    obtain ⟨hn, hprefix⟩ := ih htext
    exact ⟨by rw [Text.byteLength_cons]; omega, List.cons_prefix_cons.mpr ⟨rfl, hprefix⟩⟩
  | case4 => cases h

/-- Only at places between characters text is taken. -/
theorem exists_offset_of_takeBytes? {n : Nat} {text : List Char}
    (h : takeBytes? n cs.toList = some text) :
    ∃ i, i ≤ cs.size ∧ n = offset cs i ∧ text = cs.toList.take i := by
  obtain ⟨hn, hprefix⟩ := eq_byteLength_of_takeBytes? h
  have hlength : text.length ≤ cs.size := hprefix.length_le
  have htake := List.prefix_iff_eq_take.mp hprefix
  refine ⟨text.length, hlength, ?_, htake⟩
  rw [offset, ← htake, hn, Nat.sub_eq_zero_of_le hlength, Nat.add_zero]

/-- A cut succeeds between places between characters, in order and within the text, and nowhere
else. -/
theorem cut?_eq_some_iff {m n : Nat} {text : List Char} :
    cut? cs m n = some text ↔ ∃ i j, i ≤ j ∧ j ≤ cs.size ∧ m = offset cs i ∧ n = offset cs j ∧
      text = Scan.slice cs i j := by
  refine ⟨fun h => ?_, ?_⟩
  · unfold cut? at h
    split at h
    · rename_i hle
      split at h
      · rename_i before upto hbefore hupto
        obtain ⟨i, hi, rfl, rfl⟩ := exists_offset_of_takeBytes? hbefore
        obtain ⟨j, hj, rfl, rfl⟩ := exists_offset_of_takeBytes? hupto
        have hij := offset_le_iff.mp hle
        refine ⟨i, j, hij, hj, rfl, rfl, ?_⟩
        have hcut := cut?_offset hij hj
        rw [cut?, if_pos hle, hbefore, hupto] at hcut
        exact (Option.some.inj h).symm.trans (Option.some.inj hcut)
      · cases h
    · cases h
  · rintro ⟨i, j, hij, hj, rfl, rfl, rfl⟩
    exact cut?_offset hij hj

end Utf8
end Source
end Restyle
