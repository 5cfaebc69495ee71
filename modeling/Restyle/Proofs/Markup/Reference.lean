import Restyle.Markup.Entity
import Restyle.Proofs.Text.Delimited
import Restyle.Proofs.Source.Bytes.Offset

/-!
# Restyle.Proofs.Markup.Reference

The grammar of character references, and decoding held to it. A reference is `&`, a name of a
character and `;`, which is no more than ten bytes after the `&`. A character has a name of its own
or that of its number, in decimal digits or in hexadecimal digits after an `x` (`Entity.Names`).

Decoding replaces these references from left to right and leaves all else as written, with one
exception: it reads a number with a plus sign before its digits as well. So a text is decoded by the
grammar exactly if it has no such reference (`decodeEntities_decoded_iff`).
-/

namespace Restyle

theorem Text.scalar?_eq_some_iff {n : Nat} {c : Char} : scalar? n = some c ↔ n = c.toNat := by
  constructor
  · intro h
    obtain ⟨hvalid, hc⟩ := Option.dite_none_right_eq_some.mp h
    cases hc
    rfl
  · rintro rfl
    exact Json.scalar?_toNat c

namespace Markup
namespace Entity

/-- Names of characters other than their numbers. -/
def named : List (String × Char) :=
  [("amp", '&'), ("lt", '<'), ("gt", '>'), ("quot", '"'), ("apos", '\''), ("nbsp", '\u00a0')]

/-- The number of a character, behind a sign. -/
inductive Number (sign : List Char) : List Char → Char → Prop where
  | decimal {ds : List Char} {c : Char} (ne_nil : ds ≠ []) (digits : ∀ d ∈ ds, d.isDigit = true)
      (code : Text.decimal ds = c.toNat) : Number sign ('#' :: (sign ++ ds)) c
  | hexadecimal {x : Char} {ds : List Char} {c : Char} (mark : x = 'x' ∨ x = 'X')
      (ne_nil : ds ≠ []) (digits : ∀ d ∈ ds, Text.isHexDigit d = true)
      (code : Text.hexadecimal ds = c.toNat) : Number sign ('#' :: x :: (sign ++ ds)) c

/-- The names of a character by the grammar. -/
def Names (name : List Char) (c : Char) : Prop :=
  (String.ofList name, c) ∈ named ∨ Number [] name c

/-- A number with a plus sign, which is no name. -/
def Signed : List Char → Char → Prop := Number ['+']

/-- What decoding takes for a name. -/
def Taken (name : List Char) (c : Char) : Prop := Names name c ∨ Signed name c

/-- The text begins with a reference to a character by one of the names; the `;` is at most ten
bytes after the `&`. -/
def Reference (names : List Char → Char → Prop) (cs : List Char) (c : Char) (rest : List Char) :
    Prop :=
  ∃ name, cs = '&' :: (name ++ ';' :: rest) ∧ names name c ∧ Text.byteLength ('&' :: name) ≤ 10

/-- The references of a text replaced from left to right, and all else as written. -/
inductive Decoded (names : List Char → Char → Prop) : List Char → List Char → Prop where
  | nil : Decoded names [] []
  | reference {cs rest out : List Char} {c : Char} : Reference names cs c rest →
      Decoded names rest out → Decoded names cs (c :: out)
  | character {x : Char} {rest out : List Char} :
      (∀ c after, ¬ Reference names (x :: rest) c after) →
      Decoded names rest out → Decoded names (x :: rest) (x :: out)

variable {c x : Char} {n : Nat} {sign name cs rest out : List Char}
  {names names' : List Char → Char → Prop}

/-! ## Names -/

section Numbers

variable {digit : Char → Bool} {value : List Char → Nat}

theorem number?_eq_some_iff (hplus : digit '+' = false) : number? digit value cs = some n ↔
    ∃ sign ds, (sign = [] ∨ sign = ['+']) ∧ cs = sign ++ ds ∧ ds ≠ [] ∧
      (∀ d ∈ ds, digit d = true) ∧ value ds = n := by
  have hdigits : ∀ ds : List Char, (if !ds.isEmpty && ds.all digit then some (value ds) else none) =
      some n ↔ ds ≠ [] ∧ (∀ d ∈ ds, digit d = true) ∧ value ds = n := by
    intro ds
    simp [and_assoc]
  unfold number?
  dsimp only
  rw [hdigits]
  constructor
  · intro h
    split at h
    · rename_i rest
      exact ⟨['+'], rest, .inr rfl, rfl, h⟩
    · exact ⟨[], cs, .inl rfl, rfl, h⟩
  · rintro ⟨sign, ds, rfl | rfl, rfl, h⟩
    · split
      · -- digits do not begin with a sign
        cases hplus.symm.trans (h.2.1 '+' (List.mem_cons_self ..))
      · exact h
    · exact h

theorem scalar_number?_iff (hplus : digit '+' = false) :
    (number? digit value cs).bind Text.scalar? = some c ↔
      ∃ sign ds, (sign = [] ∨ sign = ['+']) ∧ cs = sign ++ ds ∧ ds ≠ [] ∧
        (∀ d ∈ ds, digit d = true) ∧ value ds = c.toNat := by
  simp only [Option.bind_eq_some_iff, Text.scalar?_eq_some_iff, exists_eq_right,
    number?_eq_some_iff hplus]

end Numbers

theorem ofName?_hexadecimal (h : x = 'x' ∨ x = 'X') (cs : List Char) : ofName? ('#' :: x :: cs) =
    (number? Text.isHexDigit Text.hexadecimal cs).bind Text.scalar? := by
  rcases h with rfl | rfl <;> rfl

theorem ofName?_decimal (h : ∀ x ∈ cs.head?, x ≠ 'x' ∧ x ≠ 'X') : ofName? ('#' :: cs) =
    (number? Char.isDigit Text.decimal cs).bind Text.scalar? := by
  unfold ofName?
  split <;> simp_all

theorem ofName?_of_number (hsign : sign = [] ∨ sign = ['+']) (h : Number sign name c) :
    ofName? name = some c := by
  cases h with
  | @decimal ds c hne hdigits hcode =>
    rw [ofName?_decimal, scalar_number?_iff rfl]
    · exact ⟨sign, ds, hsign, rfl, hne, hdigits, hcode⟩
    · intro x hx
      have hmem : x = '+' ∨ x.isDigit = true := by
        rcases hsign with rfl | rfl
        · exact .inr (hdigits x (List.mem_of_mem_head? hx))
        · exact .inl (by simpa [eq_comm] using hx)
      constructor <;> (rintro rfl; revert hmem; decide)
  | @hexadecimal x ds c hmark hne hdigits hcode =>
    rw [ofName?_hexadecimal hmark, scalar_number?_iff rfl]
    exact ⟨sign, ds, hsign, rfl, hne, hdigits, hcode⟩

theorem exists_named (h : (String.ofList name, c) ∈ named) :
    ∃ s, (s, c) ∈ named ∧ name = s.toList :=
  ⟨_, h, String.toList_ofList.symm⟩

theorem ofName?_of_named (h : (String.ofList name, c) ∈ named) : ofName? name = some c := by
  obtain ⟨s, hs, rfl⟩ := exists_named h
  simp only [named, List.mem_cons, List.not_mem_nil, or_false, Prod.mk.injEq] at hs
  rcases hs with ⟨rfl, rfl⟩ | ⟨rfl, rfl⟩ | ⟨rfl, rfl⟩ | ⟨rfl, rfl⟩ | ⟨rfl, rfl⟩ | ⟨rfl, rfl⟩ <;> rfl

theorem taken_of_number (hsign : sign = [] ∨ sign = ['+']) (h : Number sign name c) :
    Taken name c := by
  rcases hsign with rfl | rfl
  · exact .inl (.inr h)
  · exact .inr h

/-- Decoding takes names, and numbers with a plus sign, for a character. -/
theorem ofName?_eq_some_iff : ofName? name = some c ↔ Taken name c := by
  constructor
  · intro h
    unfold ofName? at h
    split at h
    case h_7 =>
      obtain ⟨sign, ds, hsign, rfl, hne, hdigits, hcode⟩ := (scalar_number?_iff rfl).mp h
      exact taken_of_number hsign (.hexadecimal (.inl rfl) hne hdigits hcode)
    case h_8 =>
      obtain ⟨sign, ds, hsign, rfl, hne, hdigits, hcode⟩ := (scalar_number?_iff rfl).mp h
      exact taken_of_number hsign (.hexadecimal (.inr rfl) hne hdigits hcode)
    case h_9 =>
      obtain ⟨sign, ds, hsign, rfl, hne, hdigits, hcode⟩ := (scalar_number?_iff rfl).mp h
      exact taken_of_number hsign (.decimal hne hdigits hcode)
    case h_10 => cases h
    all_goals
      cases h
      exact .inl (.inl (by decide))
  · rintro ((hnamed | hnumber) | hsigned)
    · exact ofName?_of_named hnamed
    · exact ofName?_of_number (.inl rfl) hnumber
    · exact ofName?_of_number (.inr rfl) hsigned

/-! ## References -/

theorem isHexDigit_of_isDigit {d : Char} (h : d.isDigit = true) : Text.isHexDigit d = true := by
  simp [Text.isHexDigit, h]

/-- The characters of a number. -/
theorem Number.mem {d : Char} (h : Number sign name c) (hd : d ∈ name) :
    d ∈ sign ∨ d ∈ ['#', 'x', 'X'] ∨ Text.isHexDigit d = true := by
  cases h with
  | decimal hne hdigits hcode =>
    rcases List.mem_cons.mp hd with rfl | hd
    · simp
    · rcases List.mem_append.mp hd with hd | hd
      · exact .inl hd
      · exact .inr (.inr (isHexDigit_of_isDigit (hdigits d hd)))
  | hexadecimal hmark hne hdigits hcode =>
    rcases List.mem_cons.mp hd with rfl | hd
    · simp
    · rcases List.mem_cons.mp hd with rfl | hd
      · rcases hmark with rfl | rfl <;> simp
      · rcases List.mem_append.mp hd with hd | hd
        · exact .inl hd
        · exact .inr (.inr (hdigits d hd))

/-- The marks of references do not occur within names. -/
theorem Taken.ne {d : Char} (h : Taken name c) (hd : d ∈ name) : d ≠ ';' ∧ d ≠ '&' := by
  have hnumber : ∀ sign, sign = [] ∨ sign = ['+'] → Number sign name c → d ≠ ';' ∧ d ≠ '&' := by
    intro sign hsign hnumber
    have hmem := hnumber.mem hd
    constructor <;> (rintro rfl; rcases hsign with rfl | rfl <;> revert hmem <;> decide)
  rcases h with (hnamed | h) | h
  · obtain ⟨s, hs, rfl⟩ := exists_named hnamed
    have hclear : named.all (·.1.toList.all fun d => d != ';' && d != '&') = true := by decide
    simpa using List.all_eq_true.mp (List.all_eq_true.mp hclear _ hs) d hd
  · exact hnumber [] (.inl rfl) h
  · exact hnumber ['+'] (.inr rfl) h

theorem Reference.head (h : Reference names (x :: cs) c rest) : x = '&' := by
  obtain ⟨name, heq, -⟩ := h
  exact (List.cons.inj heq).1

theorem reference_taken_iff : Reference Taken cs c rest ↔
    Reference Names cs c rest ∨ Reference Signed cs c rest := by
  simp only [Reference, Taken, or_and_right, and_or_left, exists_or]

theorem reference?_eq_some_iff :
    reference? cs = some (c, rest) ↔ Reference Taken ('&' :: cs) c rest := by
  have hcut : cs.takeWhile (· != ';') ++ cs.dropWhile (· != ';') = cs :=
    List.takeWhile_append_dropWhile
  have hmark := List.head?_dropWhile_not (· != ';') cs
  constructor
  · intro h
    unfold reference? at h
    dsimp only at h
    split at h
    · cases h
    · rename_i d after hdrop
      obtain rfl : d = ';' := by simpa [hdrop] using hmark
      split at h
      · rename_i hnear
        obtain ⟨c, hname, heq⟩ := Option.map_eq_some_iff.mp h
        cases heq
        refine ⟨cs.takeWhile (· != ';'), by rw [← hdrop, hcut], ofName?_eq_some_iff.mp hname, ?_⟩
        rw [Text.byteLength_cons]
        exact Nat.add_le_add_left hnear 1
      · cases h
  · rintro ⟨name, heq, htaken, hnear⟩
    obtain ⟨-, rfl⟩ := List.cons.inj heq
    have hname : ∀ d ∈ name, (d != ';') = true := fun d hd => by simpa using (htaken.ne hd).1
    rw [Text.byteLength_cons] at hnear
    have hlimit : Text.byteLength name ≤ nameLimit := Nat.le_of_add_le_add_left hnear
    unfold reference?
    rw [List.takeWhile_append_of_pos hname, List.dropWhile_append_of_pos hname]
    simp [hlimit, ofName?_eq_some_iff.mpr htaken]

/-! ## Decoding -/

theorem decode_cons_of_ne (h : x ≠ '&') (cs : List Char) : decode (x :: cs) = x :: decode cs := by
  rw [decode, if_neg (by simpa using h)]

theorem decode_append_of_clear (h : ∀ d ∈ name, d ≠ '&') (cs : List Char) :
    decode (name ++ cs) = name ++ decode cs := by
  induction name with
  | nil => rfl
  | cons d name ih =>
    obtain ⟨hd, hname⟩ := List.forall_mem_cons.mp h
    rw [List.cons_append, decode_cons_of_ne hd, ih hname, List.cons_append]

theorem decode_of_reference (h : Reference Taken cs c rest) : decode cs = c :: decode rest := by
  obtain ⟨after, rfl⟩ : ∃ after, cs = '&' :: after := by
    obtain ⟨name, rfl, -⟩ := h
    exact ⟨_, rfl⟩
  have hread := reference?_eq_some_iff.mpr h
  rw [decode, if_pos (beq_self_eq_true _)]
  split
  · rename_i heq
    cases hread.symm.trans heq
    rfl
  · rename_i heq
    cases hread.symm.trans heq

theorem decode_cons_of_not_reference (h : ∀ c after, ¬ Reference Taken (x :: rest) c after) :
    decode (x :: rest) = x :: decode rest := by
  by_cases hx : x = '&'
  · subst hx
    rw [decode, if_pos (beq_self_eq_true _)]
    split
    · rename_i hread
      exact absurd (reference?_eq_some_iff.mp hread) (h _ _)
    · rfl
  · exact decode_cons_of_ne hx rest

/-- Decoding replaces what it takes for references, and nothing else. -/
theorem decoded_decode (cs : List Char) : Decoded Taken cs (decode cs) := by
  fun_induction decode cs with
  | case1 => exact .nil
  | case2 x rest hx c after hread _ ih =>
    obtain rfl := beq_iff_eq.mp hx
    exact .reference (reference?_eq_some_iff.mp hread) ih
  | case3 x rest hx hread ih =>
    obtain rfl := beq_iff_eq.mp hx
    refine .character (fun c after h => ?_) ih
    rw [← reference?_eq_some_iff, hread] at h
    cases h
  | case4 x rest hx ih =>
    exact .character (fun c after h => hx (beq_iff_eq.mpr h.head)) ih

/-- The references that are taken leave no choice. -/
theorem decoded_taken_iff : Decoded Taken cs out ↔ out = decode cs := by
  constructor
  · intro h
    induction h with
    | nil => rw [decode]
    | reference href _ ih => rw [decode_of_reference href, ih]
    | character hno _ ih => rw [decode_cons_of_not_reference hno, ih]
  · rintro rfl
    exact decoded_decode cs

/-! ## Numbers with a plus sign -/

/-- The text refers to a character by a number with a plus sign. -/
def HasSigned (cs : List Char) : Prop :=
  ∃ after c rest, after <:+ cs ∧ Reference Signed after c rest

theorem hasSigned_cons : HasSigned (x :: cs) ↔
    (∃ c rest, Reference Signed (x :: cs) c rest) ∨ HasSigned cs := by
  constructor
  · rintro ⟨after, c, rest, hsuffix, h⟩
    rcases List.suffix_cons_iff.mp hsuffix with rfl | hsuffix
    · exact .inl ⟨c, rest, h⟩
    · exact .inr ⟨after, c, rest, hsuffix, h⟩
  · rintro (⟨c, rest, h⟩ | ⟨after, c, rest, hsuffix, h⟩)
    · exact ⟨_, c, rest, List.suffix_refl _, h⟩
    · exact ⟨after, c, rest, hsuffix.trans (List.suffix_cons x cs), h⟩

theorem not_hasSigned_nil : ¬ HasSigned [] := by
  rintro ⟨after, c, rest, hsuffix, name, rfl, -⟩
  cases List.suffix_nil.mp hsuffix

/-- No reference begins where there is no `&`. -/
theorem HasSigned.of_append (hname : ∀ d ∈ name, d ≠ '&') (h : HasSigned (name ++ cs)) :
    HasSigned cs := by
  induction name with
  | nil => exact h
  | cons d name ih =>
    obtain ⟨hd, hname⟩ := List.forall_mem_cons.mp hname
    rcases hasSigned_cons.mp h with ⟨c, rest, href⟩ | h
    · exact absurd href.head hd
    · exact ih hname h

/-- No name has a plus sign. -/
theorem not_signed_of_names (h : Names name c) {d : Char} : ¬ Signed name d := by
  intro hsigned
  have hplus : '+' ∈ name := by cases hsigned <;> simp
  rcases h with hnamed | hnumber
  · obtain ⟨s, hs, rfl⟩ := exists_named hnamed
    have hclear : ∀ e ∈ named, '+' ∉ e.1.toList := by decide
    exact hclear _ hs hplus
  · have hmem := hnumber.mem hplus
    revert hmem
    decide

/-- A text begins with one reference at most. -/
theorem Reference.not_signed (h : Reference Names cs c rest) {d : Char} {rest' : List Char} :
    ¬ Reference Signed cs d rest' := by
  rintro ⟨name', heq', hsigned, -⟩
  obtain ⟨name, rfl, hnamed, -⟩ := h
  have hends : Text.Delimited (fun name : List Char => ';' ∉ name) fun name => name ++ [';'] :=
    .upTo (fun _ _ _ _ h => h) fun _ h => h
  have hclear : ∀ {name c}, Taken name c → ';' ∉ name := fun h hmem => (h.ne hmem).1 rfl
  obtain ⟨rfl, -⟩ := hends name name' rest rest' (hclear (.inl hnamed)) (hclear (.inr hsigned))
    (by simpa using heq')
  exact not_signed_of_names hnamed hsigned

theorem Reference.suffix (h : Reference names cs c rest) : rest <:+ cs := by
  obtain ⟨name, rfl, -⟩ := h
  exact ⟨'&' :: (name ++ [';']), by simp⟩

/-- Within a reference of the grammar there is no other. -/
theorem Reference.hasSigned_rest (h : Reference Names cs c rest) (hcs : HasSigned cs) :
    HasSigned rest := by
  have hstart : ¬ ∃ d rest', Reference Signed cs d rest' := fun ⟨_, _, href⟩ => h.not_signed href
  obtain ⟨name, rfl, hnamed, -⟩ := h
  have hclear : ∀ d ∈ name, d ≠ '&' := fun d hd => (Taken.ne (.inl hnamed) hd).2
  have hname := (hasSigned_cons.mp hcs).resolve_left hstart
  refine (hasSigned_cons.mp (hname.of_append hclear)).resolve_left ?_
  rintro ⟨d, rest', href⟩
  cases href.head

/-- Where nothing else is taken for a name, texts are decoded by the grammar. -/
theorem Decoded.of_taken (h : Decoded Taken cs out) (hcs : ¬ HasSigned cs) :
    Decoded Names cs out := by
  induction h with
  | nil => exact .nil
  | @reference cs rest out c href _ ih =>
    have hnames : Reference Names cs c rest := by
      refine (reference_taken_iff.mp href).resolve_right fun hsigned => hcs ?_
      exact ⟨cs, c, rest, List.suffix_refl cs, hsigned⟩
    refine .reference hnames (ih ?_)
    rintro ⟨after, d, rest', hsuffix, hsigned⟩
    exact hcs ⟨after, d, rest', hsuffix.trans hnames.suffix, hsigned⟩
  | character hno _ ih =>
    refine .character (fun c after h => hno c after (reference_taken_iff.mpr (.inl h))) (ih ?_)
    exact fun h => hcs (hasSigned_cons.mpr (.inr h))

/-- By the grammar a number with a plus sign stays as written, and the text is longer then than the
decoded one. -/
theorem Decoded.length_decode (h : Decoded Names cs out) :
    (decode cs).length ≤ out.length ∧ (HasSigned cs → (decode cs).length < out.length) := by
  induction h with
  | nil => exact ⟨by simp [decode], fun h => absurd h not_hasSigned_nil⟩
  | reference href _ ih =>
    rw [decode_of_reference (reference_taken_iff.mpr (.inl href))]
    exact ⟨Nat.succ_le_succ ih.1, fun h => Nat.succ_lt_succ (ih.2 (href.hasSigned_rest h))⟩
  | @character x rest out hno _ ih =>
    by_cases hsigned : ∃ c after, Reference Signed (x :: rest) c after
    · obtain ⟨c, after, href⟩ := hsigned
      suffices hlt : (decode (x :: rest)).length < (x :: out).length from
        ⟨Nat.le_of_lt hlt, fun _ => hlt⟩
      rw [decode_of_reference (reference_taken_iff.mpr (.inr href))]
      -- the characters of the reference stay when only its `&` is passed over
      obtain ⟨name, heq, hname, -⟩ := href
      have hclear : ∀ d ∈ name, d ≠ '&' := fun d hd => (Taken.ne (.inr hname) hd).2
      have hle := ih.1
      rw [(List.cons.inj heq).2, decode_append_of_clear hclear, decode_cons_of_ne (by decide)] at hle
      simp only [List.length_append, List.length_cons] at hle ⊢
      omega
    · have hplain : decode (x :: rest) = x :: decode rest := by
        refine decode_cons_of_not_reference fun c after h => ?_
        exact (reference_taken_iff.mp h).elim (hno c after) fun h => hsigned ⟨c, after, h⟩
      rw [hplain]
      refine ⟨Nat.succ_le_succ ih.1, fun h => Nat.succ_lt_succ (ih.2 ?_)⟩
      exact (hasSigned_cons.mp h).resolve_left hsigned

theorem decoded_names_iff (cs : List Char) : Decoded Names cs (decode cs) ↔ ¬ HasSigned cs := by
  constructor
  · intro h hsigned
    exact Nat.lt_irrefl _ (h.length_decode.2 hsigned)
  · exact (decoded_decode cs).of_taken

end Entity

open Entity

theorem toList_decodeEntities (s : String) : (decodeEntities s).toList = decode s.toList :=
  String.toList_ofList

/-- **Decoding by the grammar of references.** A text is decoded by replacing each reference in it,
from left to right, and nothing else, where besides the names of the grammar numbers with a plus
sign are taken for names. So a text is decoded by the grammar exactly if it has no reference to
such a number. -/
theorem decodeEntities_decoded_iff (s : String) :
    (∀ out, Decoded Taken s.toList out ↔ out = (decodeEntities s).toList) ∧
      (Decoded Names s.toList (decodeEntities s).toList ↔ ¬ HasSigned s.toList) := by
  rw [toList_decodeEntities]
  exact ⟨fun _ => decoded_taken_iff, decoded_names_iff s.toList⟩

/-- A number with a plus sign is replaced, which the grammar leaves as written. -/
theorem signed_number_replaced :
    decodeEntities "&#+65;" = "A" ∧
      ¬ Decoded Names "&#+65;".toList (decodeEntities "&#+65;").toList := by
  have hnumber : Signed ['#', '+', '6', '5'] 'A' :=
    .decimal (List.cons_ne_nil '6' ['5']) (List.all_eq_true.mp (by decide)) (by decide)
  have href : Reference Signed "&#+65;".toList 'A' [] := ⟨_, rfl, hnumber, by decide⟩
  refine ⟨by decide +kernel, fun h => ?_⟩
  rw [toList_decodeEntities] at h
  exact (decoded_names_iff _).mp h ⟨_, 'A', [], List.suffix_refl _, href⟩

end Markup
end Restyle
