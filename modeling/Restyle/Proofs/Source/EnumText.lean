import Restyle.Proofs.Script.Flags
import Restyle.Proofs.Source.Copied
import Restyle.Proofs.Source.Literal
import Restyle.Proofs.Source.Pieces
import Restyle.Proofs.Source.StyleLiteral

/-!
# Restyle.Proofs.Source.EnumText

How the members of an enum are written, and what is read of such a text: the key of each member, and
its initializer without the blanks around it. A source that is one such enum is lowered to what is
written for its members (`lower_enum`).
-/

namespace Restyle
namespace Source
namespace Enum

open Scan Listing
open Script (Flags IsQuoted IsNumeral IsAsciiName StringBody Utf16)

variable {c mark quote : Char} {cs raw gap gap' inner : List Char} {name text : Utf16}

/-! ## Members -/

/-- The value that is written for a member. -/
inductive Initializer where
  | integer (n : Int)
  | string (s : Utf16)
  | flags (e : Flags)

/-- A member of an enum. -/
structure Member where
  name : Utf16
  initializer : Option Initializer

/-- How the name of a member is written: as it is, or as a string. -/
inductive IsKey : List Char → Utf16 → Prop where
  | plain {x : String} (h : IsAsciiName x.toList) : IsKey x.toList (.whole x)
  | quoted {quote : Char} {inner : List Char} {name : Utf16} (h : IsQuoted quote inner name) :
      IsKey (quote :: inner) name

/-- How an initializer is written. Integers are safe ones, and expressions of flags are more than a
number and its sign. -/
inductive Initializer.IsWritten : List Char → Initializer → Prop where
  | integer {ds : List Char} (hds : IsNumeral ds) (hsafe : Text.decimal ds < 2 ^ 53) :
      IsWritten ds (.integer (Text.decimal ds))
  | negative {ds : List Char} (hds : IsNumeral ds) (hsafe : Text.decimal ds < 2 ^ 53) :
      IsWritten ('-' :: ds) (.integer (-(Text.decimal ds)))
  | string {quote : Char} {inner : List Char} {s : Utf16} (h : IsQuoted quote inner s) :
      IsWritten (quote :: inner) (.string s)
  | flags {cs : List Char} {e : Flags} (h : Flags.IsWritten 1 cs e) (htrim : trimmed cs = cs)
      (hmore : ∃ c ∈ cs, c ≠ '-' ∧ c.isDigit = false) : IsWritten cs (.flags e)

/-- How a member is written. -/
inductive Member.IsWritten : List Char → Member → Prop where
  | plain {front raw back : List Char} {name : Utf16} (hfront : IsBlanks front) (hkey : IsKey raw name)
      (hback : IsBlanks back) : IsWritten (front ++ (raw ++ back)) ⟨name, none⟩
  | initialized {front raw back front' cs back' : List Char} {name : Utf16} {i : Initializer}
      (hfront : IsBlanks front) (hkey : IsKey raw name) (hback : IsBlanks back) (hfront' : IsBlanks front')
      (hi : i.IsWritten cs) (hback' : IsBlanks back') :
      IsWritten (front ++ (raw ++ (back ++ '=' :: (front' ++ (cs ++ back'))))) ⟨name, some i⟩

/-- The pieces between commas are members; behind the last comma there may be none. -/
inductive AreWritten : List (List Char) → List Member → Prop where
  | blank {gap : List Char} (hgap : IsBlanks gap) : AreWritten [gap] []
  | last {p : List Char} {m : Member} (hm : m.IsWritten p) : AreWritten [p] [m]
  | cons {p : List Char} {ps : List (List Char)} {m : Member} {ms : List Member} (hm : m.IsWritten p)
      (hms : AreWritten ps ms) : AreWritten (p :: ps) (m :: ms)

/-- The text of an enum, with comments of such characters where blanks may be. -/
def IsBody (inside : Char → Bool) (cs : List Char) (ms : List Member) : Prop :=
  ∃ t ps, Uncommented inside cs t ∧ t = [','].intercalate ps ∧ AreWritten ps ms

/-! ## Characters that part nothing -/

/-- Characters that part the text of an enum, or count when it is parted. -/
def parting : List Char := ['\'', '"', '\x60', '(', '[', '{', ')', ']', '}', ',', '=']

/-- The marks that part the members, and their names from their initializers. -/
def partingMarks : List Char := [',', '=']

theorem flat_of_forall (h : ∀ c ∈ cs, c ∉ parting) : Flat partingMarks cs := by
  refine .of_forall fun c hc => ?_
  have hnot := h c hc
  simp only [parting, List.mem_cons, List.not_mem_nil, or_false, not_or] at hnot
  exact ⟨by simp [isQuiet, isQuoteMark, isOpening, isClosing, hnot], by simp [partingMarks, hnot]⟩

theorem flat_blanks (hgap : IsBlanks gap) : Flat partingMarks gap :=
  flat_of_forall fun c hc => not_mem_of_class (p := Text.isBlank) (by decide) (hgap c hc)

theorem flat_gap (hgap : Script.IsGap gap) : Flat partingMarks gap :=
  flat_of_forall fun c hc =>
    not_mem_of_class (p := fun c => Script.isLineEnd c || Utf16.isSpace c) (by decide)
      (Bool.or_eq_true_iff.mpr (hgap c hc))

theorem flat_minus : Flat partingMarks ['-'] :=
  flat_of_forall fun c hc => by
    rw [List.mem_singleton.mp hc]
    decide

theorem flat_operator (o : Script.FlagOp) : Flat partingMarks o.mark.toList := by
  have hclass : ∀ c ∈ o.mark.toList, ['+', '|', '<'].contains c = true := by
    rw [← List.all_eq_true]
    cases o <;> rfl
  exact flat_of_forall fun c hc => not_mem_of_class (p := fun c => ['+', '|', '<'].contains c) (by decide) (hclass c hc)

theorem flat_numeral (hds : IsNumeral cs) : Flat partingMarks cs :=
  flat_of_forall fun c hc =>
    not_mem_of_class (p := Char.isDigit) (by decide) (List.all_eq_true.mp hds.2.1 c hc)

theorem IsAsciiName.all {cs : List Char} (h : IsAsciiName cs) : ∀ c ∈ cs, isNamePart c = true := by
  obtain ⟨c, rest, rfl, hc, hrest⟩ := h
  exact List.forall_mem_cons.mpr ⟨isNamePart_of_isNameStart hc, List.all_eq_true.mp hrest⟩

theorem flat_name (h : IsAsciiName cs) : Flat partingMarks cs :=
  flat_of_forall fun c hc => not_mem_of_class (p := isNamePart) (by decide) (IsAsciiName.all h c hc)

theorem flat_quoted (h : IsQuoted quote inner text) : Flat partingMarks (quote :: inner) :=
  .string h.isMark h.stringBody

theorem flat_flags {l : Nat} {e : Flags} (h : Flags.IsWritten l cs e) :
    Flat partingMarks cs := by
  induction h with
  | number l hgap hds => exact (flat_gap hgap).append (flat_numeral hds)
  | negative l hgap hgap' hds =>
    have hminus : Flat partingMarks ['-'] := flat_minus
    exact (flat_gap hgap).append (hminus.append ((flat_gap hgap').append (flat_numeral hds)))
  | name l hgap hx hv => exact (flat_gap hgap).append (flat_name hx)
  | group l hgap he hgap' ih =>
    have hgroup := (flat_gap hgap).append (ih.append (flat_gap hgap')).parentheses
    simpa using hgroup
  | binary o ha hgap hb iha ihb =>
    have ho : Flat partingMarks o.mark.toList := flat_operator o
    exact iha.append ((flat_gap hgap).append (ho.append ihb))
  | weaken hl he ih => exact ih

/-! ## Keys -/

theorem literalChar_of_isNamePart (hc : isNamePart c = true) : literalChar c = [c] := by
  have hascii : ∀ n < 128, isNamePart (Char.ofNat n) = true → literalChar (Char.ofNat n) = [Char.ofNat n] := by
    decide +kernel
  have hkept := hascii c.toNat (Utf8.asciiClass_isNamePart c hc)
  rw [Char.ofNat_toNat] at hkept
  exact hkept hc

theorem flatMap_literalChar (h : ∀ c ∈ cs, isNamePart c = true) : cs.flatMap literalChar = cs := by
  induction cs with
  | nil => rfl
  | cons c cs ih =>
    obtain ⟨hc, hcs⟩ := List.forall_mem_cons.mp h
    rw [List.flatMap_cons, literalChar_of_isNamePart hc, ih hcs]
    rfl

theorem hasZeroDigit_of_forall (h : ∀ c ∈ cs, isNamePart c = true) : hasZeroDigit cs = false := by
  induction cs with
  | nil => rfl
  | cons c cs ih =>
    obtain ⟨hc, hcs⟩ := List.forall_mem_cons.mp h
    have hzero : (c == '\x00') = false := by
      rw [beq_eq_false_iff_ne]
      rintro rfl
      exact absurd hc (by decide)
    rw [hasZeroDigit_cons, hzero, ih hcs]
    rfl

/-- A name is a string between quotation marks. -/
theorem isQuoted_name (h : IsAsciiName raw) :
    stringLiteral raw = '"' :: (raw ++ ['"']) ∧ IsQuoted '"' (raw ++ ['"']) (.whole (String.ofList raw)) := by
  have hall := IsAsciiName.all h
  have hself := flatMap_literalChar hall
  have hread : Script.readString '"' (raw ++ ['"']).length (raw.flatMap literalChar ++ ['"']) [] true = _ :=
    readString_flatMap (by simp) (hasZeroDigit_of_forall hall)
  rw [hself] at hread
  refine ⟨by rw [stringLiteral, hself]; rfl, .inl rfl, ?_, _, _, hread, ?_⟩
  · rw [List.mem_append, List.mem_singleton, not_or]
    refine ⟨fun hmem => ?_, by decide⟩
    exact absurd (hall _ hmem) (by decide)
  · exact Utf16.ofUnits_flatMap raw

/-- A key is kept as the literal of the member's name. -/
theorem IsKey.exists_literal (h : IsKey raw name) :
    ∃ quote inner, key? raw = some (quote :: inner) ∧ IsQuoted quote inner name := by
  cases h with
  | @plain x h =>
    obtain ⟨htext, hquoted⟩ := isQuoted_name h
    rw [String.ofList_toList] at hquoted
    refine ⟨_, _, ?_, hquoted⟩
    have hall := IsAsciiName.all h
    generalize x.toList = raw at h htext hall ⊢
    obtain ⟨c, rest, rfl, -⟩ := h
    have hc := hall c (List.mem_cons_self ..)
    have hdouble : (c == '"') = false := by
      rw [beq_eq_false_iff_ne]
      rintro rfl
      exact absurd hc (by decide)
    have hsingle : (c == '\'') = false := by
      rw [beq_eq_false_iff_ne]
      rintro rfl
      exact absurd hc (by decide)
    rw [key?, htext, List.all_eq_true.mpr hall]
    simp [hdouble, hsingle]
  | @quoted quote inner name h =>
    refine ⟨quote, inner, ?_, h⟩
    have hmark : (quote == '"' || quote == '\'') = true := by rcases h.isMark with rfl | rfl <;> rfl
    rw [key?, List.head?_cons, Option.any_some, hmark, if_pos rfl]

theorem IsKey.flat (h : IsKey raw name) : Flat partingMarks raw := by
  cases h with
  | plain h => exact flat_name h
  | quoted h => exact flat_quoted h

/-! ## Blanks around -/

theorem getLast?_stringBody {body : List Char} (h : StringBody quote body) : body.getLast? = some quote := by
  induction h with
  | close => rfl
  | escape d hs ih =>
    obtain ⟨b, s, rfl⟩ := hs.exists_cons
    rw [List.getLast?_cons_cons, List.getLast?_cons_cons, ih]
  | char hmark hslash hline hs ih =>
    obtain ⟨b, s, rfl⟩ := hs.exists_cons
    rw [List.getLast?_cons_cons, ih]

theorem trimmed_quoted (h : IsQuoted quote inner text) : trimmed (quote :: inner) = quote :: inner := by
  have hblank : Text.isBlank quote = false := by rcases h.isMark with rfl | rfl <;> rfl
  have hlast := getLast?_stringBody h.stringBody
  obtain ⟨b, s, rfl⟩ := h.stringBody.exists_cons
  exact trimmed_of_ends hblank (by rw [List.getLast?_cons_cons, hlast]) hblank

theorem trimmed_of_forall (h : ∀ c ∈ cs, Text.isBlank c = false) : trimmed cs = cs := by
  cases cs with
  | nil => rfl
  | cons c cs =>
    exact trimmed_of_ends (h c (List.mem_cons_self ..)) (List.getLast?_eq_some_getLast (List.cons_ne_nil c cs))
      (h _ (List.getLast_mem _))

theorem IsKey.trimmed (h : IsKey raw name) : trimmed raw = raw := by
  cases h with
  | plain h => exact trimmed_of_forall fun c hc => isBlank_of_class (p := isNamePart) (by decide) (IsAsciiName.all h c hc)
  | quoted h => exact trimmed_quoted h

theorem trimmed_numeral (h : IsNumeral cs) : trimmed cs = cs ∧ trimmed ('-' :: cs) = '-' :: cs := by
  have hdigits : ∀ c ∈ cs, Text.isBlank c = false := fun c hc =>
    isBlank_of_class (p := Char.isDigit) (by decide) (List.all_eq_true.mp h.2.1 c hc)
  exact ⟨trimmed_of_forall hdigits, trimmed_of_forall (List.forall_mem_cons.mpr ⟨by decide, hdigits⟩)⟩

theorem Initializer.IsWritten.trimmed {i : Initializer} (h : i.IsWritten cs) : trimmed cs = cs := by
  cases h with
  | integer hds hsafe => exact (trimmed_numeral hds).1
  | negative hds hsafe => exact (trimmed_numeral hds).2
  | string h => exact trimmed_quoted h
  | flags h htrim hmore => exact htrim

theorem Initializer.IsWritten.flat {i : Initializer} (h : i.IsWritten cs) :
    Flat partingMarks cs := by
  cases h with
  | integer hds hsafe => exact flat_numeral hds
  | negative hds hsafe =>
    have hminus : Flat partingMarks ['-'] := flat_minus
    exact hminus.append (flat_numeral hds)
  | string h => exact flat_quoted h
  | flags h htrim hmore => exact flat_flags h

theorem isBlank_head (h : trimmed (c :: cs) = c :: cs) : Text.isBlank c = false := by
  rw [Bool.eq_false_iff]
  intro hblank
  have hshort : trimmed ([c] ++ cs) = trimmed cs := trimmed_append_left (isBlanks_single hblank)
  have hle := length_trimmed_le cs
  rw [← hshort, List.singleton_append, h, List.length_cons] at hle
  omega

theorem isBlank_last (h : trimmed (cs ++ [c]) = cs ++ [c]) : Text.isBlank c = false := by
  rw [Bool.eq_false_iff]
  intro hblank
  have hshort : trimmed (cs ++ [c]) = trimmed cs := trimmed_append_right (isBlanks_single hblank)
  have hle := length_trimmed_le cs
  rw [← hshort, h, List.length_append, List.length_singleton] at hle
  omega

/-- A text with trimmed texts at both ends is trimmed. -/
theorem trimmed_append {t u : List Char} (ht : trimmed t = t) (hne : t ≠ []) (hu : trimmed u = u) (hne' : u ≠ [])
    (mid : List Char) : trimmed (t ++ mid ++ u) = t ++ mid ++ u := by
  obtain ⟨c, t, rfl⟩ := List.exists_cons_of_ne_nil hne
  rw [← List.dropLast_concat_getLast hne'] at hu ⊢
  generalize u.dropLast = v, u.getLast hne' = d at hu ⊢
  have hlast : (c :: t ++ mid ++ (v ++ [d])).getLast? = some d := by
    rw [← List.append_assoc, List.getLast?_concat]
  exact trimmed_of_ends (isBlank_head ht) hlast (isBlank_last hu)

theorem Initializer.IsWritten.ne_nil {i : Initializer} (h : i.IsWritten cs) : cs ≠ [] := by
  cases h with
  | integer hds hsafe => exact hds.1
  | negative hds hsafe => exact List.cons_ne_nil _ _
  | string h => exact List.cons_ne_nil _ _
  | flags h htrim hmore =>
    obtain ⟨c, rest, rfl, -⟩ := h.exists_cons
    exact List.cons_ne_nil _ _

/-! ## Pieces -/

theorem IsKey.ne_nil (h : IsKey raw name) : raw ≠ [] := by
  cases h with
  | plain h =>
    obtain ⟨c, rest, hcs, -⟩ := h
    exact hcs ▸ List.cons_ne_nil c rest
  | quoted h => exact List.cons_ne_nil _ _

variable {n key : List Char} {count : Count} {front back front' back' p : List Char} {ps : List (List Char)}
  {i : Initializer} {m : Member} {ms : List Member}

theorem members_blank (hgap : IsBlanks gap) (n : List Char) (count : Count) : members n count [gap] = .ok [] := by
  have htrim : Text.trimBy Text.isBlank gap = [] := trimmed_of_isBlanks hgap
  rw [members, htrim]
  rfl

theorem members_plain (hfront : IsBlanks front) (hkey : IsKey raw name) (hback : IsBlanks back)
    (hk : key? raw = some key) :
    members n count ((front ++ (raw ++ back)) :: ps) =
      (members n (member n key none count).2 ps).map ((member n key none count).1 ++ ·) := by
  have htrim : Text.trimBy Text.isBlank (front ++ (raw ++ back)) = raw := by
    have h : trimmed (front ++ (raw ++ back)) = _ := trimmed_append_left hfront
    rw [trimmed_append_right hback, hkey.trimmed] at h
    exact h
  have hself : Text.trimBy Text.isBlank raw = raw := hkey.trimmed
  have hempty : raw.isEmpty = false := by simpa using hkey.ne_nil
  have hsplit : split raw '=' = [raw] := by
    have h : split (['='].intercalate [raw]) '=' = [raw] := split_intercalate rfl (List.cons_ne_nil _ _)
      (show '=' ∈ partingMarks by decide) (List.forall_mem_singleton.mpr hkey.flat)
    simpa [List.intercalate] using h
  rw [members, htrim]
  simp only [hempty, hsplit, List.flatten_cons, List.flatten_nil, List.append_nil, hself, hk]
  rfl

theorem members_initialized (hfront : IsBlanks front) (hkey : IsKey raw name) (hback : IsBlanks back)
    (hfront' : IsBlanks front') (hi : i.IsWritten cs) (hback' : IsBlanks back') (hk : key? raw = some key) :
    members n count ((front ++ (raw ++ (back ++ '=' :: (front' ++ (cs ++ back'))))) :: ps) =
      (members n (member n key (some cs) count).2 ps).map ((member n key (some cs) count).1 ++ ·) := by
  have hwhole := trimmed_append hkey.trimmed hkey.ne_nil hi.trimmed hi.ne_nil (back ++ '=' :: front')
  simp only [List.append_assoc, List.cons_append] at hwhole
  have htrim : Text.trimBy Text.isBlank (front ++ (raw ++ (back ++ '=' :: (front' ++ (cs ++ back'))))) =
      raw ++ (back ++ '=' :: (front' ++ cs)) := by
    have h : trimmed (front ++ ((raw ++ (back ++ '=' :: (front' ++ cs))) ++ back')) = _ :=
      trimmed_append_left hfront
    rw [trimmed_append_right hback', hwhole] at h
    simpa [trimmed] using h
  have hempty : (raw ++ (back ++ '=' :: (front' ++ cs))).isEmpty = false := by simp
  have hsplit : split (raw ++ (back ++ '=' :: (front' ++ cs))) '=' = [raw ++ back, front' ++ cs] := by
    have hleft := hkey.flat.append (flat_blanks hback)
    have hright := (flat_blanks hfront').append hi.flat
    have h : split (['='].intercalate [raw ++ back, front' ++ cs]) '=' = _ := split_intercalate rfl
      (List.cons_ne_nil _ _) (show '=' ∈ partingMarks by decide) (List.forall_mem_cons.mpr ⟨hleft, fun p hp => List.mem_singleton.mp hp ▸ hright⟩)
    simpa [List.intercalate] using h
  have hkey' : Text.trimBy Text.isBlank (raw ++ back) = raw := (trimmed_append_right hback).trans hkey.trimmed
  have hdrop : (raw ++ (back ++ '=' :: (front' ++ cs))).drop ((raw ++ back).length + 1) = front' ++ cs := by
    rw [← List.append_assoc, ← List.drop_drop, List.drop_left, List.drop_succ_cons, List.drop_zero]
  have hi' : Text.trimBy Text.isBlank (front' ++ cs) = cs := (trimmed_append_left hfront').trans hi.trimmed
  rw [members, htrim]
  simp only [hempty, hsplit, hkey', hdrop, hi', hk]
  rfl

/-- What is read of a member: its key, and its initializer as it is written. -/
theorem members_cons (hm : m.IsWritten p) :
    ∃ quote inner initializer, IsQuoted quote inner m.name ∧
      (∀ n count ps, members n count (p :: ps) =
        (members n (member n (quote :: inner) initializer count).2 ps).map
          ((member n (quote :: inner) initializer count).1 ++ ·)) ∧
      ((m.initializer = none ∧ initializer = none) ∨
        ∃ i cs, m.initializer = some i ∧ initializer = some cs ∧ i.IsWritten cs) := by
  cases hm with
  | plain hfront hkey hback =>
    obtain ⟨quote, inner, hk, hquoted⟩ := hkey.exists_literal
    exact ⟨quote, inner, none, hquoted, fun n count ps => members_plain hfront hkey hback hk, .inl ⟨rfl, rfl⟩⟩
  | initialized hfront hkey hback hfront' hi hback' =>
    obtain ⟨quote, inner, hk, hquoted⟩ := hkey.exists_literal
    exact ⟨quote, inner, _, hquoted, fun n count ps => members_initialized hfront hkey hback hfront' hi hback' hk,
      .inr ⟨_, _, rfl, rfl, hi⟩⟩

/-! ## Initializers -/

theorem isString_quoted (h : IsQuoted quote inner text) : isString (quote :: inner) = true := by
  have hmark : isQuoteMark quote = true := by rcases h.isMark with rfl | rfl <;> rfl
  have hend : stringEnd? (quote :: inner).toArray 0 = some (0 + (quote :: inner).length) :=
    stringEnd?_add (s := ⟨(quote :: inner).toArray, .js⟩) (r := []) h.isMark h.stringBody (List.append_nil _).symm
  rw [isString, List.head?_cons, Option.any_some, hmark, hend, Nat.zero_add, beq_self_eq_true]
  rfl

theorem isString_cons (hc : isQuoteMark c = false) : isString (c :: cs) = false := by
  rw [isString, List.head?_cons, Option.any_some, hc]
  rfl

theorem integer?_numeral (h : IsNumeral cs) (hsafe : Text.decimal cs < 2 ^ 53) :
    integer? cs = some (Text.decimal cs : Int) ∧ integer? ('-' :: cs) = some (-(Text.decimal cs : Int)) := by
  have hsafe : Text.decimal cs < 9007199254740992 := hsafe
  have hword : isWord (Text.decimal cs) = true ∧ isWord (-(Text.decimal cs : Int)) = true := by
    simp only [isWord, Bool.and_eq_true, decide_eq_true_eq]
    omega
  obtain ⟨d, ds, rfl, hd⟩ := h.exists_cons
  have hall := h.2.1
  constructor
  · have hminus : d ≠ '-' := Script.ne_of_isDigit hd (by decide)
    have hplus : d ≠ '+' := Script.ne_of_isDigit hd (by decide)
    unfold integer?
    split
    rename_i negative digits heq
    split at heq
    · rename_i hcons
      cases hcons
      exact absurd rfl hminus
    · rename_i hcons
      cases hcons
      exact absurd rfl hplus
    · cases heq
      simp [hall, hword.1]
  · simp only [integer?, hall]
    simp [hword.2]

theorem integer?_of_exists (h : ∃ c ∈ cs, c ≠ '-' ∧ c.isDigit = false) (hplus : cs.head? ≠ some '+') :
    integer? cs = none := by
  obtain ⟨c, hc, hminus, hdigit⟩ := h
  have hall : ∀ ds : List Char, c ∈ ds → ds.all Char.isDigit = false := by
    intro ds hmem
    rw [Bool.eq_false_iff]
    intro hall
    rw [List.all_eq_true.mp hall c hmem] at hdigit
    cases hdigit
  unfold integer?
  split
  rename_i negative digits heq
  have hmem : c ∈ digits := by
    split at heq
    · cases heq
      exact (List.mem_cons.mp hc).resolve_left hminus
    · exact absurd rfl hplus
    · cases heq
      exact hc
  simp [hall digits hmem]

/-! ## Statements of members -/

theorem member_integer {a : Int} (hstring : isString cs = false) (hinteger : integer? cs = some a)
    (n key : List Char) (count : Count) :
    member n key (some cs) count =
      (numeric n key (toString a).toList, { next := after a, previous := some key }) := by
  simp only [member, hstring, hinteger]
  rfl

theorem member_string (hstring : isString cs = true) (n key : List Char) (count : Count) :
    member n key (some cs) count =
      (' ' :: n ++ '[' :: key ++ "] = ".toList ++ cs ++ [';'], { next := none, previous := some key }) := by
  simp only [member, hstring]
  rfl

theorem member_flags (hstring : isString cs = false) (hinteger : integer? cs = none)
    (n key : List Char) (count : Count) :
    member n key (some cs) count =
      (numeric n key ('(' :: cs ++ [')']), { next := none, previous := some key }) := by
  simp only [member, hstring, hinteger]
  rfl

/-- What becomes of a member with an initializer. -/
theorem member_initialized {i : Initializer} (hi : i.IsWritten cs) :
    (∃ a : Int, i = .integer a ∧ -9007199254740992 < a ∧ ∀ n key count, member n key (some cs) count =
      (numeric n key (toString a).toList, { next := after a, previous := some key })) ∨
    (∃ quote inner s, i = .string s ∧ IsQuoted quote inner s ∧ ∀ n key count, member n key (some cs) count =
      (' ' :: n ++ '[' :: key ++ "] = ".toList ++ (quote :: inner) ++ [';'], { next := none, previous := some key })) ∨
    (∃ e, i = .flags e ∧ Flags.IsWritten 1 cs e ∧ ∀ n key count, member n key (some cs) count =
      (numeric n key ('(' :: cs ++ [')']), { next := none, previous := some key })) := by
  cases hi with
  | integer hds hsafe =>
    obtain ⟨d, ds, rfl, hd⟩ := hds.exists_cons
    have hstart := Flags.IsWritten.isStart_of_isNamePart (Script.isNamePart_of_isDigit hd)
    exact .inl ⟨_, rfl, by omega,
      member_integer (isString_cons hstart.isQuoteMark) (integer?_numeral hds hsafe).1⟩
  | @negative ds hds hsafe =>
    have hsafe' : Text.decimal ds < 9007199254740992 := hsafe
    exact .inl ⟨_, rfl, by omega, member_integer (isString_cons rfl) (integer?_numeral hds hsafe).2⟩
  | string h => exact .inr (.inl ⟨_, _, _, rfl, h, member_string (isString_quoted h)⟩)
  | flags h htrim hmore =>
    obtain ⟨d, rest, rfl, hstart⟩ := h.exists_cons
    have hplus : (d :: rest).head? ≠ some '+' := fun heq =>
      hstart.not_mem (by rw [Option.some.inj heq]; decide)
    exact .inr (.inr ⟨_, rfl, h, member_flags (isString_cons hstart.isQuoteMark) (integer?_of_exists hmore hplus)⟩)

/-! ## What commas part -/

theorem Member.IsWritten.flat (h : m.IsWritten p) : Flat [','] p := by
  have hcommas : [','] ⊆ partingMarks := by decide
  cases h with
  | plain hfront hkey hback =>
    exact ((flat_blanks hfront).append (hkey.flat.append (flat_blanks hback))).mono hcommas
  | initialized hfront hkey hback hfront' hi hback' =>
    have hname := (flat_blanks hfront).append (hkey.flat.append (flat_blanks hback))
    have hvalue := (flat_blanks hfront').append (hi.flat.append (flat_blanks hback'))
    have hall := (hname.mono hcommas).append (.cons (c := '=') rfl (by decide) (hvalue.mono hcommas))
    simpa using hall

theorem AreWritten.flat (h : AreWritten ps ms) : ∀ p ∈ ps, Flat [','] p := by
  induction h with
  | blank hgap => exact List.forall_mem_singleton.mpr ((flat_blanks hgap).mono (by decide))
  | last hm => exact List.forall_mem_singleton.mpr hm.flat
  | cons hm hms ih => exact List.forall_mem_cons.mpr ⟨hm.flat, ih⟩

theorem AreWritten.ne_nil (h : AreWritten ps ms) : ps ≠ [] := by
  cases h <;> exact List.cons_ne_nil _ _

/-- The declaration of an enum is that of the pieces of its text. -/
theorem declaration_eq {inside : Char → Bool} (huncommented : Uncommented inside cs ([','].intercalate ps))
    (h : AreWritten ps ms) (n : List Char) :
    declaration n cs.toArray = (members n {} ps).map fun statements =>
      "var ".toList ++ n ++ " = (function (".toList ++ n ++ [')', ' ', '{'] ++ statements ++ " return ".toList ++ n ++
        [';', ' ', '}', ')', '('] ++ n ++ [' ', '|', '|', ' ', '{', '}', ')', ';'] := by
  have hcomments : withoutComments cs.toArray (cs.toArray.size + 1) 0 = [','].intercalate ps :=
    withoutComments_eq (s := ⟨cs.toArray, .js⟩) huncommented rfl (Nat.zero_le _) (Nat.lt_succ_self _)
  rw [declaration, hcomments, split_intercalate rfl h.ne_nil (by decide) h.flat]

/-- What stands behind the brace that opens an enum is closed before the one that closes it, if comments
hold no bracket and no quotation mark. -/
theorem IsBody.walks {inside : Char → Bool} (h : IsBody inside cs ms)
    (hinside : ∀ c, inside c = true → isQuiet c = true) : Walks [] 0 cs 0 := by
  obtain ⟨t, ps, huncommented, rfl, hms⟩ := h
  have hpieces : ∀ p ∈ ps, Flat [] p := fun p hp => (hms.flat p hp).mono (List.nil_subset _)
  exact huncommented.walks hinside (Flat.intercalate rfl hpieces 0)

/-! ## Lowering -/

/-- How an enum begins behind its keyword, up to the brace that opens its body. -/
def headText (gap name gap' : List Char) : List Char := gap ++ (name ++ (gap' ++ ['{']))

/-- How the beginning of an enum is written. -/
inductive IsHead (name : List Char) : List Char → Prop where
  | plain {gap gap' : List Char} (hgap : IsSpaces gap) (hne : gap ≠ []) (hgap' : IsSpaces gap') :
      IsHead name ("enum".toList ++ headText gap name gap')
  | const {front gap gap' : List Char} (hfront : IsSpaces front) (hne : front ≠ []) (hgap : IsSpaces gap)
      (hne' : gap ≠ []) (hgap' : IsSpaces gap') :
      IsHead name ("const".toList ++ (front ++ ("enum".toList ++ headText gap name gap')))

section Lowering

variable {s : Listing} {i : Nat} {c : Cursor} {front word body head text r : List Char} {d : Char} {dialect : Dialect}

theorem isNamePart_of_isSpace (hd : Text.isSpace d = true) : isNamePart d = false := by
  simp only [Text.isSpace, Bool.or_eq_true, beq_iff_eq] at hd
  rcases hd with (((rfl | rfl) | rfl) | rfl) | rfl <;> rfl

theorem isSpace_of_isNamePart (hd : isNamePart d = true) : Text.isSpace d = false := by
  rw [Bool.eq_false_iff]
  intro hspace
  rw [isNamePart_of_isSpace hspace] at hd
  cases hd

theorem skipSpaces_gap (hgap : IsSpaces gap) (h : s.tail i = gap ++ d :: r) (hd : Text.isSpace d = false) :
    skipSpaces s.chars i = i + gap.length :=
  skip_add h hgap fun e he => by
    rw [← Option.some.inj he]
    exact hd

theorem nameEnd_spaced (hword : ∀ e ∈ word, isNamePart e = true) (hgap : IsSpaces gap) (hne : gap ≠ [])
    (h : s.tail i = word ++ (gap ++ r)) : nameEnd s.chars i = i + word.length := by
  obtain ⟨b, gap, rfl⟩ := List.exists_cons_of_ne_nil hne
  refine skip_add h hword fun e he => ?_
  rw [← Option.some.inj he]
  exact isNamePart_of_isSpace (hgap b (List.mem_cons_self ..))

theorem nameEnd_gap (hword : ∀ e ∈ word, isNamePart e = true) (hgap : IsSpaces gap)
    (h : s.tail i = word ++ (gap ++ d :: r)) (hd : isNamePart d = false) :
    nameEnd s.chars i = i + word.length := by
  cases gap with
  | nil =>
    refine skip_add h hword fun e he => ?_
    rw [← Option.some.inj he]
    exact hd
  | cons b gap => exact nameEnd_spaced hword hgap (List.cons_ne_nil _ _) h

/-- What is found behind the keyword of an enum, one place after the other. -/
structure AtHead (s : Listing) (i : Nat) (gap word gap' r : List Char) : Prop where
  start : skipSpaces s.chars i = i + gap.length
  isStart : (s.charAt? (i + gap.length)).any isNameStart = true
  stop : nameEnd s.chars (i + gap.length) = i + gap.length + word.length
  isName : slice s.chars (i + gap.length) (i + gap.length + word.length) = word
  opening : skipSpaces s.chars (i + gap.length + word.length) = i + gap.length + word.length + gap'.length
  brace : s.tail (i + gap.length + word.length + gap'.length) = '{' :: r

theorem atHead (hgap : IsSpaces gap) (hname : IsAsciiName word) (hgap' : IsSpaces gap')
    (h : s.tail i = headText gap word gap' ++ r) : AtHead s i gap word gap' r := by
  have hall := IsAsciiName.all hname
  have h : s.tail i = gap ++ (word ++ (gap' ++ '{' :: r)) := by simpa [headText] using h
  have hword := tail_add h
  have hback := tail_add hword
  obtain ⟨d, rest, rfl, hd, -⟩ := hname
  exact {
    start := skipSpaces_gap hgap h (isSpace_of_isNamePart (isNamePart_of_isNameStart hd))
    isStart := by rw [charAt?_of_cons hword, Option.any_some, hd]
    stop := nameEnd_gap hall hgap' hword rfl
    isName := slice_add hword
    opening := skipSpaces_gap hgap' hback rfl
    brace := tail_add hback }

/-- The declaration is written in the place of an enum, with the line breaks of its text. -/
theorem enum_eq (hname : IsAsciiName word) (h : AtHead s i gap word gap' (body ++ '}' :: r)) (hbody : Walks [] 0 body 0)
    (htext : declaration word body.toArray = .ok text) :
    c.enum s i = .ok
      { c.write (text ++ List.replicate ((slice s.chars c.pos (i + (headText gap word gap' ++ (body ++ ['}'])).length)).count '\n') '\n') with
        pos := i + (headText gap word gap' ++ (body ++ ['}'])).length, previous := .mark ';' } := by
  have hinner := tail_succ h.brace
  have hclose : close? s.chars (i + gap.length + word.length + gap'.length) =
      some (i + gap.length + word.length + gap'.length + 1 + body.length) :=
    (closeFrom?_open (charAt?_of_cons h.brace) rfl).trans
      ((hbody.closeFrom?_eq hinner).trans (closeFrom?_last (charAt?_of_cons (tail_add hinner)) rfl))
  have hextract : s.chars.extract (i + gap.length + word.length + gap'.length + 1)
      (i + gap.length + word.length + gap'.length + 1 + body.length) = body.toArray :=
    Array.toList_inj.mp (slice_add hinner)
  have hlength : i + gap.length + word.length + gap'.length + 1 + body.length + 1 =
      i + (headText gap word gap' ++ (body ++ ['}'])).length := by
    simp only [headText, List.length_append, List.length_cons, List.length_nil]
    omega
  have hempty : word.isEmpty = false := by
    obtain ⟨d, rest, rfl, -⟩ := hname
    rfl
  unfold Cursor.enum
  simp only [h.start, h.stop, h.isName, h.opening, charAt?_of_cons h.brace, hempty, hclose, hextract, htext, hlength]
  rfl

theorem declaresName_of_atHead (h : AtHead s i gap word gap' r) (hne : gap ≠ []) : s.declaresName i = true := by
  have hpos := List.length_pos_iff.mpr hne
  have hbrace : s.charAt? (s.afterName i) = some '{' := by
    rw [afterName, h.start, h.stop, h.opening]
    exact charAt?_of_cons h.brace
  rw [declaresName, nameFollows, h.start, h.isStart, hbrace]
  simp
  omega

theorem word_enum (htypes : s.dialect.hasTypes = true) (hstatement : s.startsStatement c.previous c.pos = true)
    (hstop : nameEnd s.chars c.pos = c.pos + "enum".toList.length)
    (hword : slice s.chars c.pos (c.pos + "enum".toList.length) = "enum".toList)
    (h : AtHead s (c.pos + "enum".toList.length) gap word gap' r) (hne : gap ≠ []) :
    c.word s = c.enum s (c.pos + "enum".toList.length) := by
  unfold Cursor.word
  simp only [hstop, hword, htypes, hstatement, declaresName_of_atHead h hne]
  rfl

theorem word_const (htypes : s.dialect.hasTypes = true) (hstatement : s.startsStatement c.previous c.pos = true)
    (hstop : nameEnd s.chars c.pos = c.pos + "const".toList.length)
    (hword : slice s.chars c.pos (c.pos + "const".toList.length) = "const".toList)
    (hafter : s.wordAfter (c.pos + "const".toList.length) = "enum".toList) :
    c.word s = c.enum s (skipSpaces s.chars (c.pos + "const".toList.length) + "enum".toList.length) := by
  unfold Cursor.word
  simp only [hstop, hword, htypes, hstatement, hafter]
  rfl

/-- **An enum where a statement begins is replaced by its declaration**, with the line breaks of its
text. -/
theorem word_eq_declaration (hhead : IsHead word head) (hname : IsAsciiName word) (htypes : s.dialect.hasTypes = true)
    (hstatement : s.startsStatement c.previous c.pos = true) (hbody : Walks [] 0 body 0)
    (h : s.tail c.pos = head ++ (body ++ '}' :: r)) (htext : declaration word body.toArray = .ok text) :
    c.word s = .ok
      { c.write (text ++ List.replicate ((head ++ (body ++ ['}'])).count '\n') '\n') with
        pos := c.pos + (head ++ (body ++ ['}'])).length, previous := .mark ';' } := by
  have henum : ∀ e ∈ "enum".toList, isNamePart e = true := List.all_eq_true.mp rfl
  have hconst : ∀ e ∈ "const".toList, isNamePart e = true := List.all_eq_true.mp rfl
  have hwhole : slice s.chars c.pos (c.pos + (head ++ (body ++ ['}'])).length) = head ++ (body ++ ['}']) :=
    slice_add (by simpa using h)
  cases hhead with
  | @plain gap gap' hgap hne hgap' =>
    rw [List.append_assoc] at h
    have hat := atHead hgap hname hgap' (tail_add h)
    have hstop : nameEnd s.chars c.pos = _ := nameEnd_spaced henum hgap hne (by simpa [headText] using h)
    have hlength : c.pos + "enum".toList.length + (headText gap word gap' ++ (body ++ ['}'])).length =
        c.pos + ("enum".toList ++ headText gap word gap' ++ (body ++ ['}'])).length := by
      simp only [List.length_append]
      omega
    rw [word_enum htypes hstatement hstop (slice_add h) hat hne, enum_eq hname hat hbody htext, hlength, hwhole]
  | @const front gap gap' hfront hne hgap hne' hgap' =>
    have h : s.tail c.pos = "const".toList ++ (front ++ ("enum".toList ++ (headText gap word gap' ++ (body ++ '}' :: r)))) := by
      rw [h]
      simp only [List.append_assoc]
    have hfrom := tail_add h
    have hword := tail_add hfrom
    have hat := atHead hgap hname hgap' (tail_add hword)
    have hstop : nameEnd s.chars c.pos = _ := nameEnd_spaced hconst hfront hne h
    have hstart : skipSpaces s.chars (c.pos + "const".toList.length) = _ := skipSpaces_gap (d := 'e') hfront hfrom rfl
    have hstop' : nameEnd s.chars (c.pos + "const".toList.length + front.length) = _ :=
      nameEnd_spaced henum hgap hne' (by simpa [headText] using hword)
    have hlt : c.pos + "const".toList.length + front.length > c.pos + "const".toList.length := by
      have hpos := List.length_pos_iff.mpr hne
      omega
    have hafter : s.wordAfter (c.pos + "const".toList.length) = "enum".toList := by
      rw [wordAfter, hstart, hstop', slice_add hword]
      exact if_pos hlt
    have hlength : c.pos + "const".toList.length + front.length + "enum".toList.length +
        (headText gap word gap' ++ (body ++ ['}'])).length =
        c.pos + ("const".toList ++ (front ++ ("enum".toList ++ headText gap word gap')) ++ (body ++ ['}'])).length := by
      simp only [List.length_append]
      omega
    rw [word_const htypes hstatement hstop (slice_add h) hafter, hstart, enum_eq hname hat hbody htext, hlength, hwhole]

theorem IsHead.exists_cons (h : IsHead word head) : ∃ d t, head = d :: t ∧ isNameStart d = true := by
  cases h
  · exact ⟨'e', _, rfl, rfl⟩
  · exact ⟨'c', _, rfl, rfl⟩

theorem code_single {c' : Cursor} (hat : s.charAt? c.pos = some d) (hd : d ≠ '{' ∧ d ≠ '}')
    (hnext : ∀ fuel, construct s (fuel + 1) d c = .ok c') (hend : s.charAt? c'.pos = none) (fuel : Nat) :
    code s (fuel + 2) .text 0 c = .ok c' := by
  have hdepth : braceDepth 0 d = 0 := by simp [braceDepth, hd]
  have hstop : code s (fuel + 1) .text 0 c' = .ok c' := by
    rw [code, hend]
    rfl
  rw [code, hat]
  simp [Stop.reached, hd, hnext, hdepth, hstop]

/-- **An enum is lowered to its declaration**, with the line breaks of its text. -/
theorem lower_enum (hhead : IsHead word head) (hname : IsAsciiName word) (htypes : dialect.hasTypes = true)
    (hbody : Walks [] 0 body 0) (htext : declaration word body.toArray = .ok text) :
    lower (String.ofList (head ++ (body ++ ['}']))) dialect =
      .ok (String.ofList (text ++ List.replicate ((head ++ (body ++ ['}'])).count '\n') '\n')) := by
  have hword := word_eq_declaration (s := ⟨(head ++ (body ++ ['}'])).toArray, dialect⟩) (c := {}) (r := []) hhead hname
    htypes rfl hbody rfl htext
  obtain ⟨d, t, rfl, hd⟩ := hhead.exists_cons
  have hbrace : d ≠ '{' ∧ d ≠ '}' := by
    constructor <;> rintro rfl <;> cases hd
  obtain ⟨fuel, hfuel⟩ : ∃ fuel, stepsPerChar * ((d :: t ++ (body ++ ['}'])).length + 2) = fuel + 2 :=
    ⟨stepsPerChar * ((d :: t ++ (body ++ ['}'])).length + 2) - 2, by simp only [stepsPerChar]; omega⟩
  have hcode := code_single (s := ⟨(d :: t ++ (body ++ ['}'])).toArray, dialect⟩) (c := {}) rfl hbrace
    (fun fuel => (construct_name hd).trans hword) (by simp [charAt?]) fuel
  rw [lower, String.toList_ofList, hfuel, hcode]
  simp [Cursor.write]

end Lowering

end Enum
end Source
end Restyle
