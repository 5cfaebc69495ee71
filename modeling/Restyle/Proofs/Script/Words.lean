import Restyle.Proofs.Path.Text
import Restyle.Proofs.Script.Parsing
import Restyle.Source.Scan

/-!
# Restyle.Proofs.Script.Words

The words that a text is read as. `Meets` is said of a reader and the words behind it, `Leads` of a
piece of text that is read as some words whatever the reader has passed over before it.
-/

namespace Restyle
namespace Script

/-! ## Readers -/

/-- Does the reader know how many characters are left? -/
def Reader.IsSound (r : Reader) : Prop := r.left = r.rest.length

theorem Reader.isSound_ofText (cs : List Char) : (Reader.ofText cs).IsSound := rfl

theorem Reader.IsSound.skip {r : Reader} (h : r.IsSound) (n : Nat) : (r.skip n).IsSound := by
  show r.left - n = (r.rest.drop n).length
  rw [List.length_drop, h]

/-- The reader finds these words, and then stands as another one. -/
inductive Meets : Reader → List Word → Reader → Prop where
  | nil (r : Reader) : Meets r [] r
  | cons {r r' : Reader} {x : Lexeme} {ws : List Word} (hnext : r.next = .ok x)
      (hs : Meets x.stop ws r') : Meets r (⟨x.token, x.fresh⟩ :: ws) r'

variable {r r' r'' : Reader} {ws ws' : List Word} {w : Word} {y : Lexeme}

theorem Meets.append (h : Meets r ws r') (h' : Meets r' ws' r'') : Meets r (ws ++ ws') r'' := by
  induction h with
  | nil r => exact h'
  | cons hnext _ ih => exact .cons hnext (ih h')

theorem Meets.ahead (h : Meets r (w :: ws) r') (hnext : r'.next = .ok y) :
    ∃ x, r.next = .ok x ∧ Ahead x (w :: ws) y := by
  cases h with
  | @cons _ _ x _ hfirst hs =>
    refine ⟨x, hfirst, ?_⟩
    generalize hstop : x.stop = r₁ at hs
    induction hs generalizing x r with
    | nil r' => exact .cons (hstop ▸ hnext) (.nil y)
    | cons hsecond hs ih => exact .cons (hstop ▸ hsecond) (ih hnext hsecond rfl)

/-! ## Texts -/

/-- Before a rest, a text is read as these words. -/
def Leads (s : List Char) (ws : List Word) (rest : List Char) : Prop :=
  ∀ r : Reader, r.IsSound → r.rest = s ++ rest → ∃ r' : Reader, r'.IsSound ∧ r'.rest = rest ∧ Meets r ws r'

variable {s s' rest gap : List Char} {t : Token} {c : Char}

theorem Leads.nil (rest : List Char) : Leads [] [] rest :=
  fun r hr hrest => ⟨r, hr, hrest, .nil r⟩

theorem Leads.append (h : Leads s ws (s' ++ rest)) (h' : Leads s' ws' rest) :
    Leads (s ++ s') (ws ++ ws') rest := by
  intro r hr hrest
  rw [List.append_assoc] at hrest
  obtain ⟨r', hr', hrest', hmeets⟩ := h r hr hrest
  obtain ⟨r'', hr'', hrest'', hmeets'⟩ := h' r' hr' hrest'
  exact ⟨r'', hr'', hrest'', hmeets.append hmeets'⟩

/-- The space between words. -/
def IsGap (gap : List Char) : Prop := ∀ c ∈ gap, isLineEnd c = true ∨ Utf16.isSpace c = true

/-- Does no space begin with the character? -/
def IsSolid (c : Char) : Prop := isLineEnd c = false ∧ Utf16.isSpace c = false ∧ c ≠ '/'

theorem spaceSpan_solid (hc : IsSolid c) (cs : List Char) (fresh : Bool) (n : Nat) :
    spaceSpan .plain (c :: cs) fresh n = some (n, fresh) := by
  obtain ⟨hline, hspace, hslash⟩ := hc
  unfold spaceSpan
  split
  all_goals simp_all

theorem spaceSpan_gap (hgap : IsGap gap) (cs : List Char) (fresh : Bool) (n : Nat) :
    spaceSpan .plain (gap ++ cs) fresh n = spaceSpan .plain cs (fresh || gap.any isLineEnd) (n + gap.length) := by
  induction gap generalizing fresh n with
  | nil => simp
  | cons d gap ih =>
    have hd := hgap d (List.mem_cons_self ..)
    have hslash : d ≠ '/' := by
      rintro rfl
      exact absurd hd (by decide)
    have hstep : spaceSpan .plain (d :: (gap ++ cs)) fresh n =
        spaceSpan .plain (gap ++ cs) (fresh || isLineEnd d) (n + 1) := by
      clear ih hgap
      rw [spaceSpan.eq_def]
      cases hline : isLineEnd d <;> split <;> simp_all
    rw [List.cons_append, hstep, ih fun x hx => hgap x (List.mem_cons_of_mem _ hx), List.any_cons,
      List.length_cons, Bool.or_assoc]
    congr 1
    omega

/-! ## Single words -/

/-- Before a rest, a text is read as a token, from wherever it stands. -/
def IsToken (s : List Char) (t : Token) (rest : List Char) : Prop :=
  ∀ left, (s ++ rest).length ≤ left → readToken left (s ++ rest) = some (t, s.length)

theorem IsToken.leads (h : IsToken (c :: s) t rest) (hc : IsSolid c) (hgap : IsGap gap) :
    Leads (gap ++ c :: s) [⟨t, gap.any isLineEnd⟩] rest := by
  intro r hr hrest
  have hspan : spaceSpan .plain r.rest false 0 = some (gap.length, gap.any isLineEnd) := by
    rw [hrest, List.append_assoc, List.cons_append, spaceSpan_gap hgap, spaceSpan_solid hc]
    simp
  have hstart : (r.skip gap.length).rest = c :: s ++ rest := by
    show r.rest.drop gap.length = _
    rw [hrest, List.append_assoc, List.drop_left]
  have hleft : (c :: s ++ rest).length ≤ (r.skip gap.length).left :=
    Nat.le_of_eq (by rw [hr.skip, hstart])
  have htoken := h (r.skip gap.length).left hleft
  have hnext : r.next = .ok { token := t, fresh := gap.any isLineEnd, start := r.skip gap.length,
                              stop := (r.skip gap.length).skip (c :: s).length } := by
    unfold Reader.next
    rw [hspan]
    simp only [hstart, htoken]
  refine ⟨_, (hr.skip gap.length).skip (c :: s).length, ?_, .cons hnext (.nil _)⟩
  show (r.skip gap.length).rest.drop _ = _
  rw [hstart, List.drop_left]

/-- Marks that no longer mark begins with. -/
theorem isToken_mark {m : String} (hm : m ∈ ["[", "]", "(", ")", "\x7b", "\x7d", ";"]) (rest : List Char) :
    IsToken m.toList (.mark m) rest := by
  intro left _
  simp only [List.mem_cons, List.not_mem_nil, or_false] at hm
  rcases hm with rfl | rfl | rfl | rfl | rfl | rfl | rfl <;> rfl

theorem isToken_equals (rest : List Char) : IsToken ['='] (.mark "=") (' ' :: rest) := fun _ _ => rfl

theorem isToken_or (rest : List Char) : IsToken ['|', '|'] (.mark "||") (' ' :: rest) := fun _ _ => rfl

/-- The operators of sums of flags, before what does not make them longer. -/
theorem isToken_operator {m : String} (hm : m ∈ ["+", "|", "<<"]) (hc : c ∉ ['+', '|', '<', '=', '>']) (rest : List Char) :
    IsToken m.toList (.mark m) (c :: rest) := by
  intro left _
  simp only [List.mem_cons, List.not_mem_nil, or_false, not_or] at hm hc
  obtain ⟨hplus, hor, hless, hequals, -⟩ := hc
  have hmark : readMark (m.toList ++ c :: rest) = some (m, c :: rest) := by
    rcases hm with rfl | rfl | rfl <;>
      simp [readMark, marks, Text.after?, Ne.symm hplus, Ne.symm hor, Ne.symm hequals]
  have htoken : readToken left (m.toList ++ c :: rest) =
      (readMark (m.toList ++ c :: rest)).map fun found => (.mark found.1, found.1.length) := by
    rcases hm with rfl | rfl | rfl <;> rfl
  rw [htoken, hmark]
  rfl

theorem isToken_minus (hc : c ≠ '-' ∧ c ≠ '=') (rest : List Char) :
    IsToken "-".toList (.mark "-") (c :: rest) := by
  intro left _
  have hmark : readMark ("-".toList ++ c :: rest) = some ("-", c :: rest) := by
    simp [readMark, marks, Text.after?, Ne.symm hc.1, Ne.symm hc.2]
  have htoken : readToken left ("-".toList ++ c :: rest) =
      (readMark ("-".toList ++ c :: rest)).map fun found => (.mark found.1, found.1.length) := rfl
  rw [htoken, hmark]
  rfl

/-! ## Names -/

/-- Is the text a name that is written without escapes? -/
def IsName (cs : List Char) : Prop := cs.head?.any isNameStart = true ∧ cs.all isNamePart = true

/-- Does no name go on with the text? -/
def EndsName (rest : List Char) : Prop := rest.head?.any (fun c => isNamePart c || c == '\\') = false

theorem ne_backslash_of_isNamePart (hc : isNamePart c = true) : c ≠ '\\' := by
  rintro rfl
  exact absurd hc (by decide)

theorem readName_cons (hc : c ≠ '\\') (cs out : List Char) (fuel : Nat) :
    readName (fuel + 1) (c :: cs) out false =
      if (if out.isEmpty then isNameStart c else isNamePart c) then readName fuel cs (c :: out) false
      else if out.isEmpty then none
      else some (String.ofList out.reverse, false, c :: cs) := by
  rw [readName.eq_def]
  cases hout : out.isEmpty <;>
  · dsimp only
    split
    · rename_i heq
      cases heq
      exact absurd rfl hc
    · rename_i heq
      cases heq
      simp only [hout]
    · rename_i heq
      cases heq

/-- A name is read up to where it ends, from its second character on. -/
theorem readName_of_parts {cs out : List Char} (hall : cs.all isNamePart = true) (hout : out ≠ [])
    (hrest : EndsName rest) {fuel : Nat} (hfuel : cs.length < fuel) :
    readName fuel (cs ++ rest) out false = some (String.ofList (out.reverse ++ cs), false, rest) := by
  have hempty : out.isEmpty = false := by simpa using hout
  obtain ⟨k, rfl⟩ : ∃ k, fuel = k + 1 := ⟨fuel - 1, by omega⟩
  induction cs generalizing out k with
  | nil =>
    cases rest with
    | nil => simp [readName, hempty]
    | cons d rest =>
      rw [EndsName, List.head?_cons, Option.any_some, Bool.or_eq_false_iff, beq_eq_false_iff_ne] at hrest
      rw [List.nil_append, readName_cons hrest.2]
      simp [hempty, hrest.1]
  | cons d cs ih =>
    rw [List.all_cons, Bool.and_eq_true] at hall
    rw [List.length_cons] at hfuel
    obtain ⟨j, rfl⟩ : ∃ j, k = j + 1 := ⟨k - 1, by omega⟩
    rw [List.cons_append, readName_cons (ne_backslash_of_isNamePart hall.1)]
    simp only [hempty, hall.1]
    have hrest' : readName (j + 1) (cs ++ rest) (d :: out) false =
        some (String.ofList ((d :: out).reverse ++ cs), false, rest) :=
      ih hall.2 (List.cons_ne_nil d out) (by simp) j (by omega)
    simpa using hrest'

theorem isDigit_of_isNameStart (hc : isNameStart c = true) : c.isDigit = false := by
  have hdigits : ∀ n < 58, 48 ≤ n → isNameStart (Char.ofNat n) = false := by decide
  cases hdigit : c.isDigit with
  | false => rfl
  | true =>
    have hrange : 48 ≤ c.toNat ∧ c.toNat ≤ 57 := by
      simpa [Char.isDigit, UInt32.le_iff_toNat_le] using hdigit
    have hnot := hdigits c.toNat (by omega) hrange.1
    rw [Char.ofNat_toNat, hc] at hnot
    cases hnot

/-- A text that begins with the start of a name is read as a name. -/
theorem readToken_of_isNameStart (hc : isNameStart c = true) (left : Nat) (cs : List Char) :
    readToken left (c :: cs) = (readName (left + 1) (c :: cs) [] false).map fun found =>
      (.name found.1 found.2.1, nameSpan found.1 found.2.1 (c :: cs) found.2.2) := by
  have hne : ∀ d, isNameStart d = false → c ≠ d := by
    rintro d hd rfl
    rw [hc] at hd
    cases hd
  have hhash := hne '#' (by decide)
  have htick := hne '\x60' (by decide)
  have hdouble : (c == '"') = false := beq_eq_false_iff_ne.mpr (hne '"' (by decide))
  have hsingle : (c == '\'') = false := beq_eq_false_iff_ne.mpr (hne '\'' (by decide))
  have hpoint : (c == '.') = false := beq_eq_false_iff_ne.mpr (hne '.' (by decide))
  rw [readToken.eq_def]
  dsimp only
  split
  · rename_i heq
    cases heq
  · rename_i heq
    cases heq
    exact absurd rfl hhash
  · rename_i heq
    cases heq
    exact absurd rfl htick
  · rename_i heq
    cases heq
    simp only [hdouble, hsingle, hpoint, hc, isDigit_of_isNameStart hc, Bool.or_false, Bool.false_and,
      Bool.true_or, Bool.false_eq_true, if_false, if_true]

theorem isToken_name {x : String} (hx : IsName x.toList) (hrest : EndsName rest) :
    IsToken x.toList (.name x false) rest := by
  intro left hleft
  obtain ⟨hstart, hall⟩ := hx
  cases hcs : x.toList with
  | nil =>
    rw [hcs] at hstart
    cases hstart
  | cons c cs =>
    rw [hcs] at hstart hall hleft
    rw [List.head?_cons, Option.any_some] at hstart
    rw [List.all_cons, Bool.and_eq_true] at hall
    have hread : readName (left + 1) (c :: cs ++ rest) [] false = some (x, false, rest) := by
      have hlength : cs.length < left := by
        simp only [List.cons_append, List.length_cons, List.length_append] at hleft
        omega
      have hrest' : readName left (cs ++ rest) [c] false =
          some (String.ofList ([c].reverse ++ cs), false, rest) :=
        readName_of_parts hall.2 (List.cons_ne_nil c []) hrest hlength
      rw [List.reverse_singleton, List.singleton_append, ← hcs, String.ofList_toList] at hrest'
      rw [List.cons_append, readName_cons (ne_backslash_of_isNamePart hall.1)]
      simpa [hstart] using hrest'
    rw [List.cons_append, readToken_of_isNameStart hstart, ← List.cons_append, hread]
    rw [← hcs, String.length_toList]
    rfl

/-! ## Numbers -/

/-- Digits of a number that does not begin with a zero, unless it is zero. -/
def IsNumeral (ds : List Char) : Prop :=
  ds ≠ [] ∧ ds.all Char.isDigit = true ∧ (ds.head? = some '0' → ds.length = 1)

/-- Does no number go on with the text? -/
def EndsNumeral (rest : List Char) : Prop :=
  rest.head?.any (fun c => isNamePart c || c == '.' || c == '\\') = false

theorem isNamePart_of_isDigit (hc : c.isDigit = true) : isNamePart c = true := by
  rw [isNamePart, hc]
  simp

theorem digitValue_of_isDigit (hc : c.isDigit = true) : Numeral.digitValue c < 10 := by
  have hrange : 48 ≤ c.toNat ∧ c.toNat ≤ 57 := by
    simpa [Char.isDigit, UInt32.le_iff_toNat_le] using hc
  rw [Numeral.digitValue, if_pos hc]
  omega

theorem ne_of_isDigit (hc : c.isDigit = true) {d : Char} (hd : d.isDigit = false) : c ≠ d := by
  rintro rfl
  rw [hc] at hd
  cases hd

theorem numberRun_digits {ds : List Char} (hds : ds.all Char.isDigit = true) (hrest : EndsNumeral rest) :
    numberRun false (ds ++ rest) = ds := by
  induction ds with
  | nil =>
    cases rest with
    | nil => rfl
    | cons d rest =>
      rw [EndsNumeral, List.head?_cons, Option.any_some] at hrest
      rw [List.nil_append, numberRun, hrest]
      rfl
  | cons d ds ih =>
    rw [List.all_cons, Bool.and_eq_true] at hds
    have he : (d == 'e') = false := beq_eq_false_iff_ne.mpr (ne_of_isDigit hds.1 (by decide))
    have hE : (d == 'E') = false := beq_eq_false_iff_ne.mpr (ne_of_isDigit hds.1 (by decide))
    rw [List.cons_append, numberRun, isNamePart_of_isDigit hds.1, he, hE]
    simp [ih hds.2]

theorem takeWhile_eq_self {p : Char → Bool} {cs : List Char} (h : ∀ c ∈ cs, p c = true) :
    cs.takeWhile p = cs := by
  have happend : (cs ++ []).takeWhile p = cs ++ [].takeWhile p := List.takeWhile_append_of_pos h
  rwa [List.append_nil, List.takeWhile_nil, List.append_nil] at happend

theorem digits?_digits {ds : List Char} (hne : ds ≠ []) (hds : ds.all Char.isDigit = true) :
    digits? 10 ds = some (ds, []) := by
  have hdigits := List.all_eq_true.mp hds
  have htake : ds.takeWhile (fun c => decide (Numeral.digitValue c < 10) || c == '_') = ds :=
    takeWhile_eq_self fun c hc => by simp [digitValue_of_isDigit (hdigits c hc)]
  have hsplit : Text.splitAt '_' ds = [ds] := Text.splitBy_of_forall fun c hc =>
    beq_eq_false_iff_ne.mpr (ne_of_isDigit (hdigits c hc) (by decide))
  have hempty : ds.isEmpty = false := by simpa using hne
  simp only [digits?, htake, hsplit, List.drop_length]
  simp [hempty]

theorem unsigned?_digits {ds : List Char} (hne : ds ≠ []) (hds : ds.all Char.isDigit = true) :
    Numeral.unsigned? (ds ++ ['.']) = some (Numeral.nearest (Text.decimal ds)) := by
  have htake : (ds ++ ['.']).takeWhile Char.isDigit = ds := by
    rw [List.takeWhile_append_of_pos (List.all_eq_true.mp hds), List.takeWhile_cons_of_neg (by decide),
      List.append_nil]
  have hdrop : (ds ++ ['.']).dropWhile Char.isDigit = ['.'] := by
    rw [List.dropWhile_append_of_pos (List.all_eq_true.mp hds), List.dropWhile_cons_of_neg (by decide)]
  have hempty : ds.isEmpty = false := by simpa using hne
  simp only [Numeral.unsigned?, Number.Format.ofUnsigned?, htake, hdrop, hempty, Bool.false_and]
  simp [Numeral.nearest, Number.ofScientific]

theorem readDecimal_digits {ds : List Char} (hds : IsNumeral ds) :
    readDecimal ds = some (.number (Numeral.nearest (Text.decimal ds)), []) := by
  obtain ⟨hne, hall, hzero⟩ := hds
  have hleading : (decide (ds.length > 1) && ds.head? == some '0') = false := by
    cases h : ds.head? == some '0' with
    | false => simp
    | true => simp [hzero (eq_of_beq h)]
  simp only [readDecimal, digits?_digits hne hall, hleading]
  simp [readExponent, endsNumber, unsigned?_digits hne hall]

theorem isToken_numeral {ds : List Char} (hds : IsNumeral ds) (hrest : EndsNumeral rest) :
    IsToken ds (.number (Numeral.nearest (Text.decimal ds))) rest := by
  intro left _
  have hdigits := List.all_eq_true.mp hds.2.1
  have hnumber : readNumber ds = readDecimal ds := by
    rw [readNumber.eq_def]
    split
    all_goals first
      | rfl
      | exact absurd (hdigits _ (List.mem_cons_of_mem _ (List.mem_cons_self ..))) (by decide)
  cases hcs : ds with
  | nil => exact absurd hcs hds.1
  | cons d ds' =>
    have hd : d.isDigit = true := hdigits d (by rw [hcs]; exact List.mem_cons_self ..)
    have hrun : numberRun false (d :: (ds' ++ rest)) = d :: ds' := by
      rw [← List.cons_append, ← hcs, numberRun_digits hds.2.1 hrest]
    have hread : readNumber (d :: ds') = some (.number (Numeral.nearest (Text.decimal (d :: ds'))), []) := by
      rw [← hcs, hnumber, readDecimal_digits hds]
    have hdouble : (d == '"') = false := beq_eq_false_iff_ne.mpr (ne_of_isDigit hd (by decide))
    have hsingle : (d == '\'') = false := beq_eq_false_iff_ne.mpr (ne_of_isDigit hd (by decide))
    rw [List.cons_append, readToken.eq_def]
    dsimp only
    split
    · rename_i heq
      cases heq
    · rename_i heq
      cases heq
      cases hd
    · rename_i heq
      cases heq
      cases hd
    · rename_i heq
      cases heq
      simp [hdouble, hsingle, hd, hrun, hread]

/-! ## White space is not part of words -/

/-- Ranges of codes beyond ASCII that are white space in scripts. -/
def spaceRanges : List (Nat × Nat) :=
  [(0xA0, 0xA0), (0x1680, 0x1680), (0x2000, 0x200A), (0x2028, 0x2029), (0x202F, 0x202F), (0x205F, 0x205F),
    (0x3000, 0x3000), (0xFEFF, 0xFEFF)]

theorem toNat_of_isSpace (hc : isLineEnd c = true ∨ Utf16.isSpace c = true) :
    c.toNat < 33 ∨ ∃ s ∈ spaceRanges, s.1 ≤ c.toNat ∧ c.toNat ≤ s.2 := by
  obtain h | h := hc
  · simp only [isLineEnd, Bool.or_eq_true, beq_iff_eq] at h
    rcases h with ((rfl | rfl) | rfl) | rfl
    · exact .inl (by decide)
    · exact .inl (by decide)
    · exact .inr ⟨(0x2028, 0x2029), by decide, by decide⟩
    · exact .inr ⟨(0x2028, 0x2029), by decide, by decide⟩
  · simp only [Utf16.isSpace, Text.isBlank, Bool.or_eq_true, Bool.and_eq_true, bne_iff_ne, beq_iff_eq,
      decide_eq_true_eq] at h
    obtain ⟨h, hne⟩ | rfl := h
    · have hnext : c.toNat ≠ 0x85 := fun hn => hne (by rw [← Char.ofNat_toNat c, hn])
      rcases h with (((((((((h | h) | h) | h) | h) | h) | h) | h) | h) | h) | h
      · exact .inl (by omega)
      · exact .inl (by omega)
      · exact absurd h hnext
      · exact .inr ⟨(0xA0, 0xA0), by decide, Nat.le_of_eq h.symm, Nat.le_of_eq h⟩
      · exact .inr ⟨(0x1680, 0x1680), by decide, Nat.le_of_eq h.symm, Nat.le_of_eq h⟩
      · exact .inr ⟨(0x2000, 0x200A), by decide, h⟩
      · exact .inr ⟨(0x2028, 0x2029), by decide, by rw [h]; decide⟩
      · exact .inr ⟨(0x2028, 0x2029), by decide, by rw [h]; decide⟩
      · exact .inr ⟨(0x202F, 0x202F), by decide, Nat.le_of_eq h.symm, Nat.le_of_eq h⟩
      · exact .inr ⟨(0x205F, 0x205F), by decide, Nat.le_of_eq h.symm, Nat.le_of_eq h⟩
      · exact .inr ⟨(0x3000, 0x3000), by decide, Nat.le_of_eq h.symm, Nat.le_of_eq h⟩
    · exact .inr ⟨(0xFEFF, 0xFEFF), by decide, by decide⟩

theorem isWordChar_of_spaceRanges {s : Nat × Nat} (hs : s ∈ spaceRanges) (hc : s.1 ≤ c.toNat ∧ c.toNat ≤ s.2) :
    Text.isWordChar c = false := by
  have hapart : (Text.wordRanges.toList.all fun r =>
      spaceRanges.all fun s => Nat.blt r.2 s.1 || Nat.blt s.2 r.1) = true := by decide +kernel
  have hwide : ∀ s ∈ spaceRanges, 128 ≤ s.1 := by decide
  have := hwide s hs
  rw [Text.isWordChar, if_neg (by omega), ← Array.any_toList, List.any_eq_false]
  intro r hr
  have hdisjoint := List.all_eq_true.mp (List.all_eq_true.mp hapart r hr) s hs
  simp only [Bool.or_eq_true, Nat.blt_eq] at hdisjoint
  simp only [Bool.and_eq_true, decide_eq_true_eq]
  omega

theorem isNamePart_of_isSpace (hc : isLineEnd c = true ∨ Utf16.isSpace c = true) : isNamePart c = false := by
  obtain h | ⟨s, hs, hle⟩ := toNat_of_isSpace hc
  · have hlow : ∀ n < 33, isNamePart (Char.ofNat n) = false := by decide
    rw [← Char.ofNat_toNat c]
    exact hlow _ h
  · have hwide : ∀ s ∈ spaceRanges, 128 ≤ s.1 ∧ ∀ n ∈ [0x200C, 0x200D], n < s.1 ∨ s.2 < n := by decide
    obtain ⟨h128, hjoiners⟩ := hwide s hs
    have hcode : ∀ d : Char, d.toNat ∈ [0x200C, 0x200D] ∨ d.toNat < 128 → c ≠ d := by
      rintro d hd rfl
      obtain hd | hd := hd
      · have := hjoiners _ hd
        omega
      · omega
    have hunderscore := hcode '_' (.inr (by decide))
    have hdollar := hcode '$' (.inr (by decide))
    have hjoiner := hcode '\u200c' (.inl (by decide))
    have hjoiner' := hcode '\u200d' (.inl (by decide))
    have hletter : c.isAlpha = false ∧ c.isDigit = false := by
      have : 128 ≤ c.val.toNat := Nat.le_trans h128 hle.1
      have halpha : c.isAlpha = (decide (c.val ≥ 65 ∧ c.val ≤ 90) || decide (c.val ≥ 97) && decide (c.val ≤ 122)) :=
        rfl
      have hdigit : c.isDigit = (decide (c.val ≥ 48) && decide (c.val ≤ 57)) := rfl
      simp only [halpha, hdigit, ge_iff_le, UInt32.le_iff_toNat_le]
      simp
      omega
    simp [isNamePart, isNameStart, isWordChar_of_spaceRanges hs hle, hletter, hunderscore, hdollar, hjoiner,
      hjoiner']

/-! ## Words after space -/

instance : Decidable (IsSolid c) := inferInstanceAs (Decidable (_ ∧ _ ∧ _))

theorem IsGap.nil : IsGap [] := List.forall_mem_nil _

theorem IsGap.space : IsGap [' '] := by
  intro c hc
  rw [List.mem_singleton.mp hc]
  decide

theorem endsNumeral_cons (hc : isNamePart c = false) (hpoint : c ≠ '.') (hslash : c ≠ '\\') :
    EndsNumeral (c :: rest) := by
  simp [EndsNumeral, hc, hpoint, hslash]

/-- Neither a name nor a number goes on with space. -/
theorem EndsNumeral.after_gap (h : EndsNumeral rest) (hgap : IsGap gap) : EndsNumeral (gap ++ rest) := by
  cases gap with
  | nil => exact h
  | cons c gap =>
    have hc := hgap c (List.mem_cons_self ..)
    refine endsNumeral_cons (isNamePart_of_isSpace hc) ?_ ?_ <;>
    · rintro rfl
      exact absurd hc (by decide)

theorem EndsNumeral.endsName (h : EndsNumeral rest) : EndsName rest := by
  cases rest with
  | nil => rfl
  | cons c rest =>
    simp only [EndsNumeral, EndsName, List.head?_cons, Option.any_some, Bool.or_eq_false_iff] at h ⊢
    exact ⟨h.1.1, h.2⟩

/-- Is the text a name in ASCII? -/
def IsAsciiName (cs : List Char) : Prop :=
  ∃ c rest, cs = c :: rest ∧ Source.isNameStart c = true ∧ rest.all Source.isNamePart = true

theorem isNameStart_of_source (hc : Source.isNameStart c = true) : isNameStart c = true := by
  simp only [Source.isNameStart, Bool.or_eq_true] at hc
  obtain (h | h) | h := hc <;> simp [isNameStart, h]

theorem isNamePart_of_source (hc : Source.isNamePart c = true) : isNamePart c = true := by
  simp only [Source.isNamePart, Char.isAlphanum, Bool.or_eq_true] at hc
  obtain ((h | h) | h) | h := hc <;> simp [isNamePart, isNameStart, h]

theorem isNamePart_of_isNameStart (hc : isNameStart c = true) : isNamePart c = true := by
  simp [isNamePart, hc]

theorem isSolid_of_isNamePart (hc : isNamePart c = true) : IsSolid c := by
  have hspace : ¬ (isLineEnd c = true ∨ Utf16.isSpace c = true) := by
    intro h
    rw [isNamePart_of_isSpace h] at hc
    cases hc
  rw [not_or, Bool.not_eq_true, Bool.not_eq_true] at hspace
  refine ⟨hspace.1, hspace.2, ?_⟩
  rintro rfl
  exact absurd hc (by decide)

theorem IsAsciiName.isName {cs : List Char} (h : IsAsciiName cs) : IsName cs := by
  obtain ⟨c, rest, rfl, hc, hrest⟩ := h
  have hstart := isNameStart_of_source hc
  refine ⟨hstart, List.all_eq_true.mpr fun d hd => ?_⟩
  obtain rfl | hd := List.mem_cons.mp hd
  · exact isNamePart_of_isNameStart hstart
  · exact isNamePart_of_source (List.all_eq_true.mp hrest d hd)

theorem leads_mark {m : String} (hm : m ∈ ["[", "]", "(", ")", "\x7b", "\x7d", ";"]) (hgap : IsGap gap)
    (rest : List Char) : Leads (gap ++ m.toList) [⟨.mark m, gap.any isLineEnd⟩] rest := by
  have htoken := isToken_mark hm rest
  simp only [List.mem_cons, List.not_mem_nil, or_false] at hm
  rcases hm with rfl | rfl | rfl | rfl | rfl | rfl | rfl <;> exact htoken.leads (by decide) hgap

theorem leads_equals (hgap : IsGap gap) (rest : List Char) :
    Leads (gap ++ ['=']) [⟨.mark "=", gap.any isLineEnd⟩] (' ' :: rest) :=
  (isToken_equals rest).leads (by decide) hgap

theorem leads_or (hgap : IsGap gap) (rest : List Char) :
    Leads (gap ++ ['|', '|']) [⟨.mark "||", gap.any isLineEnd⟩] (' ' :: rest) :=
  (isToken_or rest).leads (by decide) hgap

theorem leads_operator {m : String} (hm : m ∈ ["+", "|", "<<"]) (hgap : IsGap gap)
    (hc : c ∉ ['+', '|', '<', '=', '>']) (rest : List Char) :
    Leads (gap ++ m.toList) [⟨.mark m, gap.any isLineEnd⟩] (c :: rest) := by
  have htoken := isToken_operator hm hc rest
  simp only [List.mem_cons, List.not_mem_nil, or_false] at hm
  rcases hm with rfl | rfl | rfl <;> exact htoken.leads (by decide) hgap

theorem leads_minus (hgap : IsGap gap) (hc : c ≠ '-' ∧ c ≠ '=') (rest : List Char) :
    Leads (gap ++ ['-']) [⟨.mark "-", gap.any isLineEnd⟩] (c :: rest) :=
  (isToken_minus hc rest).leads (by decide) hgap

theorem leads_name {x : String} (hx : IsName x.toList) (hgap : IsGap gap) (hrest : EndsName rest) :
    Leads (gap ++ x.toList) [⟨.name x false, gap.any isLineEnd⟩] rest := by
  have htoken := isToken_name hx hrest
  obtain ⟨hstart, -⟩ := hx
  generalize x.toList = cs at hstart htoken ⊢
  cases cs with
  | nil => cases hstart
  | cons c cs => exact htoken.leads (isSolid_of_isNamePart (isNamePart_of_isNameStart hstart)) hgap

theorem IsNumeral.exists_cons {ds : List Char} (h : IsNumeral ds) :
    ∃ d ds', ds = d :: ds' ∧ d.isDigit = true := by
  obtain ⟨hne, hall, -⟩ := h
  cases ds with
  | nil => exact absurd rfl hne
  | cons d ds =>
    rw [List.all_cons, Bool.and_eq_true] at hall
    exact ⟨d, ds, rfl, hall.1⟩

theorem leads_numeral {ds : List Char} (hds : IsNumeral ds) (hgap : IsGap gap) (hrest : EndsNumeral rest) :
    Leads (gap ++ ds) [⟨.number (Numeral.nearest (Text.decimal ds)), gap.any isLineEnd⟩] rest := by
  have htoken := isToken_numeral hds hrest
  obtain ⟨d, ds', rfl, hd⟩ := hds.exists_cons
  exact htoken.leads (isSolid_of_isNamePart (isNamePart_of_isDigit hd)) hgap

end Script
end Restyle
