import Restyle.Proofs.Source.AsType
import Restyle.Source.Lowering

/-!
# Restyle.Proofs.Source.Copied

Code that lowering copies character by character (`Copies`): what stands between tokens, names,
numbers, marks, and the parameters of an arrow function without types.
-/

namespace Restyle
namespace Source

open Scan Listing

variable {s : Listing} {c : Cursor} {d : Char} {t u r : List Char} {p q : Previous} {stop : Stop}
  {need fuel : Nat}

/-- The cursor after a text that has been copied. -/
def Cursor.past (c : Cursor) (t : List Char) (p : Previous) : Cursor :=
  { pos := c.pos + t.length, previous := p, written := t.reverse ++ c.written }

namespace Cursor

@[simp] theorem past_pos : (c.past t p).pos = c.pos + t.length := rfl

@[simp] theorem past_written : (c.past t p).written = t.reverse ++ c.written := rfl

theorem past_append : (c.past t p).past u q = c.past (t ++ u) q := by
  simp [past, Nat.add_assoc]

theorem copyTo_eq (h : s.tail c.pos = t ++ r) :
    c.copyTo s (c.pos + t.length) = c.past t c.previous := by
  rw [copyTo, slice_add h]
  rfl

end Cursor

/-- Lowering copies a text from the cursor on, one construct after the other; `p` is the last token
then. -/
inductive Copies (s : Listing) (need : Nat) : Cursor → List Char → Previous → Prop where
  | nil {c : Cursor} : Copies s need c [] c.previous
  | cons {c : Cursor} {d : Char} {t u : List Char} {p q : Previous}
      (hat : s.charAt? c.pos = some d) (hd : d ≠ '{' ∧ d ≠ '}')
      (hcopy : ∀ fuel, need ≤ fuel → construct s fuel d c = .ok (c.past (d :: t) p))
      (hrest : Copies s need (c.past (d :: t) p) u q) : Copies s need c (d :: t ++ u) q

namespace Copies

/-- One construct that is copied. -/
theorem single (h : s.tail c.pos = d :: t ++ r) (hd : d ≠ '{' ∧ d ≠ '}')
    (hcopy : ∀ fuel, need ≤ fuel → construct s fuel d c = .ok (c.past (d :: t) p)) :
    Copies s need c (d :: t) p := by
  rw [← List.append_nil (d :: t)]
  exact .cons (charAt?_of_cons h) hd hcopy .nil

theorem append (h : Copies s need c t p) (h' : Copies s need (c.past t p) u q) :
    Copies s need c (t ++ u) q := by
  induction h with
  | nil => exact h'
  | cons hat hd hcopy _ ih =>
    rw [List.append_assoc]
    rw [← Cursor.past_append] at h'
    exact .cons hat hd hcopy (ih h')

theorem mono {need' : Nat} (h : Copies s need c t p) (hneed : need ≤ need') :
    Copies s need' c t p := by
  induction h with
  | nil => exact .nil
  | cons hat hd hcopy _ ih =>
    exact .cons hat hd (fun fuel hfuel => hcopy fuel (Nat.le_trans hneed hfuel)) ih

theorem code_cons (hstop : stop.reached c.pos = false) (hat : s.charAt? c.pos = some d)
    (hd : d ≠ '{' ∧ d ≠ '}') (hcopy : construct s fuel d c = .ok (c.past (d :: t) p)) :
    code s (fuel + 1) stop 0 c = code s fuel stop 0 (c.past (d :: t) p) := by
  have hdepth : braceDepth 0 d = 0 := by simp [braceDepth, hd]
  rw [code, hstop, if_neg (by decide), hat]
  simp [hd, hcopy, hdepth]

/-- Code that is copied up to the end of the source ends there. -/
theorem code_text (h : Copies s need c t p) (hend : s.charAt? (c.pos + t.length) = none)
    (hfuel : need + t.length < fuel) : code s fuel .text 0 c = .ok (c.past t p) := by
  induction h generalizing fuel with
  | @nil c =>
    have hnone : s.charAt? c.pos = none := hend
    obtain ⟨fuel, rfl⟩ : ∃ n, fuel = n + 1 := ⟨fuel - 1, by omega⟩
    rw [code, hnone]
    rfl
  | @cons c d t u p q hat hd hcopy _ ih =>
    rw [List.length_append, List.length_cons] at hfuel
    obtain ⟨fuel, rfl⟩ : ∃ n, fuel = n + 1 := ⟨fuel - 1, by omega⟩
    rw [List.length_append, ← Nat.add_assoc] at hend
    rw [code_cons rfl hat hd (hcopy fuel (by omega)), ih hend (by omega), Cursor.past_append]

/-- Code with a limit inside text that is copied ends after the construct that reaches it. -/
theorem code_limit {i : Nat} (h : Copies s need c t p) (hi : i ≤ c.pos + t.length)
    (hfuel : need + t.length < fuel) :
    ∃ t₁ t₂ p₁, t = t₁ ++ t₂ ∧ i ≤ c.pos + t₁.length ∧
      code s fuel (.limit i) 0 c = .ok (c.past t₁ p₁) ∧ Copies s need (c.past t₁ p₁) t₂ p := by
  induction h generalizing fuel with
  | @nil c =>
    obtain ⟨fuel, rfl⟩ : ∃ n, fuel = n + 1 := ⟨fuel - 1, by omega⟩
    refine ⟨[], [], c.previous, rfl, hi, ?_, .nil⟩
    rw [code]
    exact if_pos (decide_eq_true hi)
  | @cons c d t u p q hat hd hcopy hrest ih =>
    rw [List.length_append, List.length_cons] at hfuel
    rw [List.length_append, ← Nat.add_assoc] at hi
    obtain ⟨fuel, rfl⟩ : ∃ n, fuel = n + 1 := ⟨fuel - 1, by omega⟩
    by_cases hreached : i ≤ c.pos
    · refine ⟨[], d :: t ++ u, c.previous, rfl, hreached, ?_, .cons hat hd hcopy hrest⟩
      rw [code]
      exact if_pos (decide_eq_true hreached)
    · obtain ⟨t₁, t₂, p₁, htext, hi, hcode, hcopies⟩ := ih hi (show need + u.length < fuel by omega)
      have hstop : (Stop.limit i).reached c.pos = false := decide_eq_false hreached
      rw [Cursor.past_append] at hcode hcopies
      refine ⟨d :: t ++ t₁, t₂, p₁, by rw [htext, List.append_assoc], ?_, ?_, hcopies⟩
      · rw [List.length_append, ← Nat.add_assoc]
        exact hi
      · rw [code_cons hstop hat hd (hcopy fuel (by omega)), hcode]

/-- Code that is copied up to its limit ends there. -/
theorem code_eq (h : Copies s need c t p) (hfuel : need + t.length < fuel) :
    code s fuel (.limit (c.pos + t.length)) 0 c = .ok (c.past t p) := by
  obtain ⟨t₁, t₂, p₁, rfl, hi, hcode, hcopies⟩ := h.code_limit (Nat.le_refl _) hfuel
  rw [List.length_append] at hi
  obtain rfl : t₂ = [] := List.eq_nil_of_length_eq_zero (by omega)
  cases hcopies
  rw [List.append_nil] at hcode ⊢
  exact hcode

end Copies

/-! ## Tokens -/

theorem construct_space (hd : Text.isSpace d = true) :
    construct s (fuel + 1) d c = .ok (c.past [d] c.previous) := by
  simp only [Text.isSpace, Bool.or_eq_true, beq_iff_eq] at hd
  obtain (((rfl | rfl) | rfl) | rfl) | rfl := hd <;> (rw [construct]; rfl)

theorem construct_comment {body : List Char} (hbody : ¬ ['*', '/'] <:+: body)
    (h : s.tail c.pos = '/' :: '*' :: (body ++ '*' :: '/' :: r)) :
    construct s (fuel + 1) '/' c =
      .ok (c.past ('/' :: '*' :: (body ++ ['*', '/'])) c.previous) := by
  have hinner : s.tail (c.pos + 2) = body ++ '*' :: '/' :: r := tail_add (t := ['/', '*']) h
  have hend := commentEnd?_add hbody hinner
  have hnext : s.charAt? (c.pos + 1) = some '*' := charAt?_of_cons (tail_succ h)
  have htext : s.tail c.pos = ('/' :: '*' :: (body ++ ['*', '/'])) ++ r := by
    rw [h]
    simp
  have hlength : c.pos + 2 + body.length + 2 =
      c.pos + ('/' :: '*' :: (body ++ ['*', '/'])).length := by
    simp
    omega
  rw [construct, hnext]
  simp only [Cursor.blockComment, hend, hlength, Cursor.copyTo_eq htext]
  rfl

/-- Marks that are copied. -/
theorem construct_mark (hd : ['?', ':', ',', '=', '>', '+', '-'].contains d = true) :
    construct s (fuel + 1) d c = .ok (c.past [d] (.mark d)) := by
  simp only [List.contains_iff_mem, List.mem_cons, List.not_mem_nil, or_false] at hd
  obtain rfl | rfl | rfl | rfl | rfl | rfl | rfl := hd <;> (rw [construct]; rfl)

theorem construct_close : construct s (fuel + 1) ')' c = .ok (c.past [')'] .value) := by
  rw [construct]
  rfl

/-- Before this token no type and no cast ends. -/
def Previous.IsFresh (p : Previous) : Prop := p.endsValue = false ∧ (p == .mark '}') = false

theorem isNameStart_skipSpaces_eq_false {i : Nat} (h : GoesOn isNameFollower (s.tail i)) :
    (s.charAt? (skipSpaces s.chars i)).any isNameStart = false := by
  rw [skipSpaces, charAt?_skip, Option.any_eq_false]
  intro d hd
  cases hstart : isNameStart d with
  | false => simp
  | true =>
    have hfollows := h d hd
    rw [(apart_of_class (q := isNameStart) (by decide) (by decide) hstart).2] at hfollows
    cases hfollows

theorem nameFollows_eq_false {i : Nat} (h : GoesOn isNameFollower (s.tail i)) :
    s.nameFollows i = false := by
  rw [nameFollows, isNameStart_skipSpaces_eq_false h, Bool.and_false]

theorem wordAfter_eq_nil {i : Nat} (h : GoesOn isNameFollower (s.tail i)) :
    s.wordAfter i = [] := by
  have hhere : nameEnd s.chars (skipSpaces s.chars i) = skipSpaces s.chars i := by
    refine skip_add (t := []) rfl nofun fun d hd => ?_
    rw [← Listing.tail, skipSpaces, tail_skip] at hd
    cases hpart : isNamePart d with
    | false => rfl
    | true =>
      have hfollows := h d hd
      rw [(apart_of_class (q := isNamePart) (by decide) (by decide) hpart).2] at hfollows
      cases hfollows
  rw [wordAfter, hhere, slice_eq, Nat.sub_self, List.take_zero, ite_self]

theorem binding_eq_self (h : GoesOn isNameFollower (s.tail c.pos)) : c.binding s = c := by
  have hname := isNameStart_skipSpaces_eq_false h
  have hbrace := charAt?_skipSpaces_ne h (c := '{') rfl
  have hbracket := charAt?_skipSpaces_ne h (c := '[') rfl
  unfold Cursor.binding
  dsimp only
  cases hat : s.charAt? (skipSpaces s.chars c.pos) with
  | none => rfl
  | some d =>
    rw [hat] at hname hbrace hbracket
    simp only [Option.any_some] at hname
    have hbrace : (d == '{') = false := by simpa using hbrace
    have hbracket : (d == '[') = false := by simpa using hbracket
    simp [hbrace, hbracket, hname]

theorem word_eq {x : Name} (h : s.tail c.pos = x.text ++ r) (hr : GoesOn isNameFollower r)
    (hfresh : c.previous.IsFresh) : c.word s = .ok (c.past x.text (.word x.text)) := by
  have hstop : nameEnd s.chars c.pos = c.pos + x.text.length := x.nameEnd_eq h hr
  have hafter : GoesOn isNameFollower (s.tail (c.pos + x.text.length)) := (tail_add h).symm ▸ hr
  have hcopied : { c.copyTo s (c.pos + x.text.length) with previous := .word x.text } =
      c.past x.text (.word x.text) := by
    rw [Cursor.copyTo_eq h]
    rfl
  unfold Cursor.word
  simp only [hstop, slice_add h, hcopied, declaresName, declaresAlias, nameFollows_eq_false hafter,
    wordAfter_eq_nil hafter, castsBraced, hfresh.1, hfresh.2,
    binding_eq_self (c := c.past x.text (.word x.text)) hafter]
  simp

theorem construct_name (hd : isNameStart d = true) : construct s (fuel + 1) d c = c.word s := by
  have hmark {a : Char} (ha : isNameStart a = false) : (d == a) = false :=
    beq_eq_false_of_class ha hd
  rw [construct]
  simp [hd, hmark (a := '/') rfl, hmark (a := '\'') rfl, hmark (a := '"') rfl,
    hmark (a := '\x60') rfl, hmark (a := '{') rfl, hmark (a := '}') rfl,
    hmark (a := '<') rfl, hmark (a := '(') rfl, hmark (a := '!') rfl, hmark (a := '.') rfl]

theorem construct_digit (hd : d.isDigit = true) :
    construct s (fuel + 1) d c = .ok (c.number s) := by
  have hmark {a : Char} (ha : a.isDigit = false) : (d == a) = false :=
    beq_eq_false_of_class ha hd
  rw [construct]
  simp [hd, isNameStart_of_isDigit hd, hmark (a := '/') rfl, hmark (a := '\'') rfl,
    hmark (a := '"') rfl, hmark (a := '\x60') rfl, hmark (a := '{') rfl,
    hmark (a := '}') rfl, hmark (a := '<') rfl, hmark (a := '(') rfl, hmark (a := '!') rfl,
    hmark (a := '.') rfl]

theorem construct_point (hd : d.isDigit = true) (h : s.tail c.pos = '.' :: d :: r) :
    construct s (fuel + 1) '.' c = .ok (c.number s) := by
  have hnext : s.charAt? (c.pos + 1) = some d := charAt?_of_cons (tail_succ h)
  rw [construct, hnext]
  simp [hd]

/-- A number is copied as far as it goes. -/
theorem number_eq (h : s.tail c.pos = d :: t ++ r)
    (ht : ∀ e ∈ t, Cursor.isNumberPart e = true)
    (hr : ∀ e, r.head? = some e → Cursor.isNumberPart e = false) :
    c.number s = c.past (d :: t) .value := by
  have hstop : skip Cursor.isNumberPart s.chars (c.pos + 1) = c.pos + (d :: t).length := by
    rw [skip_add (tail_succ h) ht hr, List.length_cons]
    omega
  rw [Cursor.number, hstop, Cursor.copyTo_eq h]
  rfl

namespace Copies

theorem gap {g : Gap} (h : s.tail c.pos = g.text ++ r) : Copies s 1 c g.text c.previous := by
  induction g generalizing c with
  | nil => exact nil
  | cons f g ih =>
    rw [Gap.text_cons, List.append_assoc] at h
    rw [Gap.text_cons]
    have hfirst : Copies s 1 c f.text c.previous := by
      cases f with
      | space d hd =>
        refine single h ⟨ne_of_class rfl hd, ne_of_class rfl hd⟩ fun fuel hfuel => ?_
        obtain ⟨fuel, rfl⟩ := Nat.exists_eq_add_one.mpr hfuel
        exact construct_space hd
      | comment body hbody =>
        refine single h ⟨by decide, by decide⟩ fun fuel hfuel => ?_
        obtain ⟨fuel, rfl⟩ := Nat.exists_eq_add_one.mpr hfuel
        refine construct_comment (r := Gap.text g ++ r) hbody ?_
        rw [h]
        simp [Filler.text]
    exact hfirst.append (ih (c := c.past f.text c.previous) (tail_add h))

theorem name {x : Name} (h : s.tail c.pos = x.text ++ r) (hr : GoesOn isNameFollower r)
    (hfresh : c.previous.IsFresh) : Copies s 1 c x.text (.word x.text) := by
  have hbrace : x.first ≠ '{' ∧ x.first ≠ '}' :=
    ⟨ne_of_class rfl x.isStart, ne_of_class rfl x.isStart⟩
  refine single h hbrace fun fuel hfuel => ?_
  obtain ⟨fuel, rfl⟩ := Nat.exists_eq_add_one.mpr hfuel
  rw [construct_name x.isStart]
  exact word_eq h hr hfresh

theorem mark (hd : ['?', ':', ',', '=', '>', '+', '-'].contains d = true)
    (h : s.tail c.pos = d :: r) : Copies s 1 c [d] (.mark d) := by
  have hbrace : d ≠ '{' ∧ d ≠ '}' := ⟨ne_of_class rfl hd, ne_of_class rfl hd⟩
  refine single h hbrace fun fuel hfuel => ?_
  obtain ⟨fuel, rfl⟩ := Nat.exists_eq_add_one.mpr hfuel
  exact construct_mark hd

theorem close (h : s.tail c.pos = ')' :: r) : Copies s 1 c [')'] .value := by
  refine single h ⟨by decide, by decide⟩ fun fuel hfuel => ?_
  obtain ⟨fuel, rfl⟩ := Nat.exists_eq_add_one.mpr hfuel
  exact construct_close

theorem digits {n : Digits} (h : s.tail c.pos = n.text ++ r)
    (hr : ∀ e, r.head? = some e → Cursor.isNumberPart e = false) :
    Copies s 1 c n.text .value := by
  have hbrace : n.first ≠ '{' ∧ n.first ≠ '}' :=
    ⟨ne_of_class rfl n.isDigit, ne_of_class rfl n.isDigit⟩
  refine single h hbrace fun fuel hfuel => ?_
  obtain ⟨fuel, rfl⟩ := Nat.exists_eq_add_one.mpr hfuel
  rw [construct_digit n.isDigit, number_eq h n.isPart hr]

theorem point {n : Digits} (h : s.tail c.pos = '.' :: n.text ++ r)
    (hr : ∀ e, r.head? = some e → Cursor.isNumberPart e = false) :
    Copies s 1 c ('.' :: n.text) .value := by
  refine single h ⟨by decide, by decide⟩ fun fuel hfuel => ?_
  obtain ⟨fuel, rfl⟩ := Nat.exists_eq_add_one.mpr hfuel
  rw [construct_point n.isDigit h, number_eq h (fun _ => n.isNumberPart_of_mem) hr]

theorem significand {n : Numeral} (h : s.tail c.pos = n.significand ++ r)
    (hr : ∀ e, r.head? = some e → Cursor.isNumberPart e = false) :
    Copies s 1 c n.significand .value := by
  unfold Numeral.significand at *
  cases hpoint : n.beginsWithPoint with
  | true =>
    rw [hpoint] at h
    exact point h hr
  | false =>
    rw [hpoint] at h
    exact digits h hr

theorem numeral {n : Numeral} (h : s.tail c.pos = n.text ++ r) (hr : GoesOn isFollower r) :
    Copies s 1 c n.text .value := by
  have hend : ∀ e, r.head? = some e → Cursor.isNumberPart e = false := fun e he =>
    (hr.mono fun _ => isNameFollower_of_isFollower).head_eq_false
      (fun _ => apart_of_class (by decide) (by decide)) he
  rw [Numeral.text, List.append_assoc] at h
  rw [Numeral.text]
  cases hexponent : n.exponent with
  | none =>
    have htext : n.exponentText = [] := by rw [Numeral.exponentText, hexponent]
    rw [htext] at h ⊢
    rw [List.append_nil]
    exact significand h hend
  | some exponent =>
    obtain ⟨negative, exponent⟩ := exponent
    have htext : n.exponentText = (if negative then '-' else '+') :: exponent.text := by
      rw [Numeral.exponentText, hexponent]
    have hsign : ['?', ':', ',', '=', '>', '+', '-'].contains (if negative then '-' else '+') ∧
        Cursor.isNumberPart (if negative then '-' else '+') = false := by
      cases negative <;> decide
    rw [htext] at h ⊢
    generalize (if negative then '-' else '+') = sign at h hsign ⊢
    have hafter := tail_add h
    have hfirst : Copies s 1 c n.significand .value :=
      significand h (by intro e he; cases he; exact hsign.2)
    have hmark : Copies s 1 (c.past n.significand .value) [sign] (.mark sign) :=
      mark hsign.1 hafter
    have hlast : Copies s 1 ((c.past n.significand .value).past [sign] (.mark sign))
        exponent.text .value := digits (tail_succ hafter) hend
    exact hfirst.append (hmark.append hlast)

end Copies

/-! ## Parameters -/

variable {i start close : Nat} {e : Option Nat}

/-- In a list of parameters such a character is passed over; an equals sign may be noted. -/
theorem parameterFrom_cons (hi : i < close) (hat : s.charAt? i = some d)
    (hd : isParameterPart d = true) (he : ∀ k, e = some k → k ≤ i) :
    ∃ e', (∀ k, e' = some k → k ≤ i) ∧
      parameterFrom s.chars start close (fuel + 1) i 0 0 { equals := e, stop := close } =
        parameterFrom s.chars start close fuel (i + 1) 0 0 { equals := e', stop := close } := by
  have hat : s.chars[i]? = some d := hat
  simp only [isParameterPart, isQuiet, Bool.and_eq_true, Bool.not_eq_true', bne_iff_ne, ne_eq,
    Bool.or_eq_false_iff] at hd
  obtain ⟨⟨⟨⟨hquote, hopening⟩, hclosing⟩, hcomma⟩, hmark⟩ := hd
  rw [parameterFrom, if_pos hi, hat]
  by_cases hsign : d = '=' ∧ e = none ∧ isDefaultSign s.chars start i = true
  · obtain ⟨rfl, rfl, hdefault⟩ := hsign
    refine ⟨some i, fun k hk => by cases hk; exact Nat.le_refl _, ?_⟩
    simp [isQuoteMark, isOpening, isClosing, hdefault]
  · refine ⟨e, he, ?_⟩
    cases e with
    | some k => simp [hquote, hopening, hclosing, hcomma]
    | none =>
      by_cases hd : d = '='
      · subst hd
        have hdefault : isDefaultSign s.chars start i = false := by simpa using hsign
        simp [isQuoteMark, isOpening, isClosing, hdefault]
      · simp [hquote, hopening, hclosing, hcomma, hmark, hd]

theorem parameterFrom_append (ht : ∀ a ∈ t, isParameterPart a = true) (h : s.tail i = t ++ r)
    (hclose : i + t.length ≤ close) (he : ∀ k, e = some k → k ≤ i) :
    ∃ e', (∀ k, e' = some k → k ≤ i + t.length) ∧
      parameterFrom s.chars start close (fuel + t.length) i 0 0 { equals := e, stop := close } =
        parameterFrom s.chars start close fuel (i + t.length) 0 0
          { equals := e', stop := close } := by
  induction t generalizing i e with
  | nil => exact ⟨e, he, rfl⟩
  | cons d t ih =>
    rw [List.length_cons] at hclose
    obtain ⟨e₁, he₁, hfirst⟩ : ∃ e₁, (∀ k, e₁ = some k → k ≤ i) ∧
        parameterFrom s.chars start close (fuel + t.length + 1) i 0 0
            { equals := e, stop := close } =
          parameterFrom s.chars start close (fuel + t.length) (i + 1) 0 0
            { equals := e₁, stop := close } :=
      parameterFrom_cons (by omega) (charAt?_of_cons h) (ht d (List.mem_cons_self ..)) he
    obtain ⟨e₂, he₂, hrest⟩ := ih (fun a ha => ht a (List.mem_cons_of_mem _ ha)) (tail_succ h)
      (by omega) (fun k hk => Nat.le_succ_of_le (he₁ k hk))
    have hend : i + 1 + t.length = i + (d :: t).length := by
      rw [List.length_cons]
      omega
    rw [hend] at he₂ hrest
    exact ⟨e₂, he₂, hfirst.trans hrest⟩

theorem parameter_eq (ht : ∀ a ∈ t, isParameterPart a = true) (h : s.tail i = t ++ r)
    (hclose : i + t.length ≤ close) :
    ∃ n e, (∀ k, e = some k → k ≤ i + t.length) ∧ parameter s.chars i close =
      parameterFrom s.chars i close (n + 1) (i + t.length) 0 0 { equals := e, stop := close } := by
  have hsize := length_le_size h
  have hfuel : s.chars.size + 1 = s.chars.size - t.length + 1 + t.length := by omega
  refine ⟨s.chars.size - t.length, ?_⟩
  rw [parameter, hfuel]
  exact parameterFrom_append ht h hclose nofun

theorem parameter_comma (ht : ∀ a ∈ t, isParameterPart a = true) (h : s.tail i = t ++ ',' :: r)
    (hclose : i + t.length < close) :
    ∃ e, (∀ k, e = some k → k ≤ i + t.length) ∧
      parameter s.chars i close = { equals := e, stop := i + t.length } := by
  have hat : s.chars[i + t.length]? = some ',' := charAt?_of_cons (tail_add h)
  obtain ⟨n, e, he, hread⟩ := parameter_eq ht h (Nat.le_of_lt hclose)
  refine ⟨e, he, ?_⟩
  rw [hread, parameterFrom, if_pos hclose, hat]
  rfl

theorem parameter_last (ht : ∀ a ∈ t, isParameterPart a = true) (h : s.tail i = t ++ r) :
    ∃ e, (∀ k, e = some k → k ≤ i + t.length) ∧
      parameter s.chars i (i + t.length) = { equals := e, stop := i + t.length } := by
  obtain ⟨n, e, he, hread⟩ := parameter_eq ht h (Nat.le_refl _)
  exact ⟨e, he, by rw [hread, parameterFrom, if_neg (Nat.lt_irrefl _)]⟩

theorem Copies.param {q : Param} (h : s.tail c.pos = q.text ++ r) (hr : GoesOn isFollower r)
    (hfresh : c.previous.IsFresh) : Copies s 1 c q.text (.word q.name.text) := by
  simp only [Param.text, List.append_assoc] at h ⊢
  have hnext : GoesOn isNameFollower (q.after.text ++ r) :=
    q.after.goesOn (by decide) (hr.mono fun _ => isNameFollower_of_isFollower)
  have hname : Copies s 1 (c.past q.lead.text c.previous) q.name.text (.word q.name.text) :=
    .name (tail_add h) hnext hfresh
  have hafter : Copies s 1
      ((c.past q.lead.text c.previous).past q.name.text (.word q.name.text)) q.after.text
      (.word q.name.text) := .gap (tail_add (tail_add h))
  exact (Copies.gap h).append (hname.append hafter)

theorem isParameterPart_of_isNamePart (hd : isNamePart d = true) : isParameterPart d = true := by
  have hquiet : isQuiet d = true := isQuiet_of_class (p := isNamePart) (by decide) hd
  have hcomma : d ≠ ',' := ne_of_class (p := isNamePart) rfl hd
  have hcolon : d ≠ ':' := ne_of_class (p := isNamePart) rfl hd
  simp [isParameterPart, hquiet, hcomma, hcolon]

theorem Gap.isParameterPart_of_mem {g : Gap} (hg : g.keepsTo isParameterPart = true) :
    ∀ e ∈ g.text, isParameterPart e = true :=
  Gap.forall_mem_text (by decide) hg

theorem Param.isParameterPart_of_mem {q : Param}
    (hq : (q.lead.keepsTo isParameterPart && q.after.keepsTo isParameterPart) = true) :
    ∀ e ∈ q.text, isParameterPart e = true := by
  rw [Bool.and_eq_true] at hq
  intro e he
  obtain he | he := List.mem_append.mp he
  · obtain he | he := List.mem_append.mp he
    · exact Gap.isParameterPart_of_mem hq.1 e he
    · exact isParameterPart_of_isNamePart (q.name.isNamePart_of_mem he)
  · exact Gap.isParameterPart_of_mem hq.2 e he

/-- Where a parameter begins. -/
def Cursor.fresh (c : Cursor) : Cursor := { c with previous := .start }

theorem Cursor.isFresh_fresh (c : Cursor) : c.fresh.previous.IsFresh := ⟨rfl, rfl⟩

/-- A parameter without a type is copied, also in two pieces. -/
theorem parameters_succ (hread : parameter s.chars c.pos close =
      { equals := e, stop := c.pos + t.length })
    (he : ∀ k, e = some k → k ≤ c.pos + t.length) (hcopies : Copies s 1 c.fresh t p)
    (hfuel : 1 + t.length < fuel) :
    parameters s (fuel + 1) close c =
      if c.pos + t.length ≥ close then .ok (c.past t p)
      else parameters s fuel close (c.past (t ++ [',']) p) := by
  have hpast : { (c.past t p).write [','] with pos := c.pos + t.length + 1 } =
      c.past (t ++ [',']) p := Cursor.past_append (u := [','])
  rw [← hpast, parameters, hread]
  cases e with
  | none =>
    have hcode : code s fuel (.limit (c.pos + t.length)) 0 { c with previous := .start } =
        .ok (c.past t p) := Copies.code_eq (c := c.fresh) hcopies hfuel
    have hname : Parameter.nameStop { stop := c.pos + t.length } = c.pos + t.length := rfl
    simp only [hname, hcode, Cursor.passType]
    rfl
  | some k =>
    -- an equals sign in a comment: code is copied to the end of that comment, then to the end
    obtain ⟨t₁, t₂, p₁, rfl, -, hfirst, hrest⟩ := hcopies.code_limit (he k rfl) hfuel
    rw [List.length_append, ← Nat.add_assoc] at hfuel
    have hname : Parameter.nameStop { equals := some k, stop := c.pos + (t₁ ++ t₂).length } = k :=
      rfl
    have hfirst : code s fuel (.limit k) 0 { c with previous := .start } = .ok (c.past t₁ p₁) :=
      hfirst
    have hlast : code s fuel (.limit (c.pos + (t₁ ++ t₂).length)) 0 (c.past t₁ p₁) =
        .ok (c.past (t₁ ++ t₂) p) := by
      rw [List.length_append, ← Nat.add_assoc, ← Cursor.past_append]
      exact Copies.code_eq (c := c.past t₁ p₁) hrest (by omega)
    simp only [hname, hfirst, Cursor.passType]
    simp only [Option.isSome, if_true, Bool.false_eq_true, if_false, hlast]

theorem parameters_last (ht : ∀ a ∈ t, isParameterPart a = true) (h : s.tail c.pos = t ++ r)
    (hcopies : Copies s 1 c.fresh t p) (hfuel : t.length + 2 < fuel) :
    parameters s fuel (c.pos + t.length) c = .ok (c.past t p) := by
  obtain ⟨fuel, rfl⟩ : ∃ n, fuel = n + 1 := ⟨fuel - 1, by omega⟩
  obtain ⟨e, he, hread⟩ := parameter_last ht h
  rw [parameters_succ hread he hcopies (by omega), if_pos (Nat.le_refl _)]

/-- A list of parameters without types is copied. -/
theorem parameters_copied {last : Gap} {params : List Param}
    (h : s.tail c.pos = paramsText last params ++ ')' :: r)
    (hparams : params.all (fun q =>
      q.lead.keepsTo isParameterPart && q.after.keepsTo isParameterPart) = true)
    (hlast : last.keepsTo isParameterPart = true)
    (hfuel : (paramsText last params).length + 2 < fuel) :
    ∃ p, parameters s fuel (c.pos + (paramsText last params).length) c =
      .ok (c.past (paramsText last params) p) := by
  have hclass := Gap.isParameterPart_of_mem hlast
  have hend : GoesOn isFollower (')' :: r) := .cons (by decide) (by decide)
  induction params generalizing c fuel with
  | nil => exact ⟨_, parameters_last hclass h (.gap h) hfuel⟩
  | cons q params ih =>
    simp only [List.all_cons, Bool.and_eq_true] at hparams
    have hpart : ∀ a ∈ q.text, isParameterPart a = true :=
      Param.isParameterPart_of_mem (Bool.and_eq_true_iff.mpr hparams.1)
    cases params with
    | nil =>
      rw [paramsText_single] at h hfuel ⊢
      have hall : ∀ a ∈ q.text ++ last.text, isParameterPart a = true := fun a ha =>
        (List.mem_append.mp ha).elim (hpart a) (hclass a)
      have hq := h
      rw [List.append_assoc] at hq
      have hcopies : Copies s 1 c.fresh q.text (.word q.name.text) :=
        .param hq (last.goesOn (by decide) hend) c.isFresh_fresh
      exact ⟨_, parameters_last hall h (hcopies.append (.gap (tail_add hq))) hfuel⟩
    | cons q' params =>
      rw [paramsText_cons, List.append_assoc, List.cons_append] at h
      rw [paramsText_cons, List.length_append, List.length_cons] at hfuel
      obtain ⟨fuel, rfl⟩ : ∃ n, fuel = n + 1 := ⟨fuel - 1, by omega⟩
      have hq : Copies s 1 c.fresh q.text (.word q.name.text) :=
        .param h (.cons (by decide) (by decide)) c.isFresh_fresh
      have hnext : s.tail (c.past (q.text ++ [',']) (.word q.name.text)).pos =
          paramsText last (q' :: params) ++ ')' :: r := by
        rw [List.append_cons] at h
        exact tail_add h
      have htext : paramsText last (q :: q' :: params) =
          (q.text ++ [',']) ++ paramsText last (q' :: params) := by
        rw [paramsText_cons, List.append_cons]
      have hclose : c.pos + (paramsText last (q :: q' :: params)).length =
          (c.past (q.text ++ [',']) (.word q.name.text)).pos +
            (paramsText last (q' :: params)).length := by
        rw [htext, List.length_append, ← Nat.add_assoc]
        rfl
      have hlt : c.pos + q.text.length <
          c.pos + (paramsText last (q :: q' :: params)).length := by
        rw [paramsText_cons, List.length_append, List.length_cons]
        omega
      obtain ⟨e, he, hread⟩ := parameter_comma hpart h hlt
      obtain ⟨p, hrest⟩ := ih hnext hparams.2
        (show (paramsText last (q' :: params)).length + 2 < fuel by omega)
      refine ⟨p, ?_⟩
      rw [parameters_succ hread he hq (by omega), if_neg (Nat.not_le_of_lt hlt), hclose, hrest,
        Cursor.past_append, htext]

/-! ## Parentheses -/

/-- A parenthesis that opens no parameters. -/
theorem construct_open (hplain : ∀ close, s.dialect.hasTypes = true →
    close? s.chars c.pos = some close → s.parametersEnd? c.previous close = none) :
    construct s (fuel + 2) '(' c = .ok (c.past ['('] (.mark '(')) := by
  rw [construct]
  simp only [beq_self_eq_true, if_true]
  show openParen s (fuel + 1) c = _
  rw [openParen]
  dsimp only
  cases htypes : s.dialect.hasTypes with
  | false => rfl
  | true =>
    simp only [if_true]
    cases hclose : close? s.chars c.pos with
    | none => rfl
    | some close =>
      rw [Option.bind_some, hplain close htypes hclose]
      rfl

/-- The parameters of an arrow function in parentheses. -/
theorem construct_parameters {last sign : Gap} {params : List Param}
    (h : s.tail c.pos = '(' :: paramsText last params ++
      ')' :: (sign.text ++ '=' :: '>' :: r))
    (htypes : s.dialect.hasTypes = true) (hsign : sign.isBlank = true)
    (hlevel : Level (paramsText last params))
    (hparams : params.all (fun q =>
      q.lead.keepsTo isParameterPart && q.after.keepsTo isParameterPart) = true)
    (hlast : last.keepsTo isParameterPart = true)
    (hfuel : (paramsText last params).length + 5 ≤ fuel) :
    construct s fuel '(' c = .ok (c.past ('(' :: paramsText last params ++ [')']) .value) := by
  obtain ⟨fuel, rfl⟩ : ∃ n, fuel = n + 2 := ⟨fuel - 2, by omega⟩
  have hclose := close?_add hlevel h
  have hafter : s.tail (c.pos + 1 + (paramsText last params).length + 1) =
      sign.text ++ '=' :: '>' :: r := tail_succ (tail_add (tail_succ h))
  have hskip := skipSpaces_add hsign hafter (by intro e he; cases he; decide)
  have hstop : s.parametersEnd? c.previous (c.pos + 1 + (paramsText last params).length) =
      some (c.pos + 1 + (paramsText last params).length + 1) := by
    unfold parametersEnd?
    dsimp only
    rw [hskip, arrowAt_of_cons (tail_add hafter), if_pos rfl]
  obtain ⟨p, hcopied⟩ : ∃ p,
      parameters s fuel (c.pos + 1 + (paramsText last params).length) (c.copyBlank '(') =
        .ok ((c.copyBlank '(').past (paramsText last params) p) :=
    parameters_copied (c := c.copyBlank '(') (tail_succ h) hparams hlast (by omega)
  have hend : c.pos + 1 + (paramsText last params).length + 1 =
      c.pos + ('(' :: paramsText last params ++ [')']).length := by
    simp
    omega
  rw [construct]
  simp only [beq_self_eq_true, if_true]
  show openParen s (fuel + 1) c = _
  rw [openParen]
  simp only [htypes, if_true, hclose, Option.bind_some, hstop, hcopied, Except.map, hend]
  simp [Cursor.past, Cursor.write, Cursor.copyBlank]

namespace Copies

theorem openParen (h : s.tail c.pos = '(' :: r)
    (hplain : s.dialect.hasTypes = true →
      ∃ i, HoldsNoParameters s (i + 1) ∧ close? s.chars c.pos = some i) :
    Copies s 2 c ['('] (.mark '(') := by
  refine single h ⟨by decide, by decide⟩ fun fuel hfuel => ?_
  obtain ⟨fuel, rfl⟩ : ∃ n, fuel = n + 2 := ⟨fuel - 2, by omega⟩
  refine construct_open fun close htypes hclose => ?_
  obtain ⟨i, hholds, hi⟩ := hplain htypes
  rw [hclose] at hi
  cases hi
  exact hholds _ _ rfl

/-- A gap and a mark, and what comes after them. -/
theorem gapMark {g : Gap} (hneed : 1 ≤ need)
    (hd : ['?', ':', ',', '=', '>', '+', '-'].contains d = true)
    (h : s.tail c.pos = g.text ++ d :: r)
    (hrest : ∀ c' : Cursor, s.tail c'.pos = r → c'.pos = c.pos + g.text.length + 1 →
      c'.previous.IsFresh → ∃ p, Copies s need c' t p) :
    ∃ p, Copies s need c (g.text ++ d :: t) p := by
  have hgap : Copies s need c g.text c.previous := (gap h).mono hneed
  have hmark : Copies s need (c.past g.text c.previous) [d] (.mark d) :=
    (mark hd (tail_add h)).mono hneed
  have hfresh : (Previous.mark d).IsFresh := by
    simp only [List.contains_iff_mem, List.mem_cons, List.not_mem_nil, or_false] at hd
    obtain rfl | rfl | rfl | rfl | rfl | rfl | rfl := hd <;> exact ⟨rfl, rfl⟩
  obtain ⟨p, ht⟩ := hrest ((c.past g.text c.previous).past [d] (.mark d))
    (tail_succ (tail_add h)) rfl hfresh
  exact ⟨p, hgap.append (hmark.append ht)⟩

/-- The sign of an arrow function, and its body. -/
theorem arrow {sign : Gap} (hneed : 1 ≤ need) (h : s.tail c.pos = sign.text ++ '=' :: '>' :: r)
    (hbody : ∀ c' : Cursor, s.tail c'.pos = r → c'.pos = c.pos + sign.text.length + 2 →
      c'.previous.IsFresh → ∃ p, Copies s need c' t p) :
    ∃ p, Copies s need c (sign.text ++ '=' :: '>' :: t) p := by
  refine gapMark hneed (by decide) h fun c' h' hpos _ => ?_
  refine gapMark (g := []) hneed (by decide) h' fun c'' h'' hpos' hfresh => ?_
  refine hbody c'' h'' ?_ hfresh
  rw [hpos', hpos]
  rfl

/-- Parentheses that hold no parameters. -/
theorem parentheses {lead : Gap} (hneed : 2 ≤ need)
    (h : s.tail c.pos = lead.text ++ ('(' :: t ++ ')' :: r))
    (hlevel : s.dialect.hasTypes = true → Level t)
    (hholds : s.dialect.hasTypes = true →
      HoldsNoParameters s (c.pos + (lead.text ++ ('(' :: t ++ [')'])).length))
    (hinner : ∀ c' : Cursor, s.tail c'.pos = t ++ ')' :: r → c'.previous.IsFresh →
      ∃ p, Copies s need c' t p) :
    Copies s need c (lead.text ++ ('(' :: t ++ [')'])) .value := by
  have hparen := tail_add h
  have hlead : Copies s need c lead.text c.previous :=
    (gap h).mono (by omega)
  have hopen : Copies s 2 (c.past lead.text c.previous) ['('] (.mark '(') := by
    refine openParen hparen fun htypes =>
      ⟨_, ?_, close?_add (hlevel htypes) hparen⟩
    have hend : (c.past lead.text c.previous).pos + 1 + t.length + 1 =
        c.pos + (lead.text ++ ('(' :: t ++ [')'])).length := by
      simp
      omega
    rw [hend]
    exact hholds htypes
  obtain ⟨p, ht⟩ := hinner ((c.past lead.text c.previous).past ['('] (.mark '('))
    (tail_succ hparen) ⟨rfl, rfl⟩
  have hlast : Copies s need
      (((c.past lead.text c.previous).past ['('] (.mark '(')).past t p) [')'] .value :=
    (close (tail_add (tail_succ hparen))).mono (by omega)
  exact hlead.append ((hopen.mono hneed).append (ht.append hlast))

/-- Parameters between parentheses that are not taken for those of parameters. -/
theorem params {last : Gap} {params : List Param} (h : s.tail c.pos = paramsText last params ++ r)
    (hr : GoesOn isFollower r) (hfresh : c.previous.IsFresh) :
    ∃ p, Copies s 1 c (paramsText last params) p := by
  have hlast : GoesOn isFollower (last.text ++ r) := last.goesOn (by decide) hr
  induction params generalizing c with
  | nil => exact ⟨_, gap h⟩
  | cons q params ih =>
    cases params with
    | nil =>
      rw [paramsText_single, List.append_assoc] at h
      exact ⟨_, (param h hlast hfresh).append (gap (tail_add h))⟩
    | cons q' params =>
      rw [paramsText_cons, List.append_assoc, List.cons_append] at h
      have hcomma := tail_add h
      obtain ⟨p, hrest⟩ := ih (c := (c.past q.text (.word q.name.text)).past [','] (.mark ','))
        (tail_succ hcomma) ⟨rfl, rfl⟩
      have hq : Copies s 1 c q.text (.word q.name.text) :=
        param h (.cons (by decide) (by decide)) hfresh
      have hmark : Copies s 1 (c.past q.text (.word q.name.text)) [','] (.mark ',') :=
        mark (by decide) hcomma
      exact ⟨p, hq.append (hmark.append hrest)⟩

end Copies

end Source
end Restyle
