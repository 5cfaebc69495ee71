import Restyle.Proofs.Source.Untyped

/-!
# Restyle.Proofs.Source.AsType

What the reader of types makes of an expression without types. It reads as far as the expression
looks like a type: `Phrase.asType` foretells whether it finds a type there, and whether an arrow
can come after it (`Phrase.readsAsForetold`).
-/

namespace Restyle
namespace Source

open Scan Listing

variable {s : Listing} {i j fuel stop : Nat} {c : Char} {r : List Char} {p : Char → Bool}

/-! ## After white space -/

theorem charAt?_skipSpaces_ne (h : GoesOn p (s.tail i)) (hc : p c = false) :
    s.charAt? (skipSpaces s.chars i) ≠ some c := by
  intro hat
  rw [skipSpaces, charAt?_skip] at hat
  rw [h c hat] at hc
  cases hc

theorem arrowAt_skipSpaces_eq_false (h : GoesOn p (s.tail i)) (hp : p '=' = false) :
    arrowAt s.chars (skipSpaces s.chars i) = false := by
  have hne : s.chars[skipSpaces s.chars i]? ≠ some '=' := charAt?_skipSpaces_ne h hp
  simp [arrowAt, startsAt, hne]

/-- White space before a token is skipped. -/
theorem skipSpaces_add {g : Gap} (hg : g.isBlank = true) (h : s.tail i = g.text ++ r)
    (hr : ∀ c, r.head? = some c → Text.isSpace c = false) :
    skipSpaces s.chars i = i + g.text.length :=
  skip_add h (Gap.isSpace_of_isBlank hg) hr

theorem arrowAt_of_cons (h : s.tail i = '=' :: '>' :: r) : arrowAt s.chars i = true := by
  rw [arrowAt, startsAt_eq, h]
  simp

/-! ## Steps of the reader of types -/

/-- Marks at which no operand of a type begins. -/
def beginsNoOperand (c : Char) : Bool := c == '.' || c == '=' || isEnd c

theorem operand?_eq_none (hc : beginsNoOperand c = true) (cs : Chars) (i : Nat) :
    operand? cs i c = none := by
  simp only [beginsNoOperand, isEnd, Bool.or_eq_true, beq_iff_eq, List.contains_iff_mem,
    List.mem_cons, List.not_mem_nil, or_false] at hc
  obtain (rfl | rfl) | rfl | rfl | rfl | rfl | rfl := hc <;> rfl

/-- What comes after as much of a number as a type reads. -/
def isLiteralFollower (c : Char) : Bool := c == '_' || c == '+' || c == '-' || isFollower c

/-- Marks at which no suffix of a type begins. -/
def beginsNoSuffix (c : Char) : Bool := c == '=' || isLiteralFollower c

theorem beginsNoSuffix_of_isNameFollower (h : isNameFollower c = true) :
    beginsNoSuffix c = true := by
  obtain h | h := Bool.or_eq_true_iff.mp h
  · simp [beginsNoSuffix, h]
  · simp [beginsNoSuffix, isLiteralFollower, h]

theorem isLiteralFollower_of_isFollower (h : isFollower c = true) :
    isLiteralFollower c = true := by
  simp [isLiteralFollower, h]

theorem beginsNoSuffix_of_isLiteralFollower (h : isLiteralFollower c = true) :
    beginsNoSuffix c = true := by
  simp [beginsNoSuffix, h]

theorem suffix?_eq_none (hc : beginsNoSuffix c = true) (hat : s.charAt? i = some c) :
    suffix? s.chars i c = none := by
  simp only [beginsNoSuffix, isLiteralFollower, isFollower, isEnd, Bool.or_eq_true, beq_iff_eq,
    List.contains_iff_mem, List.mem_cons, List.not_mem_nil, or_false] at hc
  obtain rfl | ((rfl | rfl) | rfl) | rfl | rfl | rfl | rfl | rfl | rfl := hc
  case inr.inl.inl.inl =>
    -- an underscore begins a name, which is not the word of a type predicate
    have hword : slice s.chars i (nameEnd s.chars i) ≠ ['i', 's'] := by
      rw [nameEnd, skip_eq_add,
        slice_add (r := (s.tail i).dropWhile isNamePart) List.takeWhile_append_dropWhile.symm,
        tail_eq_cons hat, List.takeWhile_cons_of_pos (by decide)]
      intro heq
      cases heq
    simp [suffix?, hword]
  all_goals rfl

theorem typeEndFrom_of_beginsNoOperand (h : GoesOn beginsNoOperand (s.tail i)) :
    typeEndFrom s.chars fuel i stop true = stop := by
  cases fuel with
  | zero => rfl
  | succ fuel =>
    rw [typeEndFrom]
    cases hc : s.chars[skipSpaces s.chars i]? with
    | none => rfl
    | some c =>
      have hclass : beginsNoOperand c = true := by
        refine h c ?_
        rw [← charAt?_skip]
        exact hc
      simp only [if_true, operand?_eq_none hclass]

theorem typeEndFrom_of_beginsNoSuffix (h : GoesOn beginsNoSuffix (s.tail i)) :
    typeEndFrom s.chars fuel i stop false = stop := by
  cases fuel with
  | zero => rfl
  | succ fuel =>
    rw [typeEndFrom]
    cases hc : s.chars[skipSpaces s.chars i]? with
    | none => rfl
    | some c =>
      have hclass : beginsNoSuffix c = true := by
        refine h c ?_
        rw [← charAt?_skip]
        exact hc
      simp only [Bool.false_eq_true, if_false, suffix?_eq_none hclass hc]

/-- An operand is read after white space. -/
theorem typeEndFrom_operand {g : Gap} {step : TypeStep} (hg : g.isBlank = true)
    (h : s.tail i = g.text ++ c :: r) (hspace : Text.isSpace c = false)
    (hstep : operand? s.chars (i + g.text.length) c = some step) :
    typeEndFrom s.chars (fuel + 1) i stop true =
      typeEndFrom s.chars fuel step.next (step.stop.getD stop) step.wantsOperand := by
  have hskip : skipSpaces s.chars i = i + g.text.length :=
    skipSpaces_add hg h (by intro d hd; cases hd; exact hspace)
  have hat : s.chars[i + g.text.length]? = some c := charAt?_of_cons (tail_add h)
  rw [typeEndFrom, hskip]
  simp only [hat, if_true, hstep]

/-! ## Operands -/

theorem Name.nameEnd_eq {x : Name} (h : s.tail i = x.text ++ r) (hr : GoesOn isNameFollower r) :
    nameEnd s.chars i = i + x.text.length :=
  skip_add h (fun _ hc => x.isNamePart_of_mem hc)
    (fun _ hc => hr.head_eq_false (fun _ => apart_of_class (by decide) (by decide)) hc)

theorem operand?_name {x : Name} (h : s.tail i = x.text ++ r) (hr : GoesOn isNameFollower r) :
    operand? s.chars i x.first = some
      { next := i + x.text.length
        stop := if x.isTypeOperator then none else some (i + x.text.length)
        wantsOperand := x.isTypeOperator } := by
  have hslice : slice s.chars i (i + x.text.length) = x.text := slice_add h
  rw [operand?_of_isNameStart s.chars i x.isStart, x.nameEnd_eq h hr, hslice]
  rw [← Name.isTypeOperator]
  cases x.isTypeOperator with
  | true => rfl
  | false => rfl

theorem operand?_digit (hdigit : c.isDigit = true) :
    operand? s.chars i c = some
      { next := skip isLiteralPart s.chars (i + 1)
        stop := some (skip isLiteralPart s.chars (i + 1))
        wantsOperand := false } := by
  have hmark {a : Char} (ha : a.isDigit = false) : (c == a) = false :=
    beq_eq_false_of_class ha hdigit
  simp only [operand?, isQuoteMark, hdigit, hmark (a := '|') rfl, hmark (a := '&') rfl,
    hmark (a := '{') rfl, hmark (a := '[') rfl, hmark (a := '(') rfl, hmark (a := '<') rfl,
    hmark (a := '\'') rfl, hmark (a := '"') rfl, hmark (a := '\x60') rfl,
    Bool.or_false, Bool.or_true, Bool.false_eq_true, if_false, if_true]

theorem operand?_parentheses {t : List Char} (ht : Level t)
    (h : s.tail i = '(' :: t ++ ')' :: r) :
    operand? s.chars i '(' = some
      (if arrowAt s.chars (skipSpaces s.chars (i + 1 + t.length + 1)) then
        { next := skipSpaces s.chars (i + 1 + t.length + 1) + 2
          stop := some (i + 1 + t.length + 1)
          wantsOperand := true }
      else
        { next := i + 1 + t.length + 1
          stop := some (i + 1 + t.length + 1)
          wantsOperand := false }) := by
  have hclose := close?_add ht h
  simp only [operand?, hclose]
  rfl

/-! ## Numbers -/

theorem isLiteralFollower_apart (hc : isLiteralPart c = true) :
    Text.isSpace c = false ∧ isLiteralFollower c = false := by
  obtain ⟨hspace, hfollower⟩ :=
    apart_of_class (q := isLiteralPart) (by decide) (by decide) hc
  rw [isNameFollower, Bool.or_eq_false_iff] at hfollower
  have hunder : (c == '_') = false := beq_eq_false_of_class (p := isLiteralPart) (by decide) hc
  have hplus : (c == '+') = false := beq_eq_false_of_class (p := isLiteralPart) (by decide) hc
  have hminus : (c == '-') = false := beq_eq_false_of_class (p := isLiteralPart) (by decide) hc
  exact ⟨hspace, by simp [isLiteralFollower, hunder, hplus, hminus, hfollower]⟩

theorem goesOn_dropWhile_isLiteralPart {rest : List Char}
    (hrest : ∀ c ∈ rest, Cursor.isNumberPart c = true) (hr : GoesOn isLiteralFollower r) :
    GoesOn isLiteralFollower ((rest ++ r).dropWhile isLiteralPart) := by
  induction rest with
  | nil =>
    cases r with
    | nil => exact .nil
    | cons c r =>
      have hstop : isLiteralPart c = false :=
        hr.head_eq_false (fun _ => isLiteralFollower_apart) rfl
      rw [List.nil_append, List.dropWhile_cons_of_neg (by rw [hstop]; decide)]
      exact hr
  | cons c rest ih =>
    cases hc : isLiteralPart c with
    | true =>
      rw [List.cons_append, List.dropWhile_cons_of_pos hc]
      exact ih fun d hd => hrest d (List.mem_cons_of_mem _ hd)
    | false =>
      -- the underscore is the one character of a number that a type does not read
      have hpart := hrest c (List.mem_cons_self ..)
      have hunder : c = '_' := by
        simp only [isLiteralPart, Bool.or_eq_false_iff] at hc
        simpa [Cursor.isNumberPart, hc] using hpart
      subst hunder
      rw [List.cons_append, List.dropWhile_cons_of_neg (by decide)]
      exact .cons (by decide) (by decide)

theorem Numeral.goesOn_exponentText (n : Numeral) (hr : GoesOn isFollower r) :
    GoesOn isLiteralFollower (n.exponentText ++ r) := by
  unfold Numeral.exponentText
  split
  · rename_i negative digits _
    cases negative with
    | true => exact .cons (by decide) (by decide)
    | false => exact .cons (by decide) (by decide)
  · exact hr.mono fun _ => isLiteralFollower_of_isFollower

/-! ## Expressions -/

/-- Can no arrow and no block come after a type that ends before this? -/
def isHarmless (c : Char) : Bool := c != '=' && c != '{'

theorem isHarmless_of_isLiteralFollower (h : isLiteralFollower c = true) :
    isHarmless c = true := by
  simp only [isLiteralFollower, isFollower, isEnd, Bool.or_eq_true, beq_iff_eq,
    List.contains_iff_mem, List.mem_cons, List.not_mem_nil, or_false] at h
  obtain ((rfl | rfl) | rfl) | rfl | rfl | rfl | rfl | rfl | rfl := h <;> rfl

theorem isHarmless_of_isFollower (h : isFollower c = true) : isHarmless c = true :=
  isHarmless_of_isLiteralFollower (isLiteralFollower_of_isFollower h)

theorem beginsNoOperand_of_isEnd (h : isEnd c = true) : beginsNoOperand c = true := by
  simp [beginsNoOperand, h]

/-- A word after which an operand is wanted. -/
theorem typeEndFrom_typeOperator {g : Gap} {x : Name} (hg : g.isBlank = true)
    (hx : x.isTypeOperator = true) (h : s.tail i = g.text ++ (x.text ++ r))
    (hr : GoesOn isNameFollower r) :
    typeEndFrom s.chars (fuel + 1) i stop true =
      typeEndFrom s.chars fuel (i + g.text.length + x.text.length) stop true := by
  rw [typeEndFrom_operand hg h (isSpace_of_class (by decide) x.isStart)
    (operand?_name (tail_add h) hr), hx]
  rfl

/-- What is read of an expression before which a comment stands. -/
theorem typeEndFrom_of_not_isBlank {g : Gap} (hg : g.isBlank = false)
    (h : s.tail i = g.text ++ r) : typeEndFrom s.chars fuel i stop true = stop :=
  typeEndFrom_of_beginsNoOperand (h ▸ Gap.goesOn_of_not_isBlank hg (by decide))

/-- A name that is a type. -/
theorem goesOn_typeEndFrom_name {g : Gap} {x : Name}
    (hread : (g.isBlank && !x.isTypeOperator) = true) (h : s.tail i = g.text ++ (x.text ++ r))
    (hr : GoesOn isNameFollower r) (hharmless : GoesOn isHarmless r) :
    GoesOn isHarmless (s.tail (typeEndFrom s.chars (fuel + 1) i stop true)) := by
  rw [Bool.and_eq_true, Bool.not_eq_true'] at hread
  have hrest := tail_add (tail_add h)
  have hnext : GoesOn beginsNoSuffix (s.tail (i + g.text.length + x.text.length)) := by
    rw [hrest]
    exact hr.mono fun _ => beginsNoSuffix_of_isNameFollower
  rw [typeEndFrom_operand hread.1 h (isSpace_of_class (by decide) x.isStart)
    (operand?_name (tail_add h) hr), hread.2]
  simp only [Bool.false_eq_true, if_false, Option.getD_some]
  rw [typeEndFrom_of_beginsNoSuffix hnext, hrest]
  exact hharmless

/-- A name that is no type. -/
theorem typeEndFrom_of_not_type {g : Gap} {x : Name}
    (hread : (g.isBlank && !x.isTypeOperator) = false) (h : s.tail i = g.text ++ (x.text ++ r))
    (hr : GoesOn isNameFollower r)
    (hoperator : g.isBlank = true → x.isTypeOperator = true → GoesOn beginsNoOperand r) :
    typeEndFrom s.chars (fuel + 1) i stop true = stop := by
  cases hg : g.isBlank with
  | false => exact typeEndFrom_of_not_isBlank hg h
  | true =>
    have hx : x.isTypeOperator = true := by simpa [hg] using hread
    have hnext := hoperator hg hx
    rw [← tail_add (tail_add h)] at hnext
    rw [typeEndFrom_typeOperator hg hx h hr, typeEndFrom_of_beginsNoOperand hnext]

/-- Parentheses that are a type, for there is no arrow after them. -/
theorem goesOn_typeEndFrom_parentheses {g : Gap} {t : List Char} (hg : g.isBlank = true)
    (ht : Level t) (h : s.tail i = g.text ++ ('(' :: t ++ ')' :: r)) (hr : GoesOn isFollower r) :
    GoesOn isHarmless (s.tail (typeEndFrom s.chars (fuel + 1) i stop true)) := by
  have hparen := tail_add h
  have hrest : s.tail (i + g.text.length + 1 + t.length + 1) = r :=
    tail_succ (tail_add (tail_succ hparen))
  have harrow : arrowAt s.chars (skipSpaces s.chars (i + g.text.length + 1 + t.length + 1)) =
      false := arrowAt_skipSpaces_eq_false (hrest ▸ hr) (by decide)
  have hnext : GoesOn beginsNoSuffix (s.tail (i + g.text.length + 1 + t.length + 1)) := by
    rw [hrest]
    exact hr.mono fun _ h => beginsNoSuffix_of_isNameFollower (isNameFollower_of_isFollower h)
  rw [typeEndFrom_operand hg h (by decide) (operand?_parentheses ht hparen), harrow]
  simp only [Bool.false_eq_true, if_false]
  rw [typeEndFrom_of_beginsNoSuffix hnext]
  exact hrest ▸ hr.mono fun _ => isHarmless_of_isFollower

/-- A call of a word after which an operand is wanted. -/
theorem goesOn_typeEndFrom_operatorCall {g lead : Gap} {x : Name} {t : List Char}
    (hg : g.isBlank = true) (hx : x.isTypeOperator = true) (hlead : lead.isBlank = true)
    (ht : Level t) (h : s.tail i = g.text ++ (x.text ++ (lead.text ++ ('(' :: t ++ ')' :: r))))
    (hr : GoesOn isFollower r) :
    GoesOn isHarmless (s.tail (typeEndFrom s.chars (fuel + 2) i stop true)) := by
  have hnext : GoesOn isNameFollower (lead.text ++ ('(' :: t ++ ')' :: r)) :=
    lead.goesOn_mark (by decide)
  rw [typeEndFrom_typeOperator hg hx h hnext]
  exact goesOn_typeEndFrom_parentheses hlead ht (tail_add (tail_add h)) hr

/-- Parentheses and an arrow, after which a type goes on. -/
theorem typeEndFrom_parameters {g sign : Gap} {t : List Char} (hg : g.isBlank = true)
    (hsign : sign.isBlank = true) (ht : Level t)
    (h : s.tail i = g.text ++ ('(' :: t ++ ')' :: (sign.text ++ '=' :: '>' :: r))) :
    ∃ j k, s.tail j = r ∧
      typeEndFrom s.chars (fuel + 1) i stop true = typeEndFrom s.chars fuel j k true := by
  have hparen := tail_add h
  have hrest : s.tail (i + g.text.length + 1 + t.length + 1) = sign.text ++ '=' :: '>' :: r :=
    tail_succ (tail_add (tail_succ hparen))
  have hskip : skipSpaces s.chars (i + g.text.length + 1 + t.length + 1) =
      i + g.text.length + 1 + t.length + 1 + sign.text.length :=
    skipSpaces_add hsign hrest (by intro d hd; cases hd; decide)
  have harrow := tail_add hrest
  refine ⟨_, _, ?_, by
    rw [typeEndFrom_operand hg h (by decide) (operand?_parentheses ht hparen), hskip,
      arrowAt_of_cons harrow]
    rfl⟩
  exact tail_add (t := ['=', '>']) harrow

/-- A number that is a type, as far as it is one. -/
theorem goesOn_typeEndFrom_digits {g : Gap} {n : Numeral} (hg : g.isBlank = true)
    (h : s.tail i = g.text ++ (n.digits.text ++ (n.exponentText ++ r)))
    (hr : GoesOn isFollower r) :
    GoesOn isLiteralFollower (s.tail (typeEndFrom s.chars (fuel + 1) i stop true)) := by
  have hafter : GoesOn isLiteralFollower
      (s.tail (skip isLiteralPart s.chars (i + g.text.length + 1))) := by
    rw [tail_skip, tail_succ (tail_add h)]
    exact goesOn_dropWhile_isLiteralPart n.digits.isPart (n.goesOn_exponentText hr)
  rw [typeEndFrom_operand hg h (isSpace_of_class (by decide) n.digits.isDigit)
    (operand?_digit n.digits.isDigit),
    typeEndFrom_of_beginsNoSuffix (hafter.mono fun _ => beginsNoSuffix_of_isLiteralFollower)]
  exact hafter

/-- What may follow a phrase in its role. -/
def Role.precedes : Role → Char → Bool
  | operand => isFollower
  | expression => isEnd
  | arguments => fun c => c == ')' || c == '/'

/-- The end of the type at `i`, when its reading is known. -/
def TypeReading.Holds (s : Listing) (fuel i stop : Nat) : TypeReading → Prop
  | fails => typeEndFrom s.chars fuel i stop true = stop
  | ends => GoesOn isHarmless (s.tail (typeEndFrom s.chars fuel i stop true))
  | arrow => True

namespace Phrase

/-- The reader of types makes of the expression what is foretold, wherever it stands. -/
def ReadsAsForetold (s : Listing) {role : Role} (e : Phrase role) : Prop :=
  ∀ (i : Nat) (r : List Char) (fuel stop : Nat), s.tail i = e.text ++ r →
    GoesOn role.precedes r → (e.wantsOperand = true → GoesOn isEnd r) →
    e.text.length ≤ fuel → e.asType.Holds s fuel i stop

attribute [grind =] asType text wantsOperand isTame

theorem exists_fuel {role : Role} {e : Phrase role} (hrole : role ≠ .arguments)
    (hfuel : e.text.length ≤ fuel) : ∃ n, fuel = n + 1 :=
  Nat.exists_eq_add_one.mpr
    (Nat.lt_of_lt_of_le (List.length_pos_iff.mpr (e.text_ne_nil hrole)) hfuel)

theorem readsAsForetold_name (lead : Gap) (x : Name) : (name lead x).ReadsAsForetold s := by
  intro i r fuel stop h hr hwants hfuel
  obtain ⟨fuel, rfl⟩ := exists_fuel (by decide) hfuel
  simp only [text, List.append_assoc] at h
  have hnext : GoesOn isNameFollower r := hr.mono fun _ => isNameFollower_of_isFollower
  rw [asType]
  cases hread : lead.isBlank && !x.isTypeOperator with
  | true =>
    exact goesOn_typeEndFrom_name hread h hnext (hr.mono fun _ => isHarmless_of_isFollower)
  | false =>
    refine typeEndFrom_of_not_type hread h hnext fun hlead hx => ?_
    exact (hwants (by rw [wantsOperand, hlead, hx]; rfl)).mono fun _ => beginsNoOperand_of_isEnd

theorem readsAsForetold_number (lead : Gap) (n : Numeral) :
    (number lead n).ReadsAsForetold s := by
  intro i r fuel stop h hr _ hfuel
  obtain ⟨fuel, rfl⟩ := exists_fuel (by decide) hfuel
  simp only [text, Numeral.text, Numeral.significand, List.append_assoc] at h
  rw [asType]
  cases hlead : lead.isBlank with
  | false => exact typeEndFrom_of_not_isBlank hlead h
  | true =>
    cases hpoint : n.beginsWithPoint with
    | true =>
      refine typeEndFrom_of_beginsNoOperand ?_
      rw [h, hpoint]
      exact lead.goesOn_mark (by decide)
    | false =>
      rw [hpoint] at h
      exact (goesOn_typeEndFrom_digits hlead h hr).mono fun _ => isHarmless_of_isLiteralFollower

theorem readsAsForetold_group {lead last : Gap} {e : Phrase .expression}
    (he : e.keepsTo isQuiet = true) (hlast : last.keepsTo isQuiet = true) :
    (group lead e last).ReadsAsForetold s := by
  intro i r fuel stop h hr _ hfuel
  obtain ⟨fuel, rfl⟩ := exists_fuel (by decide) hfuel
  simp only [text, List.append_assoc, List.cons_append, List.nil_append] at h
  rw [asType]
  cases hlead : lead.isBlank with
  | false => exact typeEndFrom_of_not_isBlank hlead h
  | true =>
    rw [← List.append_assoc e.text] at h
    exact goesOn_typeEndFrom_parentheses hlead ((e.level he).append (Gap.level hlast)) h hr

theorem readsAsForetold_call {f : Phrase .operand} {lead last : Gap} {args : Phrase .arguments}
    (hf : f.ReadsAsForetold s) (hargs : args.keepsTo isQuiet = true)
    (hlast : last.keepsTo isQuiet = true) : (call f lead args last).ReadsAsForetold s := by
  intro i r fuel stop h hr _ hfuel
  simp only [text, List.append_assoc, List.cons_append, List.nil_append] at h
  simp only [text, List.length_append] at hfuel
  rw [asType]
  cases hread : f.wantsOperand && lead.isBlank with
  | true =>
    rw [Bool.and_eq_true] at hread
    cases f with
    | name g x =>
      simp only [wantsOperand, Bool.and_eq_true] at hread
      obtain ⟨⟨hg, hx⟩, hlead⟩ := hread
      obtain ⟨fuel, rfl⟩ : ∃ n, fuel = n + 2 := by
        simp only [text, Name.text, List.length_append, List.length_cons] at hfuel
        exact ⟨fuel - 2, by omega⟩
      rw [text, List.append_assoc, ← List.append_assoc args.text] at h
      exact goesOn_typeEndFrom_operatorCall hg hx hlead
        ((args.level hargs).append (Gap.level hlast)) h hr
    | number | group | call => cases hread.1
  | false =>
    refine hf i _ fuel stop h (lead.goesOn_mark (by decide)) (fun hwant => ?_) (by omega)
    rw [hwant, Bool.true_and] at hread
    exact Gap.goesOn_of_not_isBlank hread (by decide)

theorem readsAsForetold_conditional {test : Phrase .operand} {mark colon : Gap}
    {yes no : Phrase .expression} (htest : test.ReadsAsForetold s) :
    (conditional test mark yes colon no).ReadsAsForetold s := by
  intro i r fuel stop h _ _ hfuel
  simp only [text, List.append_assoc, List.cons_append] at h
  simp only [text, List.length_append] at hfuel
  exact htest i _ fuel stop h (mark.goesOn_mark (by decide))
    (fun _ => mark.goesOn_mark (by decide)) (by omega)

theorem readsAsForetold_arrow (lead : Gap) (x : Name) (sign : Gap) (body : Phrase .expression) :
    (arrow lead x sign body).ReadsAsForetold s := by
  intro i r fuel stop h _ _ hfuel
  obtain ⟨fuel, rfl⟩ := exists_fuel (by decide) hfuel
  simp only [text, List.append_assoc, List.cons_append] at h
  have hnext : GoesOn isNameFollower (sign.text ++ '=' :: '>' :: (body.text ++ r)) :=
    sign.goesOn_mark (by decide)
  rw [asType]
  cases hread : lead.isBlank && !x.isTypeOperator with
  | false =>
    exact typeEndFrom_of_not_type hread h hnext fun _ _ => sign.goesOn_mark (by decide)
  | true =>
    cases hsign : sign.isBlank with
    | true => trivial
    | false =>
      exact goesOn_typeEndFrom_name hread h hnext (Gap.goesOn_of_not_isBlank hsign (by decide))

theorem readsAsForetold_arrows {lead last sign : Gap} {params : List Param}
    {body : Phrase .expression} (hlevel : Level (paramsText last params))
    (hbody : body.ReadsAsForetold s) : (arrows lead params last sign body).ReadsAsForetold s := by
  intro i r fuel stop h hr _ hfuel
  obtain ⟨fuel, rfl⟩ := exists_fuel (by decide) hfuel
  simp only [text, List.append_assoc, List.cons_append, List.nil_append] at h
  rw [asType]
  cases hlead : lead.isBlank with
  | false => exact typeEndFrom_of_not_isBlank hlead h
  | true =>
    cases hsign : sign.isBlank with
    | false =>
      exact goesOn_typeEndFrom_parentheses hlead hlevel h
        (Gap.goesOn_of_not_isBlank hsign (by decide))
    | true =>
      obtain ⟨j, k, htail, hread⟩ : ∃ j k, s.tail j = body.text ++ r ∧
          typeEndFrom s.chars (fuel + 1) i stop true = typeEndFrom s.chars fuel j k true :=
        typeEndFrom_parameters hlead hsign hlevel h
      simp only [text, List.length_append, List.length_cons] at hfuel
      have hends := hbody j r fuel k htail hr (fun _ => hr) (by omega)
      cases hreading : body.asType with
      | ends =>
        rw [hreading] at hends
        show GoesOn isHarmless (s.tail (typeEndFrom s.chars (fuel + 1) i stop true))
        rw [hread]
        exact hends
      | fails | arrow => trivial

/-- Types are read as foretold. -/
theorem readsAsForetold {role : Role} (e : Phrase role) (hrole : role ≠ .arguments)
    (htame : e.isTame = true) : e.ReadsAsForetold s := by
  induction e with
  | name lead x => exact readsAsForetold_name lead x
  | number lead n => exact readsAsForetold_number lead n
  | group lead e last ih =>
    simp only [isTame, Bool.and_eq_true] at htame
    exact readsAsForetold_group htame.1.2 htame.2
  | call f lead args last ihf ihargs =>
    simp only [isTame, Bool.and_eq_true] at htame
    exact readsAsForetold_call (ihf (by decide) htame.1.1.1) htame.1.2 htame.2
  | operand e ih =>
    exact fun i r fuel stop h hr =>
      ih (by decide) htame i r fuel stop h (hr.mono fun _ => isFollower_of_isEnd)
  | conditional test mark yes colon no ihtest ihyes ihno =>
    simp only [isTame, Bool.and_eq_true] at htame
    exact readsAsForetold_conditional (ihtest (by decide) htame.1.1.1)
  | arrow lead x sign body ih => exact readsAsForetold_arrow lead x sign body
  | arrows lead params last sign body ih =>
    have hlevel := level_params htame
    simp only [isTame, Bool.and_eq_true] at htame
    exact readsAsForetold_arrows hlevel (ih (by decide) htame.2)
  | nothing | one e ih | more e comma rest ihe ihrest => exact absurd rfl hrole

end Phrase

/-! ## Parentheses that hold no parameters -/

/-- Parentheses that end here are not taken for those of parameters. -/
def HoldsNoParameters (s : Listing) (i : Nat) : Prop :=
  ∀ previous close, close + 1 = i → s.parametersEnd? previous close = none

theorem holdsNoParameters (h : GoesOn p (s.tail i))
    (hp : ['=', ':', '{'].all (!p ·) = true) : HoldsNoParameters s i := by
  rintro previous close rfl
  simp only [List.all_cons, List.all_nil, Bool.and_true, Bool.and_eq_true,
    Bool.not_eq_true'] at hp
  have hcolon := charAt?_skipSpaces_ne h hp.2.1
  have hbrace := charAt?_skipSpaces_ne h hp.2.2
  unfold parametersEnd?
  dsimp only
  rw [arrowAt_skipSpaces_eq_false h hp.1, if_neg (by decide)]
  split
  · exact absurd ‹_› hcolon
  · exact absurd ‹_› hbrace
  · rfl

theorem holdsNoParameters_of_gap {g : Gap} (hc : ['(', ')', ',', '?'].contains c = true)
    (h : s.tail i = g.text ++ c :: r) : HoldsNoParameters s i := by
  have hgoes : GoesOn (fun d => d == '/' || ['(', ')', ',', '?'].contains d) (s.tail i) := by
    rw [h]
    exact g.goesOn (by decide)
      (.cons (Bool.or_eq_true_iff.mpr (.inr hc)) (isSpace_of_class (by decide) hc))
  exact holdsNoParameters hgoes (by decide)

/-- Before the colon of a conditional stand no parameters, if what follows it is not taken for
their return type. -/
theorem holdsNoParameters_of_colon {colon : Gap} {no : Phrase .expression}
    (h : s.tail i = colon.text ++ ':' :: (no.text ++ r)) (hr : GoesOn isEnd r)
    (htame : no.isTame = true) (hno : colon.isBlank = true → no.asType ≠ .arrow) :
    HoldsNoParameters s i := by
  cases hcolon : colon.isBlank with
  | false =>
    have hgoes : GoesOn (· == '/') (s.tail i) := by
      rw [h]
      exact Gap.goesOn_of_not_isBlank hcolon (by decide)
    exact holdsNoParameters hgoes (by decide)
  | true =>
    rintro previous close rfl
    have hafter : skipSpaces s.chars (close + 1) = close + 1 + colon.text.length :=
      skipSpaces_add hcolon h (by intro d hd; cases hd; decide)
    have hmark := tail_add h
    have htail := tail_succ hmark
    have hfuel : no.text.length ≤ s.chars.size + 1 := by
      have := add_length_le_size htail (no.text_ne_nil (by decide))
      omega
    have hread : no.asType.Holds s (s.chars.size + 1) (close + 1 + colon.text.length + 1)
        (close + 1 + colon.text.length + 1) :=
      no.readsAsForetold (by decide) htame _ r _ _ htail hr (fun _ => hr) hfuel
    have harrow : arrowAt s.chars (close + 1 + colon.text.length) = false := by
      rw [arrowAt, startsAt_eq, hmark]
      rfl
    unfold parametersEnd?
    dsimp only
    rw [hafter, harrow, if_neg (by decide), charAt?_of_cons hmark]
    refine if_neg ?_
    rw [typeEnd]
    cases hreading : no.asType with
    | fails =>
      rw [hreading] at hread
      have hstop : typeEndFrom s.chars (s.chars.size + 1) (close + 1 + colon.text.length + 1)
          (close + 1 + colon.text.length + 1) true = close + 1 + colon.text.length + 1 := hread
      simp [hstop]
    | ends =>
      rw [hreading] at hread
      have hharmless : GoesOn isHarmless (s.tail _) := hread
      have hbrace := charAt?_skipSpaces_ne hharmless (c := '{') rfl
      simp [arrowAt_skipSpaces_eq_false hharmless rfl, hbrace]
    | arrow => exact absurd hreading (hno hcolon)

end Source
end Restyle
