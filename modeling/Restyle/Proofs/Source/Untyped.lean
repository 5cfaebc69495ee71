import Restyle.Proofs.Source.TagEnd

/-!
# Restyle.Proofs.Source.Untyped

Expressions without types as they are written: names, numbers, calls, parentheses, conditionals and
arrow functions, with white space and block comments before every token (`Phrase`, `Phrase.text`).

A colon in a conditional may be taken for that of a return type, and the operand after it for the
type; `Phrase.asType` foretells what the reader of types makes of such an operand. `Phrase.isTame`
are the expressions in which no such guess goes wrong and whose comments do not disturb the search
for brackets.
-/

namespace Restyle
namespace Source

open Scan Listing

/-! ## Between tokens -/

/-- A piece of what stands between two tokens. -/
inductive Filler where
  | space (c : Char) (isSpace : Text.isSpace c = true)
  /-- A block comment, which its text does not end early. -/
  | comment (body : List Char) (isOpen : ¬ ['*', '/'] <:+: body)

def Filler.text : Filler → List Char
  | space c _ => [c]
  | comment body _ => '/' :: '*' :: body ++ ['*', '/']

/-- What stands between two tokens. -/
def Gap : Type := List Filler

namespace Gap

def text (g : Gap) : List Char := List.flatMap Filler.text g

/-- No comments? -/
def isBlank (g : Gap) : Bool :=
  List.all g fun
    | .space .. => true
    | .comment .. => false

/-- Are the comments written with characters of a class? -/
def keepsTo (p : Char → Bool) (g : Gap) : Bool :=
  List.all g fun
    | .space .. => true
    | .comment body _ => body.all p

end Gap

/-! ## Tokens -/

structure Name where
  first : Char
  rest : List Char
  isStart : isNameStart first = true
  isPart : ∀ c ∈ rest, isNamePart c = true

def Name.text (x : Name) : List Char := x.first :: x.rest

/-- Is this a word after which a type still needs an operand? -/
def Name.isTypeOperator (x : Name) : Bool := typeOperators.contains (String.ofList x.text)

/-- A digit and what may follow it in a number. -/
structure Digits where
  first : Char
  rest : List Char
  isDigit : first.isDigit = true
  isPart : ∀ c ∈ rest, Cursor.isNumberPart c = true

def Digits.text (n : Digits) : List Char := n.first :: n.rest

/-- A number, which may begin with its point; a signed exponent ends it. -/
structure Numeral where
  beginsWithPoint : Bool
  digits : Digits
  /-- Is the exponent negative, and its digits. -/
  exponent : Option (Bool × Digits)

def Numeral.significand (n : Numeral) : List Char :=
  (if n.beginsWithPoint then ['.'] else []) ++ n.digits.text

def Numeral.exponentText (n : Numeral) : List Char :=
  match n.exponent with
  | some (negative, digits) => (if negative then '-' else '+') :: digits.text
  | none => []

def Numeral.text (n : Numeral) : List Char := n.significand ++ n.exponentText

/-- A parameter of an arrow function in parentheses. -/
structure Param where
  lead : Gap
  name : Name
  after : Gap

def Param.text (p : Param) : List Char := p.lead.text ++ p.name.text ++ p.after.text

/-- The parameters with commas between them, and what stands before the closing parenthesis. -/
def paramsText (last : Gap) : List Param → List Char
  | [] => last.text
  | [p] => p.text ++ last.text
  | p :: ps => p.text ++ ',' :: paramsText last ps

theorem paramsText_single {last : Gap} {p : Param} :
    paramsText last [p] = p.text ++ last.text := rfl

theorem paramsText_cons {last : Gap} {p q : Param} {ps : List Param} :
    paramsText last (p :: q :: ps) = p.text ++ ',' :: paramsText last (q :: ps) := rfl

/-! ## Expressions -/

/-- What a phrase serves as: before parentheses or a question mark, as an expression, or between the
parentheses of a call. -/
inductive Role where
  | operand
  | expression
  | arguments
  deriving DecidableEq

/-- Expressions as they are written. A gap stands before the token or mark after it. -/
inductive Phrase : Role → Type where
  | name (lead : Gap) (x : Name) : Phrase .operand
  | number (lead : Gap) (n : Numeral) : Phrase .operand
  | group (lead : Gap) (e : Phrase .expression) (last : Gap) : Phrase .operand
  | call (f : Phrase .operand) (lead : Gap) (args : Phrase .arguments) (last : Gap) :
      Phrase .operand
  | operand (e : Phrase .operand) : Phrase .expression
  | conditional (test : Phrase .operand) (mark : Gap) (yes : Phrase .expression) (colon : Gap)
      (no : Phrase .expression) : Phrase .expression
  | arrow (lead : Gap) (x : Name) (sign : Gap) (body : Phrase .expression) : Phrase .expression
  | arrows (lead : Gap) (params : List Param) (last sign : Gap) (body : Phrase .expression) :
      Phrase .expression
  | nothing : Phrase .arguments
  | one (e : Phrase .expression) : Phrase .arguments
  | more (e : Phrase .expression) (comma : Gap) (rest : Phrase .arguments) : Phrase .arguments

/-- What the reader of types makes of an expression: it is no type, it is a type that ends before
no arrow, or a type and an arrow. -/
inductive TypeReading where
  | fails
  | ends
  | arrow
  deriving DecidableEq

namespace Phrase

def text {role : Role} : Phrase role → List Char
  | name lead x => lead.text ++ x.text
  | number lead n => lead.text ++ n.text
  | group lead e last => lead.text ++ ('(' :: (e.text ++ last.text) ++ [')'])
  | call f lead args last => f.text ++ (lead.text ++ ('(' :: (args.text ++ last.text) ++ [')']))
  | operand e => e.text
  | conditional test mark yes colon no =>
    test.text ++ (mark.text ++ '?' :: (yes.text ++ (colon.text ++ ':' :: no.text)))
  | arrow lead x sign body => lead.text ++ (x.text ++ (sign.text ++ '=' :: '>' :: body.text))
  | arrows lead params last sign body =>
    lead.text ++ (('(' :: paramsText last params ++ [')']) ++
      (sign.text ++ '=' :: '>' :: body.text))
  | nothing => []
  | one e => e.text
  | more e comma rest => e.text ++ (comma.text ++ ',' :: rest.text)

/-- Does the expression end with a parenthesis? -/
def closes {role : Role} : Phrase role → Bool
  | group .. | call .. => true
  | operand e => e.closes
  | conditional _ _ _ _ no => no.closes
  | arrow _ _ _ body | arrows _ _ _ _ body => body.closes
  | name .. | number .. | nothing | one .. | more .. => false

/-- Is this a word after which a type needs an operand? -/
def wantsOperand {role : Role} : Phrase role → Bool
  | name lead x => lead.isBlank && x.isTypeOperator
  | operand e => e.wantsOperand
  | _ => false

/-- What the reader of types makes of the expression. -/
def asType {role : Role} : Phrase role → TypeReading
  | name lead x => if lead.isBlank && !x.isTypeOperator then .ends else .fails
  | number lead n => if lead.isBlank && !n.beginsWithPoint then .ends else .fails
  | group lead _ _ => if lead.isBlank then .ends else .fails
  | call f lead _ _ => if f.wantsOperand && lead.isBlank then .ends else f.asType
  | operand e => e.asType
  | conditional test .. => test.asType
  | arrow lead x sign _ =>
    if lead.isBlank && !x.isTypeOperator then if sign.isBlank then .arrow else .ends else .fails
  | arrows lead _ _ sign body =>
    if lead.isBlank then
      if sign.isBlank then
        match body.asType with
        | .ends => .ends
        | .fails | .arrow => .arrow
      else .ends
    else .fails
  | nothing | one .. | more .. => .fails

/-- Are the comments written with characters of a class? -/
def keepsTo {role : Role} (p : Char → Bool) : Phrase role → Bool
  | name lead _ | number lead _ => lead.keepsTo p
  | group lead e last => lead.keepsTo p && e.keepsTo p && last.keepsTo p
  | call f lead args last => f.keepsTo p && lead.keepsTo p && args.keepsTo p && last.keepsTo p
  | operand e | one e => e.keepsTo p
  | conditional test mark yes colon no =>
    test.keepsTo p && mark.keepsTo p && yes.keepsTo p && colon.keepsTo p && no.keepsTo p
  | arrow lead _ sign body => lead.keepsTo p && sign.keepsTo p && body.keepsTo p
  | arrows lead params last sign body =>
    lead.keepsTo p && params.all (fun q => q.lead.keepsTo p && q.after.keepsTo p) &&
      last.keepsTo p && sign.keepsTo p && body.keepsTo p
  | nothing => true
  | more e comma rest => e.keepsTo p && comma.keepsTo p && rest.keepsTo p

end Phrase

/-- Characters that do not count in a list of parameters. -/
def isParameterPart (c : Char) : Bool := isQuiet c && c != ',' && c != ':'

namespace Phrase

/-- Do the comments between parentheses leave the search for brackets alone, and is no operand of
a conditional taken for a return type? -/
def isTame {role : Role} : Phrase role → Bool
  | name .. | number .. | nothing => true
  | group _ e last => e.isTame && e.keepsTo isQuiet && last.keepsTo isQuiet
  | call f _ args last =>
    f.isTame && args.isTame && args.keepsTo isQuiet && last.keepsTo isQuiet
  | operand e | one e => e.isTame
  | conditional test _ yes colon no =>
    test.isTame && yes.isTame && no.isTame &&
      !(yes.closes && colon.isBlank && no.asType == .arrow)
  | arrow _ _ _ body => body.isTame
  | arrows _ params last sign body =>
    let p := if sign.isBlank then isParameterPart else isQuiet
    params.all (fun q => q.lead.keepsTo p && q.after.keepsTo p) && last.keepsTo p && body.isTame
  | more e _ rest => e.isTame && rest.isTame

end Phrase

/-! ## What comes next -/

/-- After white space the text goes on with a character of a class, or ends. -/
def GoesOn (p : Char → Bool) (r : List Char) : Prop :=
  ∀ d, (r.dropWhile Text.isSpace).head? = some d → p d = true

namespace GoesOn

variable {p q : Char → Bool} {r : List Char} {c : Char}

theorem nil : GoesOn p [] := nofun

theorem cons (hc : p c = true) (hspace : Text.isSpace c = false) : GoesOn p (c :: r) := by
  intro d hd
  rw [List.dropWhile_cons_of_neg (by rw [hspace]; decide)] at hd
  cases hd
  exact hc

theorem mono (h : GoesOn p r) (hpq : ∀ c, p c = true → q c = true) : GoesOn q r :=
  fun d hd => hpq d (h d hd)

/-- The next character is white space or of the class. -/
theorem head (h : GoesOn p r) (hc : r.head? = some c) : Text.isSpace c = true ∨ p c = true := by
  cases r with
  | nil => cases hc
  | cons a r =>
    cases hc
    cases hspace : Text.isSpace c with
    | true => exact .inl rfl
    | false => exact .inr (h c (by rw [List.dropWhile_cons_of_neg (by rw [hspace]; decide)]; rfl))

/-- The next character is not of a class without white space and without those that may follow. -/
theorem head_eq_false (h : GoesOn p r) (hq : ∀ c, q c = true → Text.isSpace c = false ∧ p c = false)
    (hc : r.head? = some c) : q c = false := by
  cases hqc : q c with
  | false => rfl
  | true =>
    obtain ⟨hspace, hp⟩ := hq c hqc
    obtain h | h := h.head hc
    · rw [hspace] at h; cases h
    · rw [hp] at h; cases h

end GoesOn

/-- Marks that end an operand or an expression, and the beginning of a comment. -/
def isEnd (c : Char) : Bool := [')', ',', '?', ':', '/'].contains c

/-- Marks after an operand, a parenthesis included. -/
def isFollower (c : Char) : Bool := c == '(' || isEnd c

/-- Marks after a name, the sign of an arrow included. -/
def isNameFollower (c : Char) : Bool := c == '=' || isFollower c

theorem isFollower_of_isEnd {c : Char} (h : isEnd c = true) : isFollower c = true := by
  simp [isFollower, h]

theorem isNameFollower_of_isFollower {c : Char} (h : isFollower c = true) :
    isNameFollower c = true := by
  simp [isNameFollower, h]

theorem mem_of_isNameFollower {c : Char} (h : isNameFollower c = true) :
    c ∈ ['=', '(', ')', ',', '?', ':', '/'] := by
  simpa [isNameFollower, isFollower, isEnd, or_assoc] using h

/-- A class without white space and the marks that follow a name. -/
theorem apart_of_class {q : Char → Bool}
    (hspaces : [' ', '\t', '\n', '\x0c', '\r'].all (!q ·) = true)
    (hmarks : ['=', '(', ')', ',', '?', ':', '/'].all (!q ·) = true) {c : Char} (hc : q c = true) :
    Text.isSpace c = false ∧ isNameFollower c = false := by
  refine ⟨isSpace_of_class hspaces hc, ?_⟩
  cases hfollower : isNameFollower c with
  | false => rfl
  | true => exact absurd (mem_of_isNameFollower hfollower) (not_mem_of_class hmarks hc)

namespace Gap

variable {p : Char → Bool} {g : Gap} {r : List Char} {c : Char}

theorem text_cons (f : Filler) (g : List Filler) :
    Gap.text (f :: g) = f.text ++ Gap.text g := rfl

theorem dropWhile_space {hc : Text.isSpace c = true} {g : List Filler} :
    (Gap.text (.space c hc :: g) ++ r).dropWhile Text.isSpace =
      (Gap.text g ++ r).dropWhile Text.isSpace :=
  List.dropWhile_cons_of_pos hc

/-- What follows a gap, after white space, is a comment of the gap or what follows the gap. -/
theorem goesOn (g : Gap) (hslash : p '/' = true) (h : GoesOn p r) : GoesOn p (g.text ++ r) := by
  induction g with
  | nil => exact h
  | cons f g ih =>
    cases f with
    | space c hc =>
      intro d hd
      rw [dropWhile_space] at hd
      exact ih d hd
    | comment body hbody => exact GoesOn.cons hslash (by decide)

theorem goesOn_mark (g : Gap) (hc : p '/' = true ∧ p c = true ∧ Text.isSpace c = false) :
    GoesOn p (g.text ++ c :: r) :=
  g.goesOn hc.1 (.cons hc.2.1 hc.2.2)

/-- After a gap with a comment, what comes first after white space is a slash. -/
theorem goesOn_of_not_isBlank (hg : g.isBlank = false) (hslash : p '/' = true) :
    GoesOn p (g.text ++ r) := by
  induction g with
  | nil => cases hg
  | cons f g ih =>
    cases f with
    | space c hc =>
      intro d hd
      rw [dropWhile_space] at hd
      exact ih hg d hd
    | comment body hbody => exact GoesOn.cons hslash (by decide)

theorem isSpace_of_isBlank (hg : g.isBlank = true) : ∀ c ∈ g.text, Text.isSpace c = true := by
  induction g with
  | nil => nofun
  | cons f g ih =>
    cases f with
    | space d hd =>
      intro c hc
      rw [text_cons] at hc
      obtain hc | hc := List.mem_append.mp hc
      · obtain rfl := List.mem_singleton.mp hc
        exact hd
      · exact ih hg c hc
    | comment body hbody => cases hg

theorem keepsTo_mono {q : Char → Bool} (hpq : ∀ c, p c = true → q c = true)
    (h : g.keepsTo p = true) : g.keepsTo q = true := by
  refine List.all_eq_true.mpr fun f hf => ?_
  have hkeeps := List.all_eq_true.mp h f hf
  cases f with
  | space c hc => rfl
  | comment body hbody =>
    exact List.all_eq_true.mpr fun c hc => hpq c (List.all_eq_true.mp hkeeps c hc)

/-- A gap whose comments keep to a class with the marks of comments and white space. -/
theorem forall_mem_text (hmarks : [' ', '\t', '\n', '\x0c', '\r', '/', '*'].all p = true)
    (hg : g.keepsTo p = true) : ∀ c ∈ g.text, p c = true := by
  have hmark := List.all_eq_true.mp hmarks
  induction g with
  | nil => nofun
  | cons f g ih =>
    simp only [keepsTo, List.all_cons, Bool.and_eq_true] at hg
    intro c hc
    rw [text_cons] at hc
    obtain hc | hc := List.mem_append.mp hc
    · cases f with
      | space d hd =>
        obtain rfl := List.mem_singleton.mp hc
        simp only [Text.isSpace, Bool.or_eq_true, beq_iff_eq] at hd
        obtain (((rfl | rfl) | rfl) | rfl) | rfl := hd <;> exact hmark _ (by decide)
      | comment body _ =>
        have hbody := List.all_eq_true.mp hg.1
        simp only [Filler.text, List.cons_append, List.mem_cons, List.mem_append,
          List.not_mem_nil, or_false] at hc
        obtain rfl | rfl | hc | rfl | rfl := hc
        · exact hmark _ (by decide)
        · exact hmark _ (by decide)
        · exact hbody c hc
        · exact hmark _ (by decide)
        · exact hmark _ (by decide)
    · exact ih hg.2 c hc

theorem level (hg : g.keepsTo isQuiet = true) : Level g.text :=
  .of_forall (forall_mem_text (by decide) hg)

end Gap

/-! ## Brackets -/

theorem Name.isNamePart_of_mem {x : Name} {c : Char} (hc : c ∈ x.text) : isNamePart c = true := by
  obtain rfl | hc := List.mem_cons.mp hc
  · exact isNamePart_of_isNameStart x.isStart
  · exact x.isPart c hc

theorem isNumberPart_of_isDigit {c : Char} (h : c.isDigit = true) :
    Cursor.isNumberPart c = true := by
  simp [Cursor.isNumberPart, Char.isAlphanum, h]

theorem Digits.isNumberPart_of_mem {n : Digits} {c : Char} (hc : c ∈ n.text) :
    Cursor.isNumberPart c = true := by
  obtain rfl | hc := List.mem_cons.mp hc
  · exact isNumberPart_of_isDigit n.isDigit
  · exact n.isPart c hc

/-- A class without the characters that count for brackets. -/
theorem isQuiet_of_class {p : Char → Bool}
    (hp : ['\'', '"', '\x60', '(', '[', '{', ')', ']', '}'].all (!p ·) = true) {c : Char}
    (hc : p c = true) : isQuiet c = true := by
  have hnot := not_mem_of_class hp hc
  simp only [List.mem_cons, List.not_mem_nil, or_false, not_or] at hnot
  obtain ⟨h₁, h₂, h₃, h₄, h₅, h₆, h₇, h₈, h₉⟩ := hnot
  simp [isQuiet, isQuoteMark, isOpening, isClosing, *]

theorem Name.level (x : Name) : Level x.text :=
  .of_forall fun _ hc => isQuiet_of_class (by decide) (x.isNamePart_of_mem hc)

theorem Digits.level (n : Digits) : Level n.text :=
  .of_forall fun _ hc => isQuiet_of_class (by decide) (n.isNumberPart_of_mem hc)

theorem Numeral.level (n : Numeral) : Level n.text := by
  refine .append (.append ?_ n.digits.level) ?_
  · split
    · exact .single (by decide)
    · exact .nil
  · unfold Numeral.exponentText
    split
    · rename_i negative digits _
      refine .cons ?_ digits.level
      cases negative <;> decide
    · exact .nil

theorem paramsText_level {last : Gap} (hlast : last.keepsTo isQuiet = true) {params : List Param}
    (hparams : params.all (fun q => q.lead.keepsTo isQuiet && q.after.keepsTo isQuiet) = true) :
    Level (paramsText last params) := by
  induction params with
  | nil => exact Gap.level hlast
  | cons q params ih =>
    simp only [List.all_cons, Bool.and_eq_true] at hparams
    have hq : Level q.text :=
      .append (.append (Gap.level hparams.1.1) q.name.level) (Gap.level hparams.1.2)
    cases params with
    | nil => exact .append hq (Gap.level hlast)
    | cons q' params => exact .append hq (.cons (by decide) (ih hparams.2))

theorem isQuiet_of_isParameterPart {c : Char} (h : isParameterPart c = true) :
    isQuiet c = true := by
  simp only [isParameterPart, Bool.and_eq_true] at h
  exact h.1.1

namespace Phrase

/-- The brackets of an expression without brackets in its comments are all closed. -/
theorem level {role : Role} (e : Phrase role) (h : e.keepsTo isQuiet = true) : Level e.text := by
  induction e with
  | name lead x => exact .append (Gap.level h) x.level
  | number lead n => exact .append (Gap.level h) n.level
  | group lead e last ih =>
    simp only [keepsTo, Bool.and_eq_true] at h
    obtain ⟨⟨hlead, he⟩, hlast⟩ := h
    exact .append (Gap.level hlead) (.parentheses (.append (ih he) (Gap.level hlast)))
  | call f lead args last ihf ihargs =>
    simp only [keepsTo, Bool.and_eq_true] at h
    obtain ⟨⟨⟨hf, hlead⟩, hargs⟩, hlast⟩ := h
    exact .append (ihf hf) (.append (Gap.level hlead)
      (.parentheses (.append (ihargs hargs) (Gap.level hlast))))
  | operand e ih | one e ih => exact ih h
  | conditional test mark yes colon no ihtest ihyes ihno =>
    simp only [keepsTo, Bool.and_eq_true] at h
    obtain ⟨⟨⟨⟨htest, hmark⟩, hyes⟩, hcolon⟩, hno⟩ := h
    exact .append (ihtest htest) (.append (Gap.level hmark) (.cons (by decide)
      (.append (ihyes hyes) (.append (Gap.level hcolon) (.cons (by decide) (ihno hno))))))
  | arrow lead x sign body ih =>
    simp only [keepsTo, Bool.and_eq_true] at h
    obtain ⟨⟨hlead, hsign⟩, hbody⟩ := h
    exact .append (Gap.level hlead) (.append x.level (.append (Gap.level hsign)
      (.cons (by decide) (.cons (by decide) (ih hbody)))))
  | arrows lead params last sign body ih =>
    simp only [keepsTo, Bool.and_eq_true] at h
    obtain ⟨⟨⟨⟨hlead, hparams⟩, hlast⟩, hsign⟩, hbody⟩ := h
    exact .append (Gap.level hlead) (.append (.parentheses (paramsText_level hlast hparams))
      (.append (Gap.level hsign) (.cons (by decide) (.cons (by decide) (ih hbody)))))
  | nothing => exact .nil
  | more e comma rest ihe ihrest =>
    simp only [keepsTo, Bool.and_eq_true] at h
    obtain ⟨⟨he, hcomma⟩, hrest⟩ := h
    exact .append (ihe he) (.append (Gap.level hcomma) (.cons (by decide) (ihrest hrest)))

/-- The brackets between the parentheses of parameters are closed. -/
theorem level_params {lead last sign : Gap} {params : List Param} {body : Phrase .expression}
    (h : (arrows lead params last sign body).isTame = true) : Level (paramsText last params) := by
  simp only [isTame, Bool.and_eq_true] at h
  obtain ⟨⟨hparams, hlast⟩, -⟩ := h
  have hquiet : ∀ g : Gap, g.keepsTo (if sign.isBlank then isParameterPart else isQuiet) = true →
      g.keepsTo isQuiet = true := by
    intro g hg
    refine Gap.keepsTo_mono (fun c hc => ?_) hg
    split at hc
    · exact isQuiet_of_isParameterPart hc
    · exact hc
  refine paramsText_level (hquiet _ hlast) (List.all_eq_true.mpr fun q hq => ?_)
  have hkeeps := List.all_eq_true.mp hparams q hq
  rw [Bool.and_eq_true] at hkeeps ⊢
  exact ⟨hquiet _ hkeeps.1, hquiet _ hkeeps.2⟩

theorem text_ne_nil {role : Role} (e : Phrase role) (hrole : role ≠ .arguments) :
    e.text ≠ [] := by
  induction e with
  | name lead x => simp [text, Name.text]
  | number lead n => simp [text, Numeral.text, Numeral.significand, Digits.text]
  | group lead e last ih => simp [text]
  | call f lead args last ihf ihargs => simp [text]
  | operand e ih => exact ih (by decide)
  | conditional test mark yes colon no ihtest ihyes ihno => simp [text]
  | arrow lead x sign body ih => simp [text]
  | arrows lead params last sign body ih => simp [text]
  | nothing | one e ih | more e comma rest ihe ihrest => exact absurd rfl hrole

end Phrase

end Source
end Restyle
