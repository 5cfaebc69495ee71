import Restyle.Source.Lowering
import Restyle.Proofs.Source.TagEnd

/-!
# Restyle.Proofs.Source.CallText

A reader of plain script, the language that lowering writes. It goes over a text character by
character and knows at each place what it is inside of: code, a comment, a string, a template or a
regular expression. In code it counts braces, to find the end of a substitution in a template, and
it can keep the stack of open brackets.

The lemmas say what the reader does on the tokens that `Cursor` copies from the source.

The reader of plain script on the calls that elements become. From code it comes back to code, with
the same braces and brackets open, over string literals, names and objects, and so over a call whose
pieces it reads in this way (`isCall_createElement`).
-/

namespace Restyle
namespace Source

open Scan Listing

/-- What a reader of script is inside of. A word keeps its letters, a string its mark. After a slash
it depends on the next character what begins, and likewise after a dollar in a template. -/
inductive Inside where
  | code
  | word (letters : List Char) | number | flags | point
  | slash | division
  | regex (inClass : Bool) | regexEscape (inClass : Bool)
  | lineComment | blockComment | blockStar
  | string (mark : Char) | stringEscape (mark : Char)
  | template | templateEscape | dollar
  deriving Repr, DecidableEq

/-- Where a reader of plain script stands. -/
structure ScriptState where
  inside : Inside := .code
  /-- Does an expression begin here? A slash in code is then no division. -/
  starts : Bool := true
  /-- Braces that are open in this code. -/
  depth : Nat := 0
  /-- Braces that are open in the code around each template, innermost first. -/
  outer : List Nat := []
  /-- The open brackets, innermost first; none if one was closed by another kind. -/
  opened : Option (List Char) := some []
  deriving Repr, DecidableEq

/-- The bracket that closes an opening one. -/
def closing (c : Char) : Char := if c == '(' then ')' else if c == '[' then ']' else '}'

/-- The open brackets after a character of code. -/
def bracket (opened : Option (List Char)) (c : Char) : Option (List Char) :=
  if isOpening c then opened.map (c :: ·)
  else if isClosing c then
    opened.bind fun stack =>
      match stack with
      | o :: rest => if closing o == c then some rest else none
      | [] => none
  else opened

/-- Does a character belong to the token before it? -/
def Inside.continues : Inside → Char → Bool
  | word _, c | flags, c => isNamePart c
  | number, c => Cursor.isNumberPart c
  | division, c => c == '/' || c == '*'
  | _, _ => false

namespace ScriptState

/-- Where the token before has its end: what it says about the code that follows. -/
def settle (r : ScriptState) : ScriptState :=
  match r.inside with
  | .word w => { r with inside := .code, starts := expressionKeywords.contains (String.ofList w) }
  | .number | .flags => { r with inside := .code, starts := false }
  | .point | .division => { r with inside := .code, starts := true }
  | _ => r

/-- A character of code that begins a token. -/
def inCode (r : ScriptState) (c : Char) : ScriptState :=
  if Text.isSpace c then r
  else if c == '/' then { r with inside := if r.starts then .slash else .division }
  else if c == '\'' || c == '"' then { r with inside := .string c }
  else if c == '\x60' then { r with inside := .template }
  else if c == '.' then { r with inside := .point }
  else if isNameStart c then { r with inside := .word [c] }
  else if c.isDigit then { r with inside := .number }
  else
    let r := { r with opened := bracket r.opened c }
    if c == '{' then { r with depth := r.depth + 1, starts := true }
    else if c == '}' then
      match r.depth, r.outer with
      | 0, depth :: outer => { r with inside := .template, depth, outer }
      | _, _ => { r with depth := r.depth - 1, starts := false }
    else { r with starts := !(c.toNat ≥ 128 || c == ')' || c == ']') }

def inRegex (r : ScriptState) (inClass : Bool) (c : Char) : ScriptState :=
  if c == '\\' then { r with inside := .regexEscape inClass }
  else if c == '[' then { r with inside := .regex true }
  else if c == ']' then { r with inside := .regex false }
  else if c == '/' && !inClass then { r with inside := .flags }
  else { r with inside := .regex inClass }

def inTemplate (r : ScriptState) (c : Char) : ScriptState :=
  if c == '\\' then { r with inside := .templateEscape }
  else if c == '\x60' then { r with inside := .code, starts := false }
  else if c == '$' then { r with inside := .dollar }
  else { r with inside := .template }

/-- One character more. -/
def step (r : ScriptState) (c : Char) : ScriptState :=
  match r.inside with
  | .word w => if isNamePart c then { r with inside := .word (w ++ [c]) } else r.settle.inCode c
  | .number => if Cursor.isNumberPart c then r else r.settle.inCode c
  | .flags => if isNamePart c then r else r.settle.inCode c
  | .division =>
    if c == '/' then { r with inside := .lineComment }
    else if c == '*' then { r with inside := .blockComment }
    else r.settle.inCode c
  | .code | .point => r.settle.inCode c
  | .slash =>
    if c == '/' then { r with inside := .lineComment }
    else if c == '*' then { r with inside := .blockComment }
    else r.inRegex false c
  | .regex inClass => r.inRegex inClass c
  | .regexEscape inClass => { r with inside := .regex inClass }
  | .lineComment => if c == '\n' then { r with inside := .code } else r
  | .blockComment => if c == '*' then { r with inside := .blockStar } else r
  | .blockStar =>
    if c == '/' then { r with inside := .code }
    else if c == '*' then r
    else { r with inside := .blockComment }
  | .string mark =>
    if c == '\\' then { r with inside := .stringEscape mark }
    else if c == mark then { r with inside := .code, starts := false }
    else r
  | .stringEscape mark => { r with inside := .string mark }
  | .template => r.inTemplate c
  | .templateEscape => { r with inside := .template }
  | .dollar =>
    if c == '{' then
      { inside := .code, starts := true, depth := 0, outer := r.depth :: r.outer,
        opened := bracket r.opened c }
    else r.inTemplate c

def read (r : ScriptState) (t : List Char) : ScriptState := t.foldl step r

@[simp] theorem read_nil (r : ScriptState) : r.read [] = r := rfl

@[simp] theorem read_cons (r : ScriptState) (c : Char) (t : List Char) :
    r.read (c :: t) = (r.step c).read t := rfl

theorem read_append (r : ScriptState) (t u : List Char) : r.read (t ++ u) = (r.read t).read u :=
  List.foldl_append

/-- The reader stands at the end of a token, and what follows is code as from `k` on. -/
structure Settles (r k : ScriptState) : Prop where
  settle : r.settle = k
  inside : k.inside = .code

variable {r k : ScriptState} {c : Char} {t : List Char}

theorem Settles.of_code (hk : k.inside = .code) : Settles k k where
  settle := by rw [ScriptState.settle, hk]
  inside := hk

/-- What begins a token is read alike after any token. -/
theorem Settles.step (h : Settles r k) (hc : r.inside.continues c = false) :
    r.step c = k.inCode c := by
  obtain ⟨rfl, hinside⟩ := h
  rw [ScriptState.settle] at hinside
  unfold ScriptState.step
  cases hr : r.inside <;> rw [hr] at hc hinside <;>
    simp_all [Inside.continues]

theorem Settles.read (h : Settles r k) (hc : r.inside.continues c = false) (t : List Char) :
    r.read (c :: t) = k.read (c :: t) := by
  rw [read_cons, read_cons, h.step hc, (Settles.of_code h.inside).step (by rw [h.inside]; rfl)]

theorem step_code (hk : k.inside = .code) (c : Char) : k.step c = k.inCode c :=
  (Settles.of_code hk).step (by rw [hk]; rfl)

/-! ## Without brackets -/

@[simp] theorem bracket_none (c : Char) : bracket none c = none := by
  unfold bracket
  split
  · rfl
  · split <;> rfl

/-- The same place with no account of brackets. -/
def forget (r : ScriptState) : ScriptState := { r with opened := none }

theorem inCode_forget (r : ScriptState) (c : Char) : r.forget.inCode c = (r.inCode c).forget := by
  obtain ⟨inside, starts, depth, outer, opened⟩ := r
  unfold inCode
  cases depth <;> cases outer <;> simp only [apply_ite forget] <;>
    simp only [forget, bracket_none] <;> rfl

theorem settle_forget (r : ScriptState) : r.forget.settle = r.settle.forget := by
  obtain ⟨inside, starts, depth, outer, opened⟩ := r
  cases inside <;> rfl

theorem step_forget (r : ScriptState) (c : Char) : r.forget.step c = (r.step c).forget := by
  have hcode := inCode_forget r.settle c
  rw [← settle_forget] at hcode
  obtain ⟨inside, starts, depth, outer, opened⟩ := r
  unfold step inRegex inTemplate
  cases inside <;> simp only [apply_ite forget, hcode] <;> simp only [forget, bracket_none]

theorem read_forget (r : ScriptState) (t : List Char) : r.forget.read t = (r.read t).forget := by
  induction t generalizing r with
  | nil => rfl
  | cons c t ih => rw [read_cons, read_cons, step_forget, ih]

/-! ## Tokens -/

variable {s : Listing} {i j : Nat} {mark : Char} {inClass : Bool}

theorem inCode_nameStart (h : isNameStart c = true) :
    k.inCode c = { k with inside := .word [c] } := by
  have hne {a : Char} (ha : isNameStart a = false) : (c == a) = false := beq_eq_false_of_class ha h
  have hspace : Text.isSpace c = false := isSpace_of_class (by decide) h
  simp [inCode, hspace, h, hne (a := '/') rfl, hne (a := '\'') rfl, hne (a := '"') rfl,
    hne (a := '\x60') rfl, hne (a := '.') rfl]

theorem inCode_digit (h : c.isDigit = true) : k.inCode c = { k with inside := .number } := by
  have hne {a : Char} (ha : a.isDigit = false) : (c == a) = false := beq_eq_false_of_class ha h
  have hspace : Text.isSpace c = false := isSpace_of_class (by decide) h
  simp [inCode, hspace, h, isNameStart_of_isDigit h, hne (a := '/') rfl, hne (a := '\'') rfl,
    hne (a := '"') rfl, hne (a := '\x60') rfl, hne (a := '.') rfl]

theorem read_spaces (hk : k.inside = .code) (ht : ∀ c ∈ t, Text.isSpace c = true) :
    k.read t = k := by
  induction t with
  | nil => rfl
  | cons c t ih =>
    have hc := ht c (List.mem_cons_self ..)
    rw [read_cons, step_code hk, inCode, if_pos hc]
    exact ih fun d hd => ht d (List.mem_cons_of_mem _ hd)

theorem read_name (w : List Char) (ht : ∀ c ∈ t, isNamePart c = true) :
    ({ k with inside := .word w } : ScriptState).read t = { k with inside := .word (w ++ t) } := by
  induction t generalizing w with
  | nil => simp
  | cons c t ih =>
    have hc := ht c (List.mem_cons_self ..)
    have hstep : step { k with inside := .word w } c = { k with inside := .word (w ++ [c]) } := by
      simp [step, hc]
    rw [read_cons, hstep, ih _ fun d hd => ht d (List.mem_cons_of_mem _ hd)]
    simp

theorem read_number (ht : ∀ c ∈ t, Cursor.isNumberPart c = true) :
    ({ k with inside := .number } : ScriptState).read t = { k with inside := .number } := by
  induction t with
  | nil => rfl
  | cons c t ih =>
    have hc := ht c (List.mem_cons_self ..)
    rw [read_cons, step, if_pos hc]
    exact ih fun d hd => ht d (List.mem_cons_of_mem _ hd)

theorem read_flags (ht : ∀ c ∈ t, isNamePart c = true) :
    ({ k with inside := .flags } : ScriptState).read t = { k with inside := .flags } := by
  induction t with
  | nil => rfl
  | cons c t ih =>
    have hc := ht c (List.mem_cons_self ..)
    rw [read_cons, step, if_pos hc]
    exact ih fun d hd => ht d (List.mem_cons_of_mem _ hd)

/-- A slash in code, and what makes it the beginning of a comment. -/
theorem read_lineComment (hk : k.inside = .code) (ht : '\n' ∉ t) :
    k.read ('/' :: '/' :: t) = { k with inside := .lineComment } := by
  have hfirst : (k.step '/').step '/' = { k with inside := .lineComment } := by
    rw [step_code hk]
    cases hstarts : k.starts <;> simp [inCode, hstarts, step, Text.isSpace]
  rw [read_cons, read_cons, hfirst]
  induction t with
  | nil => rfl
  | cons c t ih =>
    rw [List.mem_cons, not_or] at ht
    rw [read_cons, step]
    have hc : (c == '\n') = false := beq_false_of_ne (Ne.symm ht.1)
    simp only [hc, Bool.false_eq_true, if_false]
    exact ih ht.2

theorem slice_cons (h : s.charAt? i = some c) (hij : i < j) :
    slice s.chars i j = c :: slice s.chars (i + 1) j := by
  rw [← slice_append s.chars (Nat.le_succ i) hij, slice_single h]
  rfl

/-- The body of a comment. A star before it may be the one of its end. -/
theorem read_commentEnd (hi : r.inside = .blockComment ∨
      r.inside = .blockStar ∧ s.charAt? i ≠ some '/')
    (h : commentEnd? s.chars i = some j) :
    r.read (slice s.chars i j) = { r with inside := .code } := by
  generalize hcs : s.chars = cs at h
  fun_induction commentEnd? cs i generalizing r with
  | case1 i hlt hend =>
    subst hcs
    cases h
    simp only [startsAt, Bool.and_eq_true, beq_iff_eq] at hend
    rw [slice_cons hend.1 (by omega), slice_cons hend.2.1 (by omega)]
    have hnil : slice s.chars (i + 1 + 1) (i + 2) = [] := by rw [slice_eq]; simp
    rw [hnil]
    obtain hin | ⟨hin, -⟩ := hi <;> simp [step, hin]
  | case2 i hlt hend ih =>
    subst hcs
    have hc : s.charAt? i = some s.chars[i] := Array.getElem?_eq_getElem hlt
    have hle := lt_commentEnd? h
    rw [slice_cons hc (by omega), read_cons]
    generalize s.chars[i] = c at hc
    have hstep : r.step c = { r with inside := if c == '*' then .blockStar else .blockComment } := by
      obtain hin | ⟨hin, hslash⟩ := hi
      · by_cases hstar : c = '*' <;> simp [step, hin, hstar]
        rw [← hin]
      · have hslash : c ≠ '/' := fun heq => hslash (by rw [hc, heq])
        by_cases hstar : c = '*' <;> simp [step, hin, hstar, hslash]
        rw [← hin]
    have hnext : (r.step c).read (slice s.chars (i + 1) j) =
        { r.step c with inside := .code } := by
      refine ih ?_ h
      rw [hstep]
      by_cases hstar : c = '*'
      · refine .inr ⟨by simp [hstar], fun hslash => hend ?_⟩
        rw [hstar] at hc
        rw [charAt?] at hc hslash
        simp [startsAt, hc, hslash]
      · exact .inl (by simp [hstar])
    rw [hnext, hstep]
  | case3 => cases h

theorem read_stringEnd (h : stringEndFrom? mark s.chars i = some j) :
    ({ k with inside := .string mark } : ScriptState).read (slice s.chars i j) =
      { k with inside := .code, starts := false } := by
  generalize hcs : s.chars = cs at h
  fun_induction stringEndFrom? mark cs i with
  | case1 i hi hescape ih =>
    subst hcs
    -- the backslash and the character after it
    have hsize : i + 1 < s.chars.size := Nat.lt_of_succ_lt (Goes.lt_size_of_stringEndFrom? h)
    have hlt := lt_of_stringEndFrom? h
    rw [slice_cons (Array.getElem?_eq_getElem hi) (by omega),
      slice_cons (Array.getElem?_eq_getElem hsize) (by omega), read_cons, read_cons]
    rw [show (ScriptState.step { k with inside := .string mark } s.chars[i]) =
      { k with inside := .stringEscape mark } by simp [step, hescape]]
    exact ih h
  | case2 => cases h
  | case3 i hi hescape _ hmark =>
    subst hcs
    cases h
    rw [slice_single (Array.getElem?_eq_getElem hi), read_cons, step]
    simp [hescape, hmark]
  | case4 i hi hescape _ hmark ih =>
    subst hcs
    have hlt := lt_of_stringEndFrom? h
    rw [slice_cons (Array.getElem?_eq_getElem hi) (by omega), read_cons, step]
    simp only [hescape, hmark, Bool.false_eq_true, if_false]
    exact ih h
  | case5 => cases h

theorem slice_skip (p : Char → Bool) (s : Listing) (i : Nat) :
    slice s.chars i (skip p s.chars i) = (s.tail i).takeWhile p := by
  rw [skip_eq_add]
  exact slice_add List.takeWhile_append_dropWhile.symm

theorem mem_slice_skip {p : Char → Bool} (hc : c ∈ slice s.chars i (skip p s.chars i)) :
    p c = true := by
  rw [slice_skip] at hc
  exact List.all_eq_true.mp List.all_takeWhile c hc

theorem lt_size_of_regexEnd? (h : regexEnd? s.chars inClass i = some j) : i < s.chars.size := by
  unfold regexEnd? at h
  split at h
  · assumption
  · cases h

theorem read_regexEnd (h : regexEnd? s.chars inClass i = some j) :
    ({ k with inside := .regex inClass } : ScriptState).read (slice s.chars i j) =
      { k with inside := .flags } := by
  generalize hcs : s.chars = cs at h
  fun_induction regexEnd? cs inClass i with
  | case1 => cases h
  | case2 inClass i hi hline hescape ih =>
    subst hcs
    -- the backslash and the character after it
    have hsize : i + 1 < s.chars.size := Nat.lt_of_succ_lt (lt_size_of_regexEnd? h)
    have hle := le_regexEnd? h
    rw [slice_cons (Array.getElem?_eq_getElem hi) (by omega),
      slice_cons (Array.getElem?_eq_getElem hsize) (by omega), read_cons, read_cons]
    rw [show (ScriptState.step { k with inside := .regex inClass } s.chars[i]) =
      { k with inside := .regexEscape inClass } by simp [step, inRegex, hescape]]
    exact ih h
  | case3 inClass i hi hline hescape hopen ih =>
    subst hcs
    have hle := le_regexEnd? h
    rw [slice_cons (Array.getElem?_eq_getElem hi) (by omega), read_cons]
    rw [show (ScriptState.step { k with inside := .regex inClass } s.chars[i]) =
      { k with inside := .regex true } by simp [step, inRegex, hescape, hopen]]
    exact ih h
  | case4 inClass i hi hline hescape hopen hclose ih =>
    subst hcs
    have hle := le_regexEnd? h
    rw [slice_cons (Array.getElem?_eq_getElem hi) (by omega), read_cons]
    rw [show (ScriptState.step { k with inside := .regex inClass } s.chars[i]) =
      { k with inside := .regex false } by simp [step, inRegex, hescape, hopen, hclose]]
    exact ih h
  | case5 inClass i hi hline hescape hopen hclose hend =>
    subst hcs
    cases h
    have hle := le_nameEnd s.chars (i + 1)
    rw [slice_cons (Array.getElem?_eq_getElem hi) (by omega), read_cons]
    rw [show (ScriptState.step { k with inside := .regex inClass } s.chars[i]) =
      { k with inside := .flags } by simp [step, inRegex, hescape, hopen, hclose, hend]]
    exact read_flags fun c hc => mem_slice_skip hc
  | case6 inClass i hi hline hescape hopen hclose hend ih =>
    subst hcs
    have hle := le_regexEnd? h
    rw [slice_cons (Array.getElem?_eq_getElem hi) (by omega), read_cons]
    rw [show (ScriptState.step { k with inside := .regex inClass } s.chars[i]) =
      { k with inside := .regex inClass } by simp [step, inRegex, hescape, hopen, hclose, hend]]
    exact ih h
  | case7 => cases h

end ScriptState

/-- A script that ends so that what is appended to its last line is comment. -/
def EndsInLineComment (t : List Char) : Prop := (ScriptState.read {} t).inside = .lineComment

instance : DecidablePred EndsInLineComment := fun t =>
  inferInstanceAs (Decidable ((ScriptState.read {} t).inside = .lineComment))

end Source

/-! ## Calls -/

namespace Source

namespace ScriptState

/-- The reader stands at the end of a token in the code of `k`. -/
def Calm (k r : ScriptState) : Prop := ∃ starts, r.Settles { k with starts }

/-- Where brackets are not counted, none are known. -/
def Counts (counted : Bool) (opened : Option (List Char)) : Prop := counted = false → opened = none

variable {r k : ScriptState} {c : Char} {t : List Char} {counted : Bool}

theorem Calm.of_code (hk : k.inside = .code) : Calm k k := ⟨k.starts, .of_code hk⟩

theorem Settles.calm (h : r.Settles k) : Calm k r := ⟨k.starts, h⟩

theorem Calm.inside (h : Calm k r) : k.inside = .code := h.choose_spec.inside

@[simp] theorem bracket_parens (opened : Option (List Char)) :
    bracket (bracket opened '(') ')' = opened := by
  cases opened <;> rfl

@[simp] theorem bracket_braces (opened : Option (List Char)) :
    bracket (bracket opened '{') '}' = opened := by
  cases opened <;> rfl

theorem Counts.bracket {opened : Option (List Char)} (h : Counts counted opened) :
    Counts counted (bracket opened c) := by
  intro hcounted
  rw [h hcounted, bracket_none]

theorem Calm.inside_ne (h : Calm k r) : r.inside ≠ .lineComment := by
  obtain ⟨starts, hsettle, hcode⟩ := h
  intro hcomment
  simp only [settle, hcomment] at hsettle
  rw [← hsettle, hcomment] at hcode
  cases hcode

/-! ## Marks between the pieces of a call -/

/-- After a token a comma belongs to the code. -/
theorem Calm.comma (h : Calm k r) : r.read [',', ' '] = { k with starts := true } := by
  obtain ⟨starts, h⟩ := h
  have hstep : r.step ',' = { k with starts := true } :=
    h.step (by cases r.inside <;> rfl)
  rw [read_cons, hstep]
  exact step_code (k := { k with starts := true }) h.inside ' '

theorem Calm.openParen (h : Calm k r) :
    r.step '(' = { k with starts := true, opened := bracket k.opened '(' } := by
  obtain ⟨starts, h⟩ := h
  exact h.step (by cases r.inside <;> rfl)

theorem Calm.closeParen (h : Calm k r) :
    r.step ')' = { k with starts := false, opened := bracket k.opened ')' } := by
  obtain ⟨starts, h⟩ := h
  exact h.step (by cases r.inside <;> rfl)

theorem Calm.closeBrace {depth : Nat} (h : Calm k r) (hdepth : k.depth = depth + 1) :
    r.step '}' = { k with starts := false, depth, opened := bracket k.opened '}' } := by
  obtain ⟨starts, h⟩ := h
  obtain ⟨inside, _, _, outer, opened⟩ := k
  cases hdepth
  exact h.step (by cases r.inside <;> rfl)

/-! ## Names -/

theorem isNameStart_or_isDigit (h : isNamePart c = true) :
    isNameStart c = true ∨ c.isDigit = true := by
  simp only [isNamePart, Char.isAlphanum, Bool.or_eq_true] at h
  simp only [isNameStart, Bool.or_eq_true]
  obtain ((h | h) | h) | h := h
  · exact .inl (.inl (.inl h))
  · exact .inr h
  · exact .inl (.inl (.inr h))
  · exact .inl (.inr h)

/-- A character of a word or number that goes on. -/
theorem Settles.stepOn (h : r.Settles k) (hc : Listing.isTagNamePart c = true)
    (hcontinues : r.inside.continues c = true) : Calm k (r.step c) := by
  obtain ⟨inside, starts, depth, outer, opened⟩ := r
  obtain ⟨rfl, -⟩ := h
  cases inside with
  | word w =>
    have hname : isNamePart c = true := hcontinues
    exact ⟨expressionKeywords.contains (String.ofList (w ++ [c])), by simp [ScriptState.step, ScriptState.settle, hname], rfl⟩
  | number =>
    have hnumber : Cursor.isNumberPart c = true := hcontinues
    exact ⟨false, by simp [ScriptState.step, ScriptState.settle, hnumber], rfl⟩
  | flags =>
    have hname : isNamePart c = true := hcontinues
    exact ⟨false, by simp [ScriptState.step, ScriptState.settle, hname], rfl⟩
  | division =>
    -- no name has a slash or a star in it
    simp only [Inside.continues, Bool.or_eq_true, beq_iff_eq] at hcontinues
    obtain rfl | rfl := hcontinues <;> cases hc
  | _ => cases hcontinues

theorem Calm.stepName (h : Calm k r) (hc : Listing.isTagNamePart c = true) :
    Calm k (r.step c) := by
  obtain ⟨starts, h⟩ := h
  by_cases hcontinues : r.inside.continues c = true
  · exact (h.stepOn hc hcontinues :)
  · obtain ⟨inside, starts', depth, outer, opened⟩ := k
    obtain rfl : inside = .code := h.inside
    rw [h.step (Bool.eq_false_iff.mpr hcontinues)]
    simp only [Listing.isTagNamePart, Bool.or_eq_true, beq_iff_eq] at hc
    obtain ((hname | rfl) | rfl) | rfl := hc
    · obtain hstart | hdigit := isNameStart_or_isDigit hname
      · rw [inCode_nameStart hstart]
        exact ⟨_, rfl, rfl⟩
      · rw [inCode_digit hdigit]
        exact ⟨_, rfl, rfl⟩
    · exact ⟨true, rfl, rfl⟩
    · exact ⟨true, rfl, rfl⟩
    · exact ⟨true, rfl, rfl⟩

theorem Calm.readName (h : Calm k r) (ht : ∀ c ∈ t, Listing.isTagNamePart c = true) :
    Calm k (r.read t) := by
  induction t generalizing r with
  | nil => exact h
  | cons c t ih =>
    rw [List.forall_mem_cons] at ht
    exact ih (h.stepName ht.1) ht.2

/-! ## String literals -/

theorem read_stringChars (ht : ∀ c ∈ t, c ≠ '\\' ∧ c ≠ '"') :
    ({ k with inside := .string '"' } : ScriptState).read t = { k with inside := .string '"' } := by
  induction t with
  | nil => rfl
  | cons c t ih =>
    rw [List.forall_mem_cons] at ht
    have hstep : step { k with inside := .string '"' } c = { k with inside := .string '"' } := by
      simp [step, ht.1.1, ht.1.2]
    rw [read_cons, hstep, ih ht.2]

theorem exists_digitChar {n : Nat} (hc : c ∈ Text.hexDigits n) : ∃ d, c = Nat.digitChar d := by
  unfold Text.hexDigits at hc
  induction n using Nat.strongRecOn with
  | ind n ih =>
    rw [Nat.toDigits_eq_if (by decide)] at hc
    split at hc
    · exact ⟨n, List.mem_singleton.mp hc⟩
    · obtain hc | hc := List.mem_append.mp hc
      · exact ih (n / 16) (by omega) hc
      · exact ⟨n % 16, List.mem_singleton.mp hc⟩

/-- Every character of a literal is written so that the string goes on. -/
theorem read_literalChar (c : Char) :
    ({ k with inside := .string '"' } : ScriptState).read (literalChar c) =
      { k with inside := .string '"' } := by
  unfold literalChar
  -- the escapes of one character
  iterate 6
    split
    · rfl
  rename_i hslash hmark
  rw [beq_iff_eq] at hslash hmark
  split
  · exact read_stringChars fun d hd => by
      rw [List.mem_singleton.mp hd]
      exact ⟨hslash, hmark⟩
  · -- the digits and the braces around them
    rw [List.append_assoc, read_append]
    refine read_stringChars fun d hd => ?_
    rw [List.mem_append, List.mem_singleton] at hd
    obtain hd | rfl := hd
    · obtain ⟨n, rfl⟩ := exists_digitChar hd
      simp
    · exact ⟨by decide, by decide⟩

theorem read_stringLiteral (hk : k.inside = .code) (t : List Char) :
    k.read (stringLiteral t) = { k with starts := false } := by
  have hchars : ∀ t : List Char,
      ({ k with inside := .string '"' } : ScriptState).read (t.flatMap literalChar) =
        { k with inside := .string '"' } := by
    intro t
    induction t with
    | nil => rfl
    | cons c t ih => rw [List.flatMap_cons, read_append, read_literalChar, ih]
  have hopen : k.step '"' = { k with inside := .string '"' } := step_code hk '"'
  obtain ⟨inside, starts, depth, outer, opened⟩ := k
  obtain rfl : inside = .code := hk
  rw [stringLiteral, List.cons_append, read_cons, hopen, read_append]
  exact congrArg (read · ['"']) (hchars t)

end ScriptState

/-! ## Pieces of a call -/

open ScriptState

/-- A text that the reader goes over like one operand, where an expression begins. -/
def IsOperand (counted : Bool) (t : List Char) : Prop :=
  ∀ k : ScriptState, k.inside = .code → k.starts = true → Counts counted k.opened → Calm k (k.read t)

/-- A text that the reader goes over like a value, after any token. -/
def IsCall (counted : Bool) (t : List Char) : Prop :=
  ∀ r k : ScriptState, Calm k r → Counts counted k.opened → r.read t = { k with starts := false }

variable {counted : Bool} {t : List Char} {k : ScriptState}

theorem IsCall.isOperand (h : IsCall counted t) : IsOperand counted t := by
  intro k hk _ hcounts
  rw [h k k (.of_code hk) hcounts]
  exact ⟨false, .of_code hk⟩

theorem isOperand_stringLiteral (t : List Char) : IsOperand counted (stringLiteral t) := by
  intro k hk _ _
  rw [read_stringLiteral hk]
  exact ⟨false, .of_code hk⟩

theorem isOperand_name (ht : ∀ c ∈ t, Listing.isTagNamePart c = true) : IsOperand counted t :=
  fun _ hk _ _ => (Calm.of_code hk).readName ht

theorem isOperand_elementType (ht : ∀ c ∈ t, Listing.isTagNamePart c = true) :
    IsOperand counted (elementType t) := by
  unfold elementType
  split
  · exact isOperand_stringLiteral t
  · exact isOperand_name ht

theorem isOperand_spread (ht : IsOperand counted t) : IsOperand counted ("...".toList ++ t) := by
  intro k hk hstarts hcounts
  have hdots : k.read "...".toList = { k with inside := .point } := by
    obtain ⟨inside, starts, depth, outer, opened⟩ := k
    obtain rfl : inside = .code := hk
    obtain rfl : starts = true := hstarts
    rfl
  have hsettles : Settles { k with inside := .point } k := by
    obtain ⟨inside, starts, depth, outer, opened⟩ := k
    obtain rfl : inside = .code := hk
    obtain rfl : starts = true := hstarts
    exact ⟨rfl, rfl⟩
  rw [read_append, hdots]
  cases t with
  | nil => exact hsettles.calm
  | cons c t =>
    rw [hsettles.read rfl]
    exact ht k hk hstarts hcounts

theorem isOperand_property (key : List Char) (ht : IsOperand counted t) :
    IsOperand counted (stringLiteral key ++ [':', ' '] ++ t) := by
  intro k hk hstarts hcounts
  rw [read_append, read_append, read_stringLiteral hk]
  have hcolon : ({ k with starts := false } : ScriptState).read [':', ' '] = k := by
    obtain ⟨inside, starts, depth, outer, opened⟩ := k
    obtain rfl : inside = .code := hk
    obtain rfl : starts = true := hstarts
    rfl
  rw [hcolon]
  exact ht k hk hstarts hcounts

theorem joined_cons_cons (separator t u : List Char) (ts : List (List Char)) :
    joined separator (t :: u :: ts) = t ++ (separator ++ joined separator (u :: ts)) := by
  simp [joined]

theorem isOperand_joined {ts : List (List Char)} (hts : ∀ t ∈ ts, IsOperand counted t) :
    IsOperand counted (joined [',', ' '] ts) := by
  intro k hk hstarts hcounts
  induction ts with
  | nil => exact .of_code hk
  | cons t ts ih =>
    rw [List.forall_mem_cons] at hts
    have hfirst := hts.1 k hk hstarts hcounts
    cases ts with
    | nil => simpa [joined] using hfirst
    | cons u ts =>
      have hcomma : (k.read t).read [',', ' '] = k := by
        rw [hfirst.comma, ← hstarts]
      rw [joined_cons_cons, read_append, read_append, hcomma]
      exact ih hts.2

theorem isOperand_propsObject {props : List (List Char)}
    (hprops : ∀ p ∈ props, IsOperand counted p) : IsOperand counted (propsObject props) := by
  unfold propsObject
  split
  · exact isOperand_name (List.all_eq_true.mp (by decide))
  · intro k hk hstarts hcounts
    have hopen : k.step '{' =
        { k with depth := k.depth + 1, opened := bracket k.opened '{' } := by
      obtain ⟨inside, starts, depth, outer, opened⟩ := k
      obtain rfl : inside = .code := hk
      obtain rfl : starts = true := hstarts
      rfl
    have hinside := isOperand_joined hprops
      { k with depth := k.depth + 1, opened := bracket k.opened '{' } hk hstarts (hcounts.bracket (c := '{'))
    rw [List.cons_append, read_cons, hopen, read_append]
    have hclose := hinside.closeBrace rfl
    rw [bracket_braces] at hclose
    rw [read_cons, hclose]
    exact ⟨false, .of_code hk⟩

/-- A call is one value if its pieces are operands. -/
theorem isCall_createElement {type props : List Char} {children : List (List Char)}
    (htype : IsOperand counted type) (hprops : IsOperand counted props)
    (hchildren : ∀ t ∈ children, IsOperand counted t) :
    IsCall counted (createElement type props children) := by
  intro r k hcalm hcounts
  have hcallee : "React.createElement(".toList = "React.createElement".toList ++ ['('] := rfl
  have hname : Calm k (r.read "React.createElement".toList) := hcalm.readName (List.all_eq_true.mp (by decide))
  have hpieces : ∀ t ∈ type :: props :: children, IsOperand counted t := by
    rw [List.forall_mem_cons, List.forall_mem_cons]
    exact ⟨htype, hprops, hchildren⟩
  have hinside := isOperand_joined hpieces
    { k with starts := true, opened := bracket k.opened '(' } hcalm.inside rfl
      (hcounts.bracket (c := '('))
  have hclose := hinside.closeParen
  rw [bracket_parens] at hclose
  unfold createElement
  rw [hcallee, read_append, read_append, read_append]
  simp only [read_cons, read_nil]
  rw [hname.openParen, hclose]

end Source
end Restyle
