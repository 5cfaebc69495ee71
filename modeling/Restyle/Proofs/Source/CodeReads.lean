import Restyle.Proofs.Source.CallText
import Restyle.Proofs.Source.TokensRead

/-!
# Restyle.Proofs.Source.CodeReads

The runs of code in a source: the source itself, and at any depth the expressions in braces of
markup and the substitutions in templates. `runs` follows lowering call by call and collects them,
for dialects without types.

Code that lowering goes over and templates in it, and the reader beside them. Where a line comment
swallows what is generated after it the reader is lost, so what holds of code holds as long as its
runs are in order (`Settled`): no expression in them has only blanks after a line comment.
-/

namespace Restyle
namespace Source

open Scan Listing

/-- Where the constructs begin that code copies or lowers, from the cursor on. -/
def constructs (s : Listing) : Nat → Stop → Nat → Cursor → List Nat
  | 0, _, _, _ => []
  | fuel + 1, stop, depth, c =>
    if stop.reached c.pos then []
    else
      match s.charAt? c.pos with
      | none => []
      | some d =>
        if d == '}' && depth == 0 && stop == .brace then []
        else
          match construct s fuel d c with
          | .ok next => c.pos :: constructs s fuel stop (braceDepth depth d) next
          | .error _ => []

/-- Code from a brace to the one that closes it, or the whole source. -/
structure Run where
  /-- Where its constructs begin. -/
  constructs : List Nat
  /-- What it is lowered to, if a call for an element gets it. -/
  lowered : Option (List Char) := none
  deriving Repr, DecidableEq

mutual

/-- The runs within code, from the cursor on. -/
def codeRuns (s : Listing) : Nat → Stop → Nat → Cursor → List Run
  | 0, _, _, _ => []
  | fuel + 1, stop, depth, c =>
    if stop.reached c.pos then []
    else
      match s.charAt? c.pos with
      | none => []
      | some d =>
        if d == '}' && depth == 0 && stop == .brace then []
        else
          match construct s fuel d c with
          | .ok next => constructRuns s fuel d c ++ codeRuns s fuel stop (braceDepth depth d) next
          | .error _ => []

/-- Without types, only templates and elements hold code of their own. -/
def constructRuns (s : Listing) : Nat → Char → Cursor → List Run
  | 0, _, _ => []
  | fuel + 1, d, c =>
    if d == '\x60' then templateRuns s fuel (c.copyBlank d)
    else if d == '<' then angleRuns s fuel c
    else []

def angleRuns (s : Listing) : Nat → Cursor → List Run
  | 0, _ => []
  | fuel + 1, c =>
    if s.dialect.allowsMarkup && c.previous.startsExpression &&
        (s.charAt? (c.pos + 1)).any (fun d => d == '>' || isNameStart d) then
      elementRuns s fuel c.pos
    else []

def templateRuns (s : Listing) : Nat → Cursor → List Run
  | 0, _ => []
  | fuel + 1, c =>
    match s.charAt? c.pos with
    | none => []
    | some d =>
      let c' := c.copyBlank d
      let next := s.charAt? (c.pos + 1)
      if d == '\\' then
        templateRuns s fuel (match next with
          | some e => c'.copyBlank e
          | none => c')
      else if d == '\x60' then []
      else if d == '$' && next == some '{' then
        let start := { c'.copyBlank '{' with previous := .start }
        match code s fuel .brace 0 start with
        | .ok inner =>
          { constructs := constructs s fuel .brace 0 start } :: codeRuns s fuel .brace 0 start ++
            templateRuns s fuel { inner.write ['}'] with previous := c.previous }
        | .error _ => []
      else templateRuns s fuel c'

/-- An expression in braces and the runs within it. Only a spread is written if it is blank. -/
def captureRuns (s : Listing) (spread : Bool) : Nat → Nat → List Run
  | 0, _ => []
  | fuel + 1, pos =>
    match code s fuel .brace 0 { pos } with
    | .ok c =>
      { constructs := constructs s fuel .brace 0 { pos }
        lowered := if spread || !isBlank c.written.reverse then some c.written.reverse else none } ::
        codeRuns s fuel .brace 0 { pos }
    | .error _ => []

def elementRuns (s : Listing) : Nat → Nat → List Run
  | 0, _ => []
  | fuel + 1, start =>
    match skipTagSpaces s.chars (s.chars.size + 1) (start + 1) with
    | .error _ => []
    | .ok pos =>
      if s.charAt? pos == some '>' then childrenRuns s fuel (pos + 1)
      else
        match tagName s pos with
        | .error _ => []
        | .ok (_, pos) => attributesRuns s fuel pos

def attributesRuns (s : Listing) : Nat → Nat → List Run
  | 0, _ => []
  | fuel + 1, pos =>
    match skipTagSpaces s.chars (s.chars.size + 1) pos with
    | .error _ => []
    | .ok pos =>
      match s.charAt? pos with
      | none => []
      | some d =>
        if d == '/' then []
        else if d == '>' then childrenRuns s fuel (pos + 1)
        else if d == '{' then
          let inside := skipSpaces s.chars (pos + 1) + 3
          match capture s fuel inside with
          | .error _ => []
          | .ok (_, pos) => captureRuns s true fuel inside ++ attributesRuns s fuel pos
        else
          match tagName s pos with
          | .error _ => []
          | .ok (_, pos) =>
            let sign := skipSpaces s.chars pos
            if s.charAt? sign == some '=' then
              let value := skipSpaces s.chars (sign + 1)
              match attributeValue s fuel value with
              | .error _ => []
              | .ok (_, pos) => valueRuns s fuel value ++ attributesRuns s fuel pos
            else attributesRuns s fuel sign

def valueRuns (s : Listing) : Nat → Nat → List Run
  | 0, _ => []
  | fuel + 1, pos =>
    match s.charAt? pos with
    | some '{' => captureRuns s false fuel (pos + 1)
    | some '<' => elementRuns s fuel pos
    | _ => []

def childrenRuns (s : Listing) : Nat → Nat → List Run
  | 0, _ => []
  | fuel + 1, pos =>
    match s.charAt? pos with
    | none => []
    | some d =>
      if d == '<' then
        if s.charAt? (skipSpaces s.chars (pos + 1)) == some '/' then []
        else
          match element s fuel pos with
          | .error _ => []
          | .ok (_, next) => elementRuns s fuel pos ++ childrenRuns s fuel next
      else if d == '{' then
        match capture s fuel (pos + 1) with
        | .error _ => []
        | .ok (_, next) => captureRuns s false fuel (pos + 1) ++ childrenRuns s fuel next
      else childrenRuns s fuel (skip (fun e => e != '<' && e != '{') s.chars pos)

end

/-- The runs of a source, the source itself first. -/
def runs (s : Listing) : List Run :=
  let fuel := stepsPerChar * (s.chars.size + 2)
  { constructs := constructs s fuel .text 0 {} } :: codeRuns s fuel .text 0 {}

/-- The place of the last construct that is no blank. -/
def lastFull (s : Listing) (positions : List Nat) : Option Nat :=
  positions.reverse.find? fun i => !(s.charAt? i).any Text.isBlank

namespace Run

variable (s : Listing) (r : Run)

/-- An expression for a call with nothing but blanks after a line comment. -/
def Strays : Prop :=
  r.lowered.isSome = true ∧
    (lastFull s r.constructs).any (fun i => startsAt s.chars i ['/', '/']) = true

/-- What the call gets of it ends inside of a line comment. -/
def Swallows : Prop :=
  r.lowered.any (fun text => decide (EndsInLineComment (Text.trimBy Text.isBlank text))) = true

/-- The blanks that are cut from the beginning are such that code passes over them. -/
def IsPlain : Prop :=
  r.lowered.all (fun text => (text.takeWhile Text.isBlank).all Text.isSpace) = true

/-- The brackets of the run close one another. -/
def IsBalanced : Prop :=
  (r.constructs.filterMap s.charAt?).foldl bracket (some []) = some []

instance : Decidable (r.Strays s) := inferInstanceAs (Decidable (_ ∧ _))

instance : Decidable r.Swallows := inferInstanceAs (Decidable (_ = _))

instance : Decidable r.IsPlain := inferInstanceAs (Decidable (_ = _))

instance : Decidable (r.IsBalanced s) := inferInstanceAs (Decidable (_ = _))

end Run

end Source

/-! ## Code and the reader -/

namespace Source

open Scan Listing ScriptState

variable {s : Listing} {counted : Bool} {rs rs' : List Run} {P Q : Prop}

/-! ## Runs that are in order -/

/-- Either some run strays and what is placed for it ends in a comment, or no run does and a property
holds. Of the runs it is asked that they begin with plain blanks and, if brackets count, that their
brackets close one another. -/
def Settled (s : Listing) (counted : Bool) (rs : List Run) (P : Prop) : Prop :=
  (∀ r ∈ rs, r.IsPlain ∧ (counted = true → r.IsBalanced s)) →
    (∃ r ∈ rs, r.Strays s ∧ r.Swallows) ∨ ((∀ r ∈ rs, ¬ r.Strays s ∧ ¬ r.Swallows) ∧ P)

namespace Settled

theorem of_nil (h : P) : Settled s counted [] P := fun _ => .inr ⟨by simp, h⟩

theorem imp (h : Settled s counted rs P) (f : P → Q) : Settled s counted rs Q := by
  intro hfair
  obtain hbad | ⟨hgood, hp⟩ := h hfair
  · exact .inl hbad
  · exact .inr ⟨hgood, f hp⟩

theorem append (h : Settled s counted rs P) (h' : Settled s counted rs' Q) :
    Settled s counted (rs ++ rs') (P ∧ Q) := by
  intro hfair
  rw [List.forall_mem_append] at hfair
  obtain ⟨r, hr, hbad⟩ | ⟨hgood, hp⟩ := h hfair.1
  · exact .inl ⟨r, List.mem_append_left _ hr, hbad⟩
  · obtain ⟨r, hr, hbad⟩ | ⟨hgood', hq⟩ := h' hfair.2
    · exact .inl ⟨r, List.mem_append_right _ hr, hbad⟩
    · exact .inr ⟨List.forall_mem_append.mpr ⟨hgood, hgood'⟩, hp, hq⟩

/-- A run that is placed in no call. -/
theorem cons {constructs : List Nat} (h : Settled s counted rs P) :
    Settled s counted ({ constructs } :: rs)
      (P ∧ (counted = true → Run.IsBalanced s { constructs })) := by
  intro hfair
  rw [List.forall_mem_cons] at hfair
  obtain ⟨r, hr, hbad⟩ | ⟨hgood, hp⟩ := h hfair.2
  · exact .inl ⟨r, List.mem_cons_of_mem _ hr, hbad⟩
  · have hfirst : ¬ Run.Strays s { constructs } ∧ ¬ Run.Swallows { constructs } := by
      simp [Run.Strays, Run.Swallows]
    exact .inr ⟨List.forall_mem_cons.mpr ⟨hfirst, hgood⟩, hp, hfair.1.2⟩

end Settled

/-! ## Brackets of a run -/

variable {cs : List Char} {opened : Option (List Char)}

theorem foldl_bracket_none (cs : List Char) : cs.foldl bracket none = none := by
  induction cs with
  | nil => rfl
  | cons c cs ih => rw [List.foldl_cons, bracket_none, ih]

theorem bracket_append {c : Char} {stack stack' : List Char} (h : bracket (some stack) c = some stack')
    (rest : List Char) : bracket (some (stack ++ rest)) c = some (stack' ++ rest) := by
  unfold bracket at h ⊢
  split at h
  · rename_i hopen
    cases h
    rw [if_pos hopen]
    rfl
  · rename_i hopen
    rw [if_neg hopen]
    split at h
    · rename_i hclose
      rw [if_pos hclose]
      cases stack with
      | nil => cases h
      | cons o stack =>
        simp only [Option.bind_some] at h
        split at h
        · rename_i hpair
          cases h
          simp only [List.cons_append, Option.bind_some, hpair, if_true]
        · cases h
    · rename_i hclose
      cases h
      rw [if_neg hclose]

/-- Brackets that close one another do so between any others. -/
theorem foldl_bracket_append {stack stack' : List Char}
    (h : cs.foldl bracket (some stack) = some stack') (rest : List Char) :
    cs.foldl bracket (some (stack ++ rest)) = some (stack' ++ rest) := by
  induction cs generalizing stack with
  | nil =>
    cases h
    rfl
  | cons c cs ih =>
    rw [List.foldl_cons] at h ⊢
    cases hc : bracket (some stack) c with
    | none =>
      rw [hc, foldl_bracket_none] at h
      cases h
    | some next =>
      rw [hc] at h
      rw [bracket_append hc rest, ih h]

theorem foldl_bracket_of_balanced (h : counted = true → cs.foldl bracket (some []) = some [])
    (hcounts : Counts counted opened) : cs.foldl bracket opened = opened := by
  cases opened with
  | none => exact foldl_bracket_none cs
  | some stack =>
    cases counted with
    | false => cases hcounts rfl
    | true => exact foldl_bracket_append (h rfl) stack

/-! ## How code ends -/

variable {i j fuel depth start : Nat} {c d : Char} {p w text : List Char} {a b : Cursor}
  {k k' r : ScriptState} {ps : List Nat} {stop : Stop}

theorem lastFull_cons (hd : s.charAt? i = some d) (ps : List Nat) :
    lastFull s (i :: ps) =
      (lastFull s ps).or (if Text.isBlank d = true then none else some i) := by
  unfold lastFull
  rw [List.reverse_cons, List.find?_append]
  congr 1
  cases hblank : Text.isBlank d <;> simp [hd, hblank]

/-- What code has written, by its last construct that is no blank: nothing but blanks, or a text and
blanks after it, at the end of which the reader is in a comment or in the code that follows. -/
structure Tail (s : Listing) (last : Option Nat) (w : List Char) (r k k' : ScriptState) : Prop where
  blank : last = none → (∀ c ∈ w, Text.isBlank c = true) ∧ ∃ starts, k' = { k with starts }
  full : ∀ i, last = some i → ∃ u v, w = u ++ v ∧ (∀ c ∈ v, Text.isBlank c = true) ∧ EndsFull u ∧
    (startsAt s.chars i ['/', '/'] = true → (r.read u).inside = .lineComment) ∧
    (startsAt s.chars i ['/', '/'] = false → Calm k' (r.read u))

/-- A text without the blanks at its end. -/
theorem exists_full (t : List Char) :
    ∃ u v, t = u ++ v ∧ (∀ c ∈ v, Text.isBlank c = true) ∧ (u = [] ∨ EndsFull u) := by
  obtain ⟨v, hv, heq⟩ := exists_trimEndBy Text.isBlank t
  refine ⟨Text.trimEndBy Text.isBlank t, v, heq, hv, ?_⟩
  unfold Text.trimEndBy
  have hlast := List.head?_dropWhile_not Text.isBlank t.reverse
  cases hdrop : t.reverse.dropWhile Text.isBlank with
  | nil => exact .inl rfl
  | cons e rest =>
    rw [hdrop] at hlast
    exact .inr ⟨rest.reverse, e, List.reverse_cons, hlast⟩

theorem Tail.cons {starts : Bool} (hd : s.charAt? a.pos = some d) (hstands : Stands s k a r)
    (hpiece : Piece s a.pos d p)
    (hsettles : startsAt s.chars a.pos ['/', '/'] = false → (r.read p).Settles (k.past d starts))
    (h : Tail s (lastFull s ps) w (r.read p) (k.past d starts) k') :
    Tail s (lastFull s (a.pos :: ps)) (p ++ w) r k k' := by
  rw [lastFull_cons hd]
  cases hlast : lastFull s ps with
  | some m =>
    refine ⟨fun hnone => (by cases hnone), ?_⟩
    rintro _ ⟨⟩
    obtain ⟨u, v, rfl, hv, hu, hcomment, hcode⟩ := h.full m hlast
    rw [← read_append] at hcomment hcode
    exact ⟨p ++ u, v, by simp, hv, hu.append p, hcomment, hcode⟩
  | none =>
    obtain ⟨hw, starts', rfl⟩ := h.blank hlast
    cases hblank : Text.isBlank d with
    | true =>
      refine ⟨fun _ => ?_, fun _ hsome => by cases hsome⟩
      rw [hpiece.blank hblank]
      refine ⟨List.forall_mem_append.mpr ⟨by simpa using hblank, hw⟩, starts', ?_⟩
      rw [past_of_class (p := Text.isBlank) (by decide) hblank]
    | false =>
      refine ⟨fun hnone => (by cases hnone), ?_⟩
      rintro _ ⟨⟩
      cases hslash : startsAt s.chars a.pos ['/', '/'] with
      | true =>
        obtain ⟨q, rfl, hq⟩ := hpiece.comment hslash
        obtain ⟨u, v, rfl, hv, hu⟩ := exists_full q
        obtain rfl : d = '/' := by
          simp only [startsAt, Bool.and_eq_true, beq_iff_eq] at hslash
          exact Option.some.inj (hd.symm.trans hslash.1)
        have hfull : EndsFull ('/' :: '/' :: u) := by
          obtain rfl | hu := hu
          · exact ⟨['/'], '/', rfl, rfl⟩
          · exact hu.append ['/', '/']
        refine ⟨'/' :: '/' :: u, v ++ w, by simp, List.forall_mem_append.mpr ⟨hv, hw⟩, hfull,
          fun _ => ?_, fun hfalse => by cases hfalse⟩
        rw [hstands.read hd (by decide), read_lineComment hstands.inside]
        exact fun hmem => hq (List.mem_append_left _ hmem)
      | false =>
        refine ⟨p, w, rfl, hw, hpiece.full hblank hslash,
          fun htrue => (by cases htrue), fun _ => ?_⟩
        exact ⟨starts, hsettles hslash⟩

/-- Code from the cursor on, and the reader beside it: `base` braces are open around it. -/
def CodeReads (s : Listing) (counted : Bool) (stop : Stop) (depth : Nat) (ps : List Nat)
    (a b : Cursor) : Prop :=
  ∃ w c, c.written = w.reverse ++ a.written ∧ EndsAt s stop c b ∧
    ∀ base r k, Stands s k a r → Counts counted k.opened → k.depth = base + depth →
      (stop = .brace ∨ base = 0 ∧ k.outer = []) →
      ∃ k', Stands s k' c (r.read w) ∧ k'.outer = k.outer ∧
        k'.opened = (ps.filterMap s.charAt?).foldl bracket k.opened ∧
        (stop = .brace → k'.depth = base) ∧ Tail s (lastFull s ps) w r k k'

/-- A template from after its opening mark or from within it. -/
def TemplateReads (s : Listing) (counted : Bool) (a b : Cursor) : Prop :=
  ∃ w, b.written = w.reverse ++ a.written ∧ EndsFull w ∧
    ∀ r : ScriptState, Counts counted r.opened →
      (r.inside = .template ∨ r.inside = .dollar ∧ s.charAt? a.pos ≠ some '{') →
      r.read w = { r with inside := .code, starts := false }

/-- Lowering with some fuel, with the reader beside it. -/
structure Tracks (s : Listing) (counted : Bool) (fuel : Nat) : Prop where
  code {stop : Stop} {depth : Nat} {a b : Cursor} : code s fuel stop depth a = .ok b →
    Settled s counted (codeRuns s fuel stop depth a)
      (CodeReads s counted stop depth (constructs s fuel stop depth a) a b)
  construct {d : Char} {a b : Cursor} : s.charAt? a.pos = some d → construct s fuel d a = .ok b →
    Settled s counted (constructRuns s fuel d a) (TokenReads s counted d a b)
  angle {a b : Cursor} : s.charAt? a.pos = some '<' → angle s fuel a = .ok b →
    Settled s counted (angleRuns s fuel a) (TokenReads s counted '<' a b)
  openParen {a b : Cursor} : s.charAt? a.pos = some '(' → openParen s fuel a = .ok b →
    TokenReads s counted '(' a b
  template {start : Nat} {a b : Cursor} : template s fuel start a = .ok b →
    Settled s counted (templateRuns s fuel a) (TemplateReads s counted a b)
  capture {spread : Bool} {i j : Nat} {text : List Char} : capture s fuel i = .ok (text, j) →
    Settled s counted (captureRuns s spread fuel i)
      ((spread || !isBlank text) = true → IsOperand counted (Text.trimBy Text.isBlank text))
  element {i j : Nat} {text : List Char} : element s fuel i = .ok (text, j) →
    Settled s counted (elementRuns s fuel i) (IsCall counted text)
  attributes {start i j : Nat} {name text : List Char} {props : List (List Char)} :
    attributes s fuel start name props i = .ok (text, j) →
    Settled s counted (attributesRuns s fuel i)
      ((∀ c ∈ name, isTagNamePart c = true) → (∀ p ∈ props, IsOperand counted p) →
        IsCall counted text)
  value {i j : Nat} {text : List Char} : attributeValue s fuel i = .ok (text, j) →
    Settled s counted (valueRuns s fuel i) (IsOperand counted text)
  children {start i j : Nat} {name : List Char} {found texts : List (List Char)} :
    children s fuel name start found i = .ok (texts, j) →
    Settled s counted (childrenRuns s fuel i)
      ((∀ t ∈ found, IsOperand counted t) → ∀ t ∈ texts, IsOperand counted t)

theorem CodeReads.nil (hends : EndsAt s stop a b) (hdepth : stop = .brace → depth = 0) :
    CodeReads s counted stop depth [] a b := by
  refine ⟨[], a, rfl, hends, fun base r k hstands _ hk _ => ⟨k, hstands, rfl, rfl, ?_, ?_⟩⟩
  · intro hstop
    rw [hk, hdepth hstop, Nat.add_zero]
  · exact ⟨fun _ => ⟨by simp, k.starts, rfl⟩, fun _ hsome => by cases hsome⟩

theorem CodeReads.cons {next : Cursor} (hd : s.charAt? a.pos = some d)
    (hclose : ¬ (d == '}' && depth == 0 && stop == .brace) = true)
    (htoken : TokenReads s counted d a next)
    (hrest : CodeReads s counted stop (braceDepth depth d) ps next b) :
    CodeReads s counted stop depth (a.pos :: ps) a b := by
  obtain ⟨p, hp, hpiece, hread⟩ := htoken
  obtain ⟨w, c, hw, hends, hrest⟩ := hrest
  refine ⟨p ++ w, c, by simp [hw, hp], hends, ?_⟩
  intro base r k hstands hcounts hdepth hbase
  -- a closing brace here closes one of the braces in this code
  have hopen : d = '}' → stop = .brace → 0 < depth := by
    rintro rfl rfl
    cases depth with
    | zero => exact absurd rfl hclose
    | succ n => exact Nat.succ_pos n
  have hbrace : d = '}' → k.outer = [] ∨ 0 < k.depth := by
    intro hd
    obtain hstop | ⟨-, houter⟩ := hbase
    · have := hopen hd hstop
      exact .inr (by omega)
    · exact .inl houter
  have hpast : braceDepth k.depth d = base + braceDepth depth d := by
    unfold braceDepth
    split
    · omega
    · split
      · rename_i heq
        obtain hstop | ⟨rfl, -⟩ := hbase
        · have := hopen (eq_of_beq heq) hstop
          omega
        · omega
      · exact hdepth
  obtain ⟨hnext, hsettles⟩ := hread r k hstands hcounts hbrace
  obtain ⟨k', hend, houter, hopened, hdepth', htail⟩ :=
    hrest base (r.read p) (k.past d next.previous.startsExpression) hnext
      (hcounts.bracket (c := d)) hpast hbase
  refine ⟨k', by rwa [read_append], houter, ?_, hdepth', htail.cons hd hstands hpiece hsettles⟩
  rw [hopened, List.filterMap_cons_some hd, List.foldl_cons]
  rfl

namespace Tracks

theorem zero (s : Listing) (counted : Bool) : Tracks s counted 0 where
  code h := by rw [Source.code] at h; cases h
  construct _ h := by rw [Source.construct] at h; cases h
  angle _ h := by rw [Source.angle] at h; cases h
  openParen _ h := by rw [Source.openParen] at h; cases h
  template h := by rw [Source.template] at h; cases h
  capture h := by rw [Source.capture] at h; cases h
  element h := by rw [Source.element] at h; cases h
  attributes h := by rw [Source.attributes] at h; cases h
  value h := by rw [attributeValue] at h; cases h
  children h := by rw [Source.children] at h; cases h

theorem code_succ (ih : Tracks s counted fuel) (h : Source.code s (fuel + 1) stop depth a = .ok b) :
    Settled s counted (codeRuns s (fuel + 1) stop depth a)
      (CodeReads s counted stop depth (constructs s (fuel + 1) stop depth a) a b) := by
  rw [Source.code] at h
  rw [codeRuns, constructs]
  split at h
  · rename_i hreached
    cases h
    rw [if_pos hreached, if_pos hreached]
    cases stop with
    | text => cases hreached
    | brace => cases hreached
    | limit n => exact .of_nil (.nil rfl fun hstop => by cases hstop)
  · rename_i hreached
    rw [if_neg hreached, if_neg hreached]
    cases hd : s.charAt? a.pos with
    | none =>
      rw [hd] at h
      dsimp only at h ⊢
      cases stop with
      | text => cases h; exact .of_nil (.nil ⟨hd, rfl⟩ fun hstop => by cases hstop)
      | brace => cases h
      | limit n => cases h; exact .of_nil (.nil rfl fun hstop => by cases hstop)
    | some d =>
      rw [hd] at h
      dsimp only at h ⊢
      split at h
      · rename_i hclose
        rw [if_pos hclose, if_pos hclose]
        simp only [Bool.and_eq_true, beq_iff_eq] at hclose
        obtain ⟨⟨rfl, rfl⟩, hstop⟩ := hclose
        obtain rfl := Stop.eq_brace hstop
        cases h
        exact .of_nil (.nil ⟨hd, rfl⟩ fun _ => rfl)
      · rename_i hclose
        rw [if_neg hclose, if_neg hclose]
        cases hnext : Source.construct s fuel d a with
        | error e => rw [hnext] at h; cases h
        | ok next =>
          rw [hnext] at h
          refine ((ih.construct hd hnext).append (ih.code h)).imp ?_
          rintro ⟨htoken, hrest⟩
          exact .cons hd hclose htoken hrest

theorem endsFull_createElement (type props : List Char) (children : List (List Char)) :
    EndsFull (createElement type props children) :=
  ⟨_, ')', rfl, rfl⟩

theorem angle_succ (hno : s.dialect.hasTypes = false) (ih : Tracks s counted fuel)
    (hd : s.charAt? a.pos = some '<') (h : Source.angle s (fuel + 1) a = .ok b) :
    Settled s counted (angleRuns s (fuel + 1) a) (TokenReads s counted '<' a b) := by
  rw [Source.angle] at h
  rw [angleRuns]
  simp only [hno, Bool.false_and, Bool.false_eq_true, if_false] at h
  split at h
  · rename_i hopens
    rw [if_pos hopens]
    obtain ⟨⟨text, pos⟩, helement, rfl⟩ := exists_of_map_eq_ok h
    obtain ⟨type, props, children, rfl⟩ := (isCallTo_of_element helement).isCall
    exact (ih.element helement).imp fun hcall =>
      .element hd hcall (endsFull_createElement ..) rfl rfl
  · rename_i hopens
    rw [if_neg hopens]
    cases h
    exact .of_nil (.other hd (by decide) rfl rfl rfl rfl)

theorem openParen_succ (hno : s.dialect.hasTypes = false) (hd : s.charAt? a.pos = some '(')
    (h : Source.openParen s (fuel + 1) a = .ok b) : TokenReads s counted '(' a b := by
  rw [Source.openParen] at h
  simp only [hno, Bool.false_eq_true, if_false] at h
  cases h
  exact .other hd (by decide) rfl rfl rfl rfl

/-- A template as a token of the code around it. -/
theorem tokenReads_template {c : Cursor} (hd : s.charAt? a.pos = some '\x60')
    (h : TemplateReads s counted (a.copyBlank '\x60') c) :
    TokenReads s counted '\x60' a { c with previous := .value } := by
  obtain ⟨w, hwritten, hfull, hread⟩ := h
  refine .token (t := w) hd rfl (startsAt_of_ne hd (by decide)) ?_ (hfull.append ['\x60'])
    fun k hk _ hcounts => ?_
  · simp [hwritten, Cursor.copyBlank]
  · have hopen : k.step '\x60' = { k with inside := .template } := step_code hk '\x60'
    have hpast : { k with inside := .code, starts := false } = k.past '\x60' false := by
      rw [← hk]
      rfl
    rw [read_cons, hopen, hread { k with inside := .template } hcounts (.inl rfl)]
    exact ⟨hpast ▸ .of_code rfl, fun e _ => rfl⟩

/-- What a construct is read as. -/
theorem construct_succ (hno : s.dialect.hasTypes = false) (ih : Tracks s counted fuel)
    (hd : s.charAt? a.pos = some d) (h : Source.construct s (fuel + 1) d a = .ok b) :
    Settled s counted (constructRuns s (fuel + 1) d a) (TokenReads s counted d a b) := by
  rw [Source.construct] at h
  rw [constructRuns]
  by_cases htemplate : d = '\x60'
  · subst htemplate
    obtain ⟨c, hc, rfl⟩ := exists_of_map_eq_ok h
    exact (ih.template hc).imp (tokenReads_template hd)
  by_cases hangle : d = '<'
  · subst hangle
    exact ih.angle hd h
  rw [if_neg (by simpa using htemplate), if_neg (by simpa using hangle)]
  refine .of_nil ?_
  by_cases hline : (d == '/' && s.charAt? (a.pos + 1) == some '/') = true
  · rw [if_pos hline] at h
    cases h
    simp only [Bool.and_eq_true, beq_iff_eq] at hline
    obtain ⟨rfl, hnext⟩ := hline
    exact .lineComment hd hnext
  rw [if_neg hline] at h
  by_cases hblock : (d == '/' && s.charAt? (a.pos + 1) == some '*') = true
  · rw [if_pos hblock] at h
    simp only [Bool.and_eq_true, beq_iff_eq] at hblock
    obtain ⟨rfl, hnext⟩ := hblock
    exact .blockComment hd hnext h
  rw [if_neg hblock] at h
  by_cases hquote : (d == '\'' || d == '"') = true
  · rw [if_pos hquote] at h
    exact .string hd (by simpa using hquote) h
  rw [if_neg hquote, if_neg (by simpa using htemplate)] at h
  by_cases hbrace : (d == '{' || d == '}') = true
  · rw [if_pos hbrace] at h
    cases h
    exact .brace hd (by simpa using hbrace)
  rw [if_neg hbrace, if_neg (by simpa using hangle)] at h
  by_cases hslash : (d == '/') = true
  · rw [if_pos hslash] at h
    obtain rfl := eq_of_beq hslash
    exact .slash hd (by simpa using hline) (by simpa using hblock) h
  rw [if_neg hslash] at h
  by_cases hparen : (d == '(') = true
  · rw [if_pos hparen] at h
    obtain rfl := eq_of_beq hparen
    exact ih.openParen hd h
  rw [if_neg hparen] at h
  -- without types a mark asserts nothing
  have hassert : ¬(d == '!' && s.assertsValue a) = true := by simp [assertsValue, hno]
  rw [if_neg hassert] at h
  by_cases hdot : (d == '.' && (s.charAt? (a.pos + 1)).any Char.isDigit) = true
  · rw [if_pos hdot] at h
    cases h
    rw [Bool.and_eq_true, beq_iff_eq] at hdot
    exact .number hd (.inr hdot)
  rw [if_neg hdot] at h
  by_cases hname : isNameStart d = true
  · rw [if_pos hname] at h
    exact .word hno hd hname h
  rw [if_neg hname] at h
  by_cases hdigit : d.isDigit = true
  · rw [if_pos hdigit] at h
    cases h
    exact .number hd (.inl hdigit)
  rw [if_neg hdigit] at h
  by_cases hspace : Text.isSpace d = true
  · rw [if_pos hspace] at h
    cases h
    exact .space hd hspace rfl rfl
  rw [if_neg hspace] at h
  have hmark : d ∉ ['/', '\'', '"', '\x60', '{', '}'] := by
    simp only [Bool.or_eq_true, beq_iff_eq, not_or] at hquote hbrace hslash
    simp [hquote, hbrace, hslash, htemplate]
  rw [Bool.not_eq_true] at hname hdigit hspace
  by_cases hvalue : (decide (d.toNat ≥ 128) || d == ')' || d == ']') = true
  · rw [if_pos hvalue] at h
    cases h
    exact .other hd hmark hname hdigit hspace (by rw [hvalue]; rfl)
  · rw [if_neg hvalue] at h
    cases h
    refine .other hd hmark hname hdigit hspace ?_
    rw [Bool.not_eq_true] at hvalue
    have hclose : d ≠ '}' := fun heq => hmark (by simp [heq])
    rw [hvalue]
    simpa [Previous.startsExpression] using hclose

/-- A piece of a template, and the rest of it. -/
theorem templateReads_append {next : Cursor} (h : TemplateReads s counted next b)
    (hwritten : next.written = p.reverse ++ a.written)
    (hread : ∀ r : ScriptState, Counts counted r.opened →
      (r.inside = .template ∨ r.inside = .dollar ∧ s.charAt? a.pos ≠ some '{') →
      ∃ inside starts, r.read p = { r with inside, starts } ∧
        (inside = .template ∨ inside = .dollar ∧ s.charAt? next.pos ≠ some '{')) :
    TemplateReads s counted a b := by
  obtain ⟨w, hw, hfull, hrest⟩ := h
  refine ⟨p ++ w, by simp [hw, hwritten], hfull.append p, fun r hcounts hinside => ?_⟩
  obtain ⟨inside, starts, hp, hnext⟩ := hread r hcounts hinside
  rw [read_append, hp, hrest { r with inside, starts } hcounts hnext]

/-- A character of a template that opens no substitution. -/
theorem step_template (hd : s.charAt? a.pos = some d)
    (hr : r.inside = .template ∨ r.inside = .dollar ∧ s.charAt? a.pos ≠ some '{') :
    r.step d = r.inTemplate d := by
  obtain hr | ⟨hr, hne⟩ := hr
  · simp [step, hr]
  · have hne : d ≠ '{' := fun heq => hne (heq ▸ hd)
    simp [step, hr, hne]

theorem template_ne_none (h : Source.template s fuel start a = .ok b) : s.charAt? a.pos ≠ none := by
  intro hnone
  cases fuel with
  | zero => rw [Source.template] at h; cases h
  | succ fuel => rw [Source.template, hnone] at h; cases h

/-- A substitution in a template, with the code in it. -/
theorem templateReads_substitution {inner : Cursor} (hd : s.charAt? a.pos = some '$')
    (hcode : CodeReads s counted .brace 0 ps { (a.copyBlank '$').copyBlank '{' with previous := .start }
      inner)
    (hbalanced : counted = true → Run.IsBalanced s { constructs := ps })
    (h : TemplateReads s counted { inner.write ['}'] with previous := a.previous } b) :
    TemplateReads s counted a b := by
  obtain ⟨w, c, hw, ⟨hclose, rfl⟩, hread⟩ := hcode
  refine templateReads_append (p := '$' :: '{' :: w ++ ['}']) h ?_ ?_
  · simp [hw, Cursor.write, Cursor.copyBlank]
  · intro r hcounts hinside
    -- the code in braces is read from its own beginning
    let k : ScriptState :=
      { inside := .code, starts := true, depth := 0, outer := r.depth :: r.outer
        opened := bracket r.opened '{' }
    have hopen : (r.step '$').step '{' = k := by
      rw [step_template hd hinside]
      rfl
    obtain ⟨k', hstands, houter, hopened, hdepth, -⟩ := hread 0 k k
      ⟨rfl, rfl, .inl ⟨.of_code rfl, fun e _ => rfl⟩⟩ (hcounts.bracket (c := '{')) rfl (.inl rfl)
    rw [foldl_bracket_of_balanced hbalanced (hcounts.bracket (c := '{'))] at hopened
    obtain ⟨inside, starts, depth, outer, opened⟩ := k'
    obtain rfl : inside = .code := hstands.inside
    obtain rfl : outer = r.depth :: r.outer := houter
    obtain rfl : opened = bracket r.opened '{' := hopened
    obtain rfl : depth = 0 := hdepth rfl
    obtain ⟨hsettles, hcontinues⟩ := hstands.settles hclose (by decide)
    refine ⟨.template, starts, ?_, .inl rfl⟩
    have hback : (ScriptState.mk .code starts 0 (r.depth :: r.outer) (bracket r.opened '{')).inCode '}' =
        { r with inside := .template, starts, opened := bracket (bracket r.opened '{') '}' } := rfl
    rw [List.cons_append, List.cons_append, read_cons, read_cons, hopen, read_append, read_cons,
      hsettles.step hcontinues, read_nil, hback, bracket_braces]

theorem template_succ (ih : Tracks s counted fuel)
    (h : Source.template s (fuel + 1) start a = .ok b) :
    Settled s counted (templateRuns s (fuel + 1) a) (TemplateReads s counted a b) := by
  rw [Source.template] at h
  rw [templateRuns]
  cases hd : s.charAt? a.pos with
  | none => rw [hd] at h; cases h
  | some d =>
    rw [hd] at h
    dsimp only at h ⊢
    split at h
    · rename_i hescape
      rw [if_pos hescape]
      obtain rfl := eq_of_beq hescape
      cases he : s.charAt? (a.pos + 1) with
      | none =>
        rw [he] at h
        exact absurd he (template_ne_none h)
      | some e =>
        rw [he] at h
        refine (ih.template h).imp fun hrest => ?_
        refine templateReads_append (p := ['\\', e]) hrest rfl fun r _ hinside => ?_
        refine ⟨.template, r.starts, ?_, .inl rfl⟩
        rw [read_cons, step_template hd hinside]
        rfl
    rename_i hescape
    rw [if_neg hescape]
    split at h
    · rename_i hmark
      rw [if_pos hmark]
      cases h
      obtain rfl := eq_of_beq hmark
      refine .of_nil ⟨['\x60'], rfl, .single rfl, fun r _ hinside => ?_⟩
      rw [read_cons, step_template hd hinside]
      rfl
    rename_i hmark
    rw [if_neg hmark]
    split at h
    · rename_i hsubstitution
      rw [if_pos hsubstitution]
      simp only [Bool.and_eq_true, beq_iff_eq] at hsubstitution
      obtain ⟨rfl, hbrace⟩ := hsubstitution
      cases hinner : Source.code s fuel .brace 0
          { (a.copyBlank '$').copyBlank '{' with previous := .start } with
      | error e => rw [hinner] at h; cases h
      | ok inner =>
        rw [hinner] at h
        refine (((ih.code hinner).cons).append (ih.template h)).imp ?_
        rintro ⟨⟨hcode, hbalanced⟩, hrest⟩
        exact templateReads_substitution hd hcode hbalanced hrest
    · rename_i hsubstitution
      rw [if_neg hsubstitution]
      refine (ih.template h).imp fun hrest => ?_
      refine templateReads_append (p := [d]) hrest rfl fun r _ hinside => ?_
      rw [beq_iff_eq] at hescape hmark
      rw [read_cons, step_template hd hinside, read_nil, inTemplate]
      by_cases hdollar : d = '$'
      · subst hdollar
        have hbrace : s.charAt? (a.pos + 1) ≠ some '{' := by simpa using hsubstitution
        exact ⟨.dollar, r.starts, rfl, .inr ⟨rfl, hbrace⟩⟩
      · exact ⟨.template, r.starts, by simp [hescape, hmark, hdollar], .inl rfl⟩

end Tracks

end Source
end Restyle
