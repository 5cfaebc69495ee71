import Restyle.Script.Grammar.Statement

/-!
# Restyle.Proofs.Script.Parsing

What readers of scripts make of the words ahead. `Ahead` is said of a word and of those that are
read after it, `Takes` of a reader that passes over the words up to another one and gives a result.
-/

namespace Restyle
namespace Script

variable {α β : Type}

/-- A word, and whether there is a line break before it. -/
structure Word where
  token : Token
  fresh : Bool := false

/-- From a word on these words are read, and then another one. -/
inductive Ahead : Lexeme → List Word → Lexeme → Prop where
  | nil (x : Lexeme) : Ahead x [] x
  | cons {x y z : Lexeme} {ws : List Word} (hnext : x.stop.next = .ok y) (hs : Ahead y ws z) :
      Ahead x (⟨x.token, x.fresh⟩ :: ws) z

namespace Ahead

variable {x y z : Lexeme} {w : Word} {ws ws' : List Word}

theorem cons_iff :
    Ahead x (w :: ws) z ↔
      x.token = w.token ∧ x.fresh = w.fresh ∧ ∃ y, x.stop.next = .ok y ∧ Ahead y ws z := by
  constructor
  · intro h
    cases h with
    | cons hnext hs => exact ⟨rfl, rfl, _, hnext, hs⟩
  · rintro ⟨htoken, hfresh, y, hnext, hs⟩
    have hw : w = ⟨x.token, x.fresh⟩ := by
      cases w
      simp only at htoken hfresh
      rw [htoken, hfresh]
    rw [hw]
    exact .cons hnext hs

theorem nil_iff : Ahead x [] z ↔ x = z := by
  constructor
  · intro h
    cases h
    rfl
  · rintro rfl
    exact .nil x

theorem append_iff : Ahead x (ws ++ ws') z ↔ ∃ y, Ahead x ws y ∧ Ahead y ws' z := by
  induction ws generalizing x with
  | nil =>
    simp [nil_iff]
  | cons w ws ih =>
    simp only [List.cons_append, cons_iff, ih]
    constructor
    · rintro ⟨ht, hf, y, hnext, y', hs, hs'⟩
      exact ⟨y', ⟨ht, hf, y, hnext, hs⟩, hs'⟩
    · rintro ⟨y', ⟨ht, hf, y, hnext, hs⟩, hs'⟩
      exact ⟨ht, hf, y, hnext, y', hs, hs'⟩

end Ahead

/-! ## Readers -/

/-- Outside of functions that wait, the reader passes over the words up to another one and gives a
result; nothing else changes but the number of functions. -/
def Takes (p : Parse α) (x : Lexeme) (a : α) (y : Lexeme) : Prop :=
  ∀ st : ParseState, st.look = x → st.surroundings.isAsync = false →
    ∃ n, p st = .ok a { st with look := y, functions := n }

namespace Takes

variable {p : Parse α} {f : α → Parse β} {a : α} {b : β} {x y z : Lexeme}

theorem pure (a : α) (x : Lexeme) : Takes (Pure.pure a) x a x := by
  rintro st rfl -
  exact ⟨st.functions, rfl⟩

theorem bind (hp : Takes p x a y) (hf : Takes (f a) y b z) : Takes (p >>= f) x b z := by
  intro st hst hasync
  obtain ⟨n, hn⟩ := hp st hst hasync
  obtain ⟨n', hn'⟩ := hf { st with look := y, functions := n } rfl hasync
  refine ⟨n', ?_⟩
  show EStateM.bind p f st = _
  rw [EStateM.bind, hn]
  exact hn'

/-- What is read of the state is there when the rest of the reader runs. -/
theorem get {f : ParseState → Parse β} (h : ∀ st : ParseState, st.look = x →
    st.surroundings.isAsync = false → ∃ n, f st st = .ok b { st with look := y, functions := n }) :
    Takes (MonadState.get >>= f) x b y :=
  fun st hst hasync => h st hst hasync

end Takes

/-- Outside of functions that wait, the reader does not get through from the word on. -/
def Fails (p : Parse α) (x : Lexeme) : Prop :=
  ∀ st : ParseState, st.look = x → st.surroundings.isAsync = false → ∃ e st', p st = .error e st'

namespace Fails

variable {p : Parse α} {f : α → Parse β} {a : α} {x y : Lexeme}

theorem bind (hp : Fails p x) : Fails (p >>= f) x := by
  intro st hst hasync
  obtain ⟨e, st', h⟩ := hp st hst hasync
  refine ⟨e, st', ?_⟩
  show EStateM.bind p f st = _
  rw [EStateM.bind, h]

theorem after (hp : Takes p x a y) (hf : Fails (f a) y) : Fails (p >>= f) x := by
  intro st hst hasync
  obtain ⟨n, hn⟩ := hp st hst hasync
  obtain ⟨e, st', h⟩ := hf { st with look := y, functions := n } rfl hasync
  refine ⟨e, st', ?_⟩
  show EStateM.bind p f st = _
  rw [EStateM.bind, hn]
  exact h

theorem get {f : ParseState → Parse β} (h : ∀ st : ParseState, st.look = x →
    st.surroundings.isAsync = false → ∃ e st', f st st = .error e st') : Fails (MonadState.get >>= f) x :=
  fun st hst hasync => h st hst hasync

end Fails

/-- Is the token a given mark? -/
def Token.isMark (t : Token) (m : String) : Bool :=
  match t with
  | .mark m' => m == m'
  | _ => false

/-- Is the token a given word of the language? -/
def Token.isWord (t : Token) (w : String) : Bool :=
  match t with
  | .name x false => x == w
  | _ => false

namespace Parse

variable {x y z : Lexeme} {m : String}

theorem takes_peek (x : Lexeme) : Takes peek x x.token x := by
  rintro st rfl -
  exact ⟨st.functions, rfl⟩

theorem takes_advance (h : x.stop.next = .ok y) : Takes advance x () y := by
  unfold advance
  refine .get fun st hst _ => ⟨st.functions, ?_⟩
  rw [hst, h]
  rfl

theorem takes_isMark (m : String) (x : Lexeme) : Takes (isMark m) x (x.token.isMark m) x := by
  refine (takes_peek x).bind ?_
  cases x.token <;> exact .pure _ _

theorem takes_isWord (w : String) (x : Lexeme) : Takes (isWord w) x (x.token.isWord w) x := by
  refine (takes_peek x).bind ?_
  cases x.token with
  | name n escaped => cases escaped <;> exact .pure _ _
  | _ => exact .pure _ _

theorem takes_acceptMark (hx : x.token = .mark m) (h : x.stop.next = .ok y) :
    Takes (acceptMark m) x true y := by
  have hmark := takes_isMark m x
  rw [hx, Token.isMark, beq_self_eq_true] at hmark
  exact hmark.bind ((takes_advance h).bind (.pure _ _))

theorem takes_acceptMark_of_not (hx : x.token.isMark m = false) : Takes (acceptMark m) x false x := by
  have hmark := takes_isMark m x
  rw [hx] at hmark
  exact hmark.bind (.pure _ _)

theorem takes_acceptWord_of_not {w : String} (hx : x.token.isWord w = false) :
    Takes (acceptWord w) x false x := by
  have hword := takes_isWord w x
  rw [hx] at hword
  exact hword.bind (.pure _ _)

theorem takes_expectMark (hx : x.token = .mark m) (h : x.stop.next = .ok y) :
    Takes (expectMark m) x () y :=
  (takes_acceptMark hx h).bind (.pure _ _)

theorem takes_second? (h : x.stop.next = .ok y) : Takes second? x (some y) x := by
  unfold second?
  refine .get fun st hst _ => ⟨st.functions, ?_⟩
  rw [← hst] at h ⊢
  rw [h]
  rfl

theorem takes_isFresh (x : Lexeme) : Takes isFresh x x.fresh x := by
  rintro st rfl -
  exact ⟨st.functions, rfl⟩

theorem takes_isName {n : String} {escaped : Bool} (hx : x.token = .name n escaped) :
    Takes isName x (!isReserved n) x := by
  refine (takes_peek x).bind ?_
  rw [hx]
  refine .get fun st hst hasync => ⟨st.functions, ?_⟩
  rw [hasync, Bool.and_false, Bool.not_false, Bool.and_true, ← hst]
  rfl

theorem takes_isName_of_not (hx : ∀ n escaped, x.token ≠ .name n escaped) : Takes isName x false x := by
  refine (takes_peek x).bind ?_
  cases h : x.token with
  | name n escaped => exact absurd h (hx n escaped)
  | _ => exact .pure _ _

theorem takes_followedBy {t : Token} (h : x.stop.next = .ok y) :
    Takes (Grammar.followedBy t) x (y.token == t && !y.fresh) x :=
  (takes_second? h).bind (.pure _ _)

theorem takes_name {n : String} {escaped : Bool} (hx : x.token = .name n escaped)
    (hn : isReserved n = false) (h : x.stop.next = .ok y) : Takes name x n y := by
  have hname := takes_isName hx
  rw [hn] at hname
  refine hname.bind ((takes_peek x).bind ?_)
  rw [hx]
  exact (takes_advance h).bind (.pure _ _)

theorem fails_fail (x : Lexeme) : Fails (fail : Parse α) x := by
  unfold fail
  refine .get fun st _ _ => ?_
  cases st.look.token <;> exact ⟨_, _, rfl⟩

theorem fails_expectMark (hx : x.token.isMark m = false) : Fails (expectMark m) x :=
  .after (takes_acceptMark_of_not hx) (fails_fail x)

theorem Fails.ahead? {p : Parse α} (hp : Fails p x) : Takes (Parse.ahead? p) x none x := by
  rintro st rfl hasync
  obtain ⟨e, st', h⟩ := hp st rfl hasync
  refine ⟨st.functions, ?_⟩
  simp only [Parse.ahead?, h]

end Parse

/-! ## Operands -/

/-- Can the name be that of a variable? -/
def IsVariable (n : String) : Prop := isReserved n = false ∧ isFixedName n = false

namespace IsVariable

variable {n : String}

/-- No word of the language is the name of a variable. -/
theorem ne (hn : IsVariable n) {w : String} (hw : isReserved w = true := by decide) : n ≠ w := by
  rintro rfl
  exact absurd hn.1 (by rw [hw]; decide)

theorem ne_arguments (hn : IsVariable n) : n ≠ "arguments" := by
  rintro rfl
  exact absurd hn.2 (by decide)

end IsVariable

/-- Marks that may stand after an operand. -/
def followMarks : List String := ["]", ")", ";", "=", "+", "|", "<<", "||"]

/-- Is it a mark that may stand after an operand? -/
def Token.Follows (t : Token) : Prop := ∃ m ∈ followMarks, t = .mark m

theorem Token.Follows.isMark {t : Token} (h : t.Follows) {m : String} (hm : m ∉ followMarks) :
    t.isMark m = false := by
  obtain ⟨m', hm', rfl⟩ := h
  show (m == m') = false
  rw [beq_eq_false_iff_ne]
  rintro rfl
  exact hm hm'

/-- Does an operand without an operator of its own begin with the token? -/
inductive Token.IsPlain : Token → Prop where
  | number (v : Float) : IsPlain (.number v)
  | string (s : Utf16) (plain : Bool) : IsPlain (.string s plain)
  | group : IsPlain (.mark "(")
  | object : IsPlain (.mark "\x7b")
  | function : IsPlain (.name "function" false)
  | name {n : String} (hn : IsVariable n) : IsPlain (.name n false)

theorem Token.IsPlain.isWord {t : Token} (h : t.IsPlain) {w : String}
    (hw : isReserved w = true := by decide) (hfunction : "function" ≠ w := by decide) :
    t.isWord w = false := by
  cases h with
  | function => exact beq_eq_false_iff_ne.mpr hfunction
  | name hn => exact beq_eq_false_iff_ne.mpr (hn.ne hw)
  | _ => rfl

theorem Token.IsPlain.isMark {t : Token} (h : t.IsPlain) {m : String} (hm : m ≠ "(")
    (hm' : m ≠ "\x7b") : t.isMark m = false := by
  cases h with
  | group => exact beq_eq_false_iff_ne.mpr hm
  | object => exact beq_eq_false_iff_ne.mpr hm'
  | _ => rfl

/-- Is the token no target of a parameter? -/
inductive Token.IsNoTarget : Token → Prop where
  | number (v : Float) : IsNoTarget (.number v)
  | string (s : Utf16) (plain : Bool) : IsNoTarget (.string s plain)
  | minus : IsNoTarget (.mark "-")
  | group : IsNoTarget (.mark "(")
  | word {w : String} (hw : isReserved w = true) (escaped : Bool) : IsNoTarget (.name w escaped)

theorem Token.IsNoTarget.isMark {t : Token} (h : t.IsNoTarget) {m : String} (hm : m ≠ "(")
    (hm' : m ≠ "-") : t.isMark m = false := by
  cases h with
  | group => exact beq_eq_false_iff_ne.mpr hm
  | minus => exact beq_eq_false_iff_ne.mpr hm'
  | _ => rfl

/-- Does an assignment end before the token? -/
def Token.Ends (t : Token) : Prop := ∃ m ∈ ["]", ")", ";"], t = .mark m

theorem Token.Ends.follows {t : Token} (h : t.Ends) : t.Follows := by
  obtain ⟨m, hm, rfl⟩ := h
  refine ⟨m, ?_, rfl⟩
  simp only [List.mem_cons, List.not_mem_nil, or_false] at hm
  rcases hm with rfl | rfl | rfl <;> decide

namespace Grammar

open Parse

variable {g : Grammar} {heritage : Parse Expr} {x y z : Lexeme} {n : String} {e : Expr}

theorem takes_suffixes (hx : x.token.Follows) (calls : Bool) (fuel : Nat) (e : Expr) (optional : Bool) :
    Takes (suffixes g calls (fuel + 1) e optional) x (e, optional) x := by
  unfold suffixes
  refine (takes_peek x).bind ?_
  obtain ⟨m, hm, hx⟩ := hx
  rw [hx]
  simp only [followMarks, List.mem_cons, List.not_mem_nil, or_false] at hm
  rcases hm with rfl | rfl | rfl | rfl | rfl | rfl | rfl | rfl <;> exact .pure _ _

theorem takes_primary_number {v : Float} (hx : x.token = .number v) (h : x.stop.next = .ok y) :
    Takes (primary g heritage) x (.number v) y := by
  unfold primary
  refine (takes_peek x).bind ?_
  rw [hx]
  exact (takes_advance h).bind (.pure _ _)

theorem takes_primary_string {s : Utf16} {plain : Bool} (hx : x.token = .string s plain)
    (h : x.stop.next = .ok y) : Takes (primary g heritage) x (.string s) y := by
  unfold primary
  refine (takes_peek x).bind ?_
  rw [hx]
  exact (takes_advance h).bind (.pure _ _)

theorem takes_primary_group (hx : x.token = .mark "(") (h : x.stop.next = .ok y)
    (he : Takes (g.expression true) y e z) (hz : z.token = .mark ")") {z' : Lexeme}
    (hz' : z.stop.next = .ok z') : Takes (primary g heritage) x e z' := by
  unfold primary
  refine (takes_peek x).bind ?_
  rw [hx]
  exact (takes_advance h).bind (he.bind ((takes_expectMark hz hz').bind (.pure _ _)))

theorem takes_primary_name (hn : IsVariable n) (hx : x.token = .name n false)
    (h : x.stop.next = .ok y) (hy : y.token.Follows ∨ y.token = .mark "[") :
    Takes (primary g heritage) x (.name n) y := by
  have hname := takes_isName hx
  rw [hn.1] at hname
  have hfunction : (y.token == .name "function" false) = false := by
    obtain ⟨m, -, hy⟩ | hy := hy <;> rw [hy] <;> rfl
  have hfollowed := takes_followedBy (t := .name "function" false) h
  rw [hfunction] at hfollowed
  unfold primary
  refine (takes_peek x).bind ?_
  rw [hx]
  have hthis := hn.ne (w := "this")
  have hnull := hn.ne (w := "null")
  have htrue := hn.ne (w := "true")
  have hfalse := hn.ne (w := "false")
  have hfun := hn.ne (w := "function")
  have hclass := hn.ne (w := "class")
  have harg := hn.ne_arguments
  simp only
  split
  all_goals first | contradiction | skip
  · exact hfollowed.bind ((takes_advance h).bind (.pure _ _))
  · refine hname.bind ?_
    simp only [beq_eq_false_iff_ne.mpr harg]
    exact (takes_advance h).bind (.pure _ _)

variable {fuel : Nat}

theorem takes_leftHandSide (hx : x.token.IsPlain) (he : Takes (primary g (leftHandSide g fuel)) x e y)
    {e' : Expr} (hs : Takes (suffixes g true g.bound e false) y (e', false) z) :
    Takes (leftHandSide g (fuel + 1)) x e' z := by
  unfold leftHandSide
  refine (takes_acceptWord_of_not hx.isWord).bind ((takes_acceptWord_of_not hx.isWord).bind ?_)
  exact he.bind (hs.bind (.pure _ _))

theorem takes_postfixed (he : Takes (leftHandSide g g.bound) x e y) (hy : y.token.Follows) :
    Takes (postfixed g) x e y := by
  unfold postfixed
  refine he.bind ((takes_isFresh y).bind ?_)
  have hup := takes_isMark "++" y
  have hdown := takes_isMark "--" y
  rw [hy.isMark (by decide)] at hup hdown
  cases y.fresh with
  | true => exact .pure _ _
  | false => exact hup.bind (hdown.bind (.pure _ _))

theorem takes_unaryBody (hx : x.token.IsPlain) (he : Takes (postfixed g) x e y) :
    Takes (unaryBody g) x e y := by
  unfold unaryBody
  refine (takes_peek x).bind ?_
  generalize x.token = t at hx
  cases hx with
  | name hn =>
    have hawait : Takes (do
        if (← get).surroundings.isAsync then
          advance
          return .await (← g.unary)
        postfixed g) x e y := by
      refine .get fun st hst hasync => ?_
      simp only [hasync]
      exact he st hst hasync
    split <;> rename_i heq
    all_goals first
      | exact he
      | cases heq
    · exact absurd rfl (hn.ne (w := "typeof"))
    · exact absurd rfl (hn.ne (w := "void"))
    · exact absurd rfl (hn.ne (w := "delete"))
    · exact hawait
  | _ => exact he

theorem takes_operand (hx : x.token.IsPlain) (he : Takes (postfixed g) x e y)
    (hy : y.token.Follows) : Takes (operand g) x e y := by
  have hbody := takes_unaryBody hx he
  have hpower := takes_acceptMark_of_not (hy.isMark (m := "**") (by decide))
  unfold operand
  refine (takes_peek x).bind ?_
  generalize x.token = t at hx
  have hrest : Takes (do
      let e ← unaryBody g
      if ← acceptMark "**" then return .binary .power e (← g.binary true 12)
      return e) x e y := hbody.bind (hpower.bind (.pure _ _))
  cases hx with
  | @name n hn =>
    have hcontains : ["typeof", "void", "delete"].contains n = false := by
      simp [hn.ne (w := "typeof"), hn.ne (w := "void"), hn.ne (w := "delete")]
    simp only [hcontains]
    exact hrest
  | _ => exact hrest

theorem takes_operand_minus (hx : x.token = .mark "-") (h : x.stop.next = .ok y)
    (he : Takes g.unary y e z) : Takes (operand g) x (.unary .minus e) z := by
  have hbody : Takes (unaryBody g) x (.unary .minus e) z := by
    unfold unaryBody
    refine (takes_peek x).bind ?_
    rw [hx]
    exact (takes_advance h).bind (he.bind (.pure _ _))
  unfold operand
  refine (takes_peek x).bind ?_
  rw [hx]
  exact hbody.bind (.pure _ _)

/-! ## Binary operators -/

/-- Does no operator that binds more strongly than a bound stand there? -/
def Stops (l : Nat) (t : Token) : Prop := ∀ l' op, operator? true t = some (l', op) → l' ≤ l

/-- The words are an expression whose operators bind at least as strongly as `l`, and all it takes to
read it: having read them, the reader of operators goes on with it. -/
def Climbs (g : Grammar) (l : Nat) (ws : List Word) (e : Expr) : Prop :=
  ∀ x y, Ahead x ws y → y.token.Follows → Stops l y.token → ∀ least ≤ l, ∀ fuel, ws.length ≤ fuel →
    ∃ fuel', fuel ≤ fuel' + ws.length ∧ ∀ c z, Takes (binaryRest g true least fuel' .neither e) y c z →
      Takes (operand g >>= binaryRest g true least fuel .neither) x c z

variable {l l' : Nat} {ws ws' : List Word} {e' : Expr}

theorem climbs_operand (h : ∀ x y, Ahead x ws y → y.token.Follows → Takes (operand g) x e y) :
    Climbs g l ws e :=
  fun x y hahead hy _ _ _ fuel _ => ⟨fuel, by omega, fun _ _ hrest => (h x y hahead hy).bind hrest⟩

theorem Climbs.mono (h : Climbs g l' ws e) (hl : l ≤ l') : Climbs g l ws e :=
  fun x y hahead hy hstops least hleast => h x y hahead hy
    (fun n op hop => Nat.le_trans (hstops n op hop) hl) least (Nat.le_trans hleast hl)

theorem takes_binaryRest_end (h : Stops l x.token) {least : Nat} (hl : l < least) (mixed : Mixed)
    (e : Expr) : Takes (binaryRest g true least (fuel + 1) mixed e) x e x := by
  unfold binaryRest
  refine (takes_peek x).bind ?_
  cases hop : operator? true x.token with
  | none => exact .pure _ _
  | some found =>
    have hle := h found.1 found.2 hop
    simp only [if_pos (show found.1 < least by omega)]
    exact .pure _ _

/-- An expression, an operator and an expression whose operators bind more strongly. -/
theorem Climbs.binary (h : Climbs g l ws e) {m : String} {op : BinaryOp} (hm : m ∈ followMarks)
    (hop : operator? true (.mark m) = some (l, .inl op)) {fresh : Bool}
    (h' : ∀ x y, Ahead x ws' y → y.token.Follows → Stops l y.token →
      Takes (g.binary true (l + 1)) x e' y) :
    Climbs g l (ws ++ ⟨.mark m, fresh⟩ :: ws') (.binary op e e') := by
  intro x z hahead hz hstops least hleast fuel hfuel
  rw [List.length_append, List.length_cons] at hfuel
  obtain ⟨y, hleft, hright⟩ := Ahead.append_iff.mp hahead
  obtain ⟨hy, -, y', hnext, hright⟩ := Ahead.cons_iff.mp hright
  have hsame : Stops l y.token := by
    intro n op' hop'
    rw [hy, hop] at hop'
    cases hop'
    exact Nat.le_refl _
  obtain ⟨fuel₁, hfuel₁, hstep⟩ := h x y hleft ⟨m, hm, hy⟩ hsame least hleast fuel (by omega)
  obtain ⟨k, rfl⟩ : ∃ k, fuel₁ = k + 1 := ⟨fuel₁ - 1, by omega⟩
  refine ⟨k, by rw [List.length_append, List.length_cons]; omega, fun c z' hrest => hstep c z' ?_⟩
  unfold binaryRest
  refine (takes_peek y).bind ?_
  simp only [hy, hop, if_neg (Nat.not_lt.mpr hleast)]
  exact (takes_advance hnext).bind ((h' y' z hright hz hstops).bind hrest)

/-- An expression is read up to an operator that binds less strongly than the bound. -/
theorem Climbs.takes (h : Climbs g l ws e) (hahead : Ahead x ws y) (hy : y.token.Follows)
    {least : Nat} (hleast : least ≤ l) (hstops : ∃ k < least, Stops k y.token)
    (hbound : ws.length < g.bound) : Takes (binaryBody g true least) x e y := by
  obtain ⟨k, hk, hstops⟩ := hstops
  have hstopsl : Stops l y.token := fun n op hop => by
    have := hstops n op hop
    omega
  obtain ⟨fuel', hfuel', hstep⟩ := h x y hahead hy hstopsl least hleast g.bound (by omega)
  obtain ⟨n, rfl⟩ : ∃ n, fuel' = n + 1 := ⟨fuel' - 1, by omega⟩
  exact hstep e y (takes_binaryRest_end hstops hk _ _)

/-! ## Assignments -/

variable {allowIn : Bool}

theorem takes_startsArrow_of_not (hmark : x.token.isMark "(" = false) (hname : Takes isName x false x) :
    Takes (startsArrow g) x false x := by
  have hopen := takes_isMark "(" x
  rw [hmark] at hopen
  exact hopen.bind (hname.bind (.pure _ _))

theorem takes_startsArrow_name (hn : IsVariable n) (hx : x.token = .name n false)
    (h : x.stop.next = .ok y) (hy : y.token.Follows ∨ y.token = .mark "[") :
    Takes (startsArrow g) x false x := by
  have hopen := takes_isMark "(" x
  have hname := takes_isName hx
  have hfollowed := takes_followedBy (t := .mark "=>") h
  have hy : (y.token == .mark "=>") = false := by
    obtain ⟨m, hm, hy⟩ | hy := hy
    · simp only [followMarks, List.mem_cons, List.not_mem_nil, or_false] at hm
      rcases hm with rfl | rfl | rfl | rfl | rfl | rfl | rfl | rfl <;> rw [hy] <;> rfl
    · rw [hy]
      rfl
  rw [hx] at hopen
  rw [hn.1] at hname
  rw [hy] at hfollowed
  exact hopen.bind (hname.bind hfollowed)

theorem takes_isName_of_isNoTarget (hx : x.token.IsNoTarget) : Takes isName x false x := by
  generalize ht : x.token = t at hx
  cases hx with
  | word hw escaped =>
    have hname := takes_isName ht
    rwa [hw] at hname
  | _ => exact takes_isName_of_not fun n escaped h => by rw [ht] at h; cases h

theorem fails_binderBody (hx : x.token.IsNoTarget) : Fails (binderBody g) x := by
  refine .after (takes_acceptMark_of_not (hx.isMark (by decide) (by decide))) ?_
  refine .after (takes_acceptMark_of_not (hx.isMark (by decide) (by decide))) ?_
  have hplace : Takes place x x.start.place x := by
    rintro st rfl -
    exact ⟨st.functions, rfl⟩
  refine .bind (.after hplace (.bind ?_))
  exact .after (takes_isName_of_isNoTarget hx) (.bind (fails_fail x))

/-- Parentheses around something else than targets begin no function. -/
theorem takes_startsArrow_group (hx : x.token = .mark "(") (h : x.stop.next = .ok y)
    (hy : Fails g.binder y) (hclose : y.token.isMark ")" = false)
    (hrest : y.token.isMark "..." = false) : Takes (startsArrow g) x false x := by
  have hopen := takes_isMark "(" x
  rw [hx] at hopen
  have hlist : ∀ (item : Parse Binder) (fuel : Nat) (out : List Binder), Fails item y →
      Fails (commaList item ")" fuel out) y := by
    intro item fuel out hitem
    cases fuel with
    | zero => exact fails_fail y
    | succ fuel =>
      unfold commaList
      exact .after (takes_acceptMark_of_not hclose) (.bind hitem)
  refine hopen.bind (Takes.bind (Fails.ahead? (.after (takes_advance h) (.bind (hlist _ _ _ ?_)))) (.pure _ _))
  exact .after (takes_acceptMark_of_not hrest) (.bind hy)

theorem takes_conditional (h : Takes (g.binary allowIn 1) x e y) (hy : y.token.Follows) :
    Takes (conditional g allowIn) x e y :=
  h.bind ((takes_acceptMark_of_not (hy.isMark (by decide))).bind (.pure _ _))

/-- What is left of an assignment that begins with no function. -/
def assignmentRest (g : Grammar) (allowIn : Bool) : Parse Expr := do
  let pending := (← get).pending
  let e ← conditional g allowIn
  assignRest g allowIn pending e

theorem takes_assignmentBody (hyield : x.token.isWord "yield" = false)
    (harrow : Takes (startsArrow g) x false x)
    (hasync : x.token.isWord "async" = true →
      ∃ y, x.stop.next = .ok y ∧ Takes (startsArrow g) y false y)
    (h : Takes (assignmentRest g allowIn) x e y) : Takes (assignmentBody g allowIn) x e y := by
  have hword := takes_isWord "yield" x
  rw [hyield] at hword
  unfold assignmentBody
  refine hword.bind (.get fun st hst hwaits => ?_)
  refine (show Takes _ x e y from ?_) st hst hwaits
  refine harrow.bind ((takes_isWord "async" x).bind ?_)
  cases hx : x.token.isWord "async" with
  | false => exact h
  | true =>
    obtain ⟨y', hnext, harrow'⟩ := hasync hx
    refine Takes.bind (Fails.ahead? (.after (takes_advance hnext) (.after (takes_isFresh y') ?_))) h
    cases y'.fresh with
    | true => exact .bind (p := fail) (fails_fail y')
    | false => exact .after harrow' (fails_fail y')

theorem takes_assignRest (hx : x.token.Ends) (pending : Nat) (e : Expr) :
    Takes (assignRest g allowIn pending e) x e x := by
  unfold assignRest
  refine (takes_peek x).bind ?_
  obtain ⟨m, hm, hx⟩ := hx
  rw [hx]
  simp only [List.mem_cons, List.not_mem_nil, or_false] at hm
  rcases hm with rfl | rfl | rfl <;> exact .pure _ _

/-- An expression that is assigned to nothing. -/
theorem takes_assignmentRest (he : Takes (conditional g allowIn) x e y) (hy : y.token.Ends) :
    Takes (assignmentRest g allowIn) x e y :=
  .get fun st hst hwaits =>
    (he.bind (takes_assignRest hy st.pending e) : Takes _ x e y) st hst hwaits

/-- A value that is assigned to a member. -/
theorem takes_assignmentRest_member {base k : Expr}
    (he : Takes (conditional g allowIn) x (.member false base k) y) (hy : y.token = .mark "=")
    (h : y.stop.next = .ok z) {z' : Lexeme} (hvalue : Takes (g.assignment allowIn) z e z') :
    Takes (assignmentRest g allowIn) x (.assign (.place (.member false base k)) e) z' := by
  have hrest : Takes (do
      advance
      return Expr.assign (.place (.member false base k)) (← g.assignment allowIn)) y
      (Expr.assign (.place (.member false base k)) e) z' :=
    (takes_advance h).bind (hvalue.bind (.pure _ _))
  refine .get fun st hst hwaits => ?_
  obtain ⟨i, hi⟩ := he st hst hwaits
  obtain ⟨k', hk⟩ := hrest { st with look := y, functions := i } rfl hwaits
  refine ⟨k', ?_⟩
  show EStateM.bind (conditional g allowIn) _ st = _
  rw [EStateM.bind, hi]
  show assignRest g allowIn st.pending (.member false base k) { st with look := y, functions := i } = _
  unfold assignRest
  show EStateM.bind peek _ _ = _
  have hpeek : peek { st with look := y, functions := i } =
      .ok y.token { st with look := y, functions := i } := rfl
  rw [EStateM.bind, hpeek, hy]
  simp only [Expr.target?]
  -- the number of pending defaults is set to what it is
  exact hk

/-! ## Where no function begins -/

/-- An expression begins there, and no function: neither with parameters nor with a word for it. -/
structure Begins (g : Grammar) (x : Lexeme) : Prop where
  yield : x.token.isWord "yield" = false
  arrow : Takes (startsArrow g) x false x
  async : x.token.isWord "async" = true → ∃ y, x.stop.next = .ok y ∧ Takes (startsArrow g) y false y

theorem Begins.takes (hx : Begins g x) (h : Takes (assignmentRest g allowIn) x e y) :
    Takes (assignmentBody g allowIn) x e y :=
  takes_assignmentBody hx.yield hx.arrow hx.async h

theorem begins_group (hx : x.token = .mark "(") (harrow : Takes (startsArrow g) x false x) :
    Begins g x where
  yield := by rw [hx]; rfl
  arrow := harrow
  async h := by rw [hx] at h; cases h

theorem begins_of_isNoTarget (hx : x.token.IsNoTarget) (hgroup : x.token.isMark "(" = false)
    (hyield : x.token.isWord "yield" = false) : Begins g x where
  yield := hyield
  arrow := takes_startsArrow_of_not hgroup (takes_isName_of_isNoTarget hx)
  async h := by
    generalize x.token = t at hx h
    cases hx with
    | word hw escaped =>
      cases escaped with
      | true => cases h
      | false =>
        rw [eq_of_beq h] at hw
        exact absurd hw (by decide)
    | _ => cases h

theorem begins_name (hn : IsVariable n) (hx : x.token = .name n false) (h : x.stop.next = .ok y)
    (hy : y.token.Follows ∨ y.token = .mark "[") : Begins g x where
  yield := by rw [hx]; exact beq_eq_false_iff_ne.mpr (hn.ne (w := "yield"))
  arrow := takes_startsArrow_name hn hx h hy
  async _ := by
    refine ⟨y, h, takes_startsArrow_of_not ?_ (takes_isName_of_not ?_)⟩
    · obtain hy | hy := hy
      · exact hy.isMark (by decide)
      · rw [hy]
        rfl
    · obtain ⟨m, -, hy⟩ | hy := hy <;> rw [hy] <;> exact fun _ _ h => by cases h

/-- Nor is a name in parentheses a parameter, where no arrow follows. -/
theorem takes_startsArrow_group_name (hx : x.token = .mark "(") (h : x.stop.next = .ok y)
    (hbinder : Takes g.binder y (.name n) z) (hname : y.token = .name n false)
    (hz : z.token.Follows) (hassign : z.token ≠ .mark "=")
    (hclose : z.token = .mark ")" → ∃ z', z.stop.next = .ok z' ∧ z'.token.Follows) :
    Takes (startsArrow g) x false x := by
  have hopen := takes_isMark "(" x
  rw [hx] at hopen
  have hmark : ∀ m, y.token.isMark m = false := fun m => by rw [hname]; rfl
  have hequals : z.token.isMark "=" = false := by
    obtain ⟨m, -, hz⟩ := hz
    rw [hz] at hassign ⊢
    exact beq_eq_false_iff_ne.mpr fun h => hassign (by rw [h])
  have hitem : Takes (do
      if ← acceptMark "..." then g.binder
      else
        let t ← g.binder
        if ← acceptMark "=" then
          let _ ← g.assignment true
        return t) y (Binder.name n) z :=
    (takes_acceptMark_of_not (hmark _)).bind
      (hbinder.bind ((takes_acceptMark_of_not hequals).bind (.pure _ _)))
  refine hopen.bind (Takes.bind (Fails.ahead? (.after (takes_advance h) ?_)) (.pure _ _))
  cases g.bound with
  | zero => exact .bind (fails_fail y)
  | succ bound =>
    by_cases hend : z.token = .mark ")"
    · obtain ⟨z', hnext, hz'⟩ := hclose hend
      have harrow := takes_isMark "=>" z'
      rw [hz'.isMark (by decide)] at harrow
      refine .after (a := [Binder.name n]) (y := z') ?_ (.after (takes_isFresh z') ?_)
      · unfold commaList
        exact (takes_acceptMark_of_not (hmark _)).bind
          (hitem.bind ((takes_acceptMark hend hnext).bind (.pure _ _)))
      · cases z'.fresh with
        | true => exact .bind (p := fail) (fails_fail z')
        | false => exact .after harrow (fails_fail z')
    · have hnot : z.token.isMark ")" = false := by
        obtain ⟨m, -, hz⟩ := hz
        rw [hz] at hend ⊢
        exact beq_eq_false_iff_ne.mpr fun h => hend (by rw [h])
      have hcomma : z.token.isMark "," = false := hz.isMark (by decide)
      refine .bind ?_
      unfold commaList
      exact .after (takes_acceptMark_of_not (hmark _))
        (.after hitem (.after (takes_acceptMark_of_not hnot) (.bind (fails_expectMark hcomma))))

end Grammar
end Script
end Restyle
