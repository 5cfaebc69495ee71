import Restyle.Proofs.Script.Parsing

/-!
# Restyle.Proofs.Script.Programs

What readers of scripts make of the words of a statement, of a function and of a whole text.
-/

namespace Restyle
namespace Script
namespace Grammar

open Parse

variable {g : Grammar} {allowIn : Bool} {x y z z' : Lexeme} {n : String} {e : Expr} {s : Stmt}
  {ss : List Stmt} {fuel : Nat}

/-! ## Expressions -/

theorem takes_expressionBody (he : Takes (g.assignment allowIn) x e y) (hy : y.token.isMark "," = false)
    (hbound : 0 < g.bound) : Takes (expressionBody g allowIn) x e y := by
  obtain ⟨k, hk⟩ : ∃ k, g.bound = k + 1 := ⟨g.bound - 1, by omega⟩
  unfold expressionBody
  rw [hk]
  refine he.bind ?_
  unfold commaRest
  exact (takes_acceptMark_of_not hy).bind (.pure _ _)

theorem takes_binderBody (hn : IsVariable n) (hx : x.token = .name n false) (h : x.stop.next = .ok y) :
    Takes (binderBody g) x (.name n) y := by
  have hmark : ∀ m, x.token.isMark m = false := fun m => by rw [hx]; rfl
  have hplace : Takes place x x.start.place x := by
    rintro st rfl -
    exact ⟨st.functions, rfl⟩
  have hdeclared : Takes declaredName x n y := by
    refine hplace.bind ((takes_name hx hn.1 h).bind ?_)
    rw [hn.2]
    exact .pure _ _
  exact (takes_acceptMark_of_not (hmark _)).bind
    ((takes_acceptMark_of_not (hmark _)).bind (hdeclared.bind (.pure _ _)))

/-! ## Expressions by their words -/

variable {ws ws' : List Word} {k v : Expr} {d d' : Nat} {f f₁ f₂ f₃ : Bool}

/-- With so much depth, or more, the words are read as an operand. -/
def IsOperand (d : Nat) (ws : List Word) (e : Expr) : Prop :=
  ∀ n, d ≤ n → ∀ x y, Ahead x ws y → y.token.Follows → Takes (operand (grammar n)) x e y

/-- With so much depth, or more, the words are read as an assignment. -/
def Reads (d : Nat) (ws : List Word) (e : Expr) : Prop :=
  ∀ n, d ≤ n → ∀ x y, Ahead x ws y → y.token.Ends → Takes ((grammar n).assignment true) x e y

theorem Reads.expression (h : Reads d ws e) {n : Nat} (hd : d + 3 ≤ n) (hahead : Ahead x ws y)
    (hy : y.token.Ends) : Takes ((grammar n).expression true) x e y := by
  obtain ⟨m, rfl⟩ : ∃ m, n = m + 3 := ⟨n - 3, by omega⟩
  have hcomma : y.token.isMark "," = false := hy.follows.isMark (by decide)
  exact takes_expressionBody (g := grammar (m + 2)) (h (m + 2) (by omega) x y hahead hy) hcomma
    (Nat.succ_pos m)

theorem takes_postfixed_of_primary (hx : x.token.IsPlain)
    (he : ∀ heritage, Takes (primary (grammar (fuel + 2)) heritage) x e y) (hy : y.token.Follows) :
    Takes (postfixed (grammar (fuel + 2))) x e y :=
  takes_postfixed (takes_leftHandSide hx (he _) (takes_suffixes hy true fuel e false)) hy

theorem takes_operand_of_primary (hx : x.token.IsPlain)
    (he : ∀ heritage, Takes (primary (grammar (fuel + 2)) heritage) x e y) (hy : y.token.Follows) :
    Takes (operand (grammar (fuel + 2))) x e y :=
  takes_operand hx (takes_postfixed_of_primary hx he hy) hy

theorem isOperand_number (v : Float) (f : Bool) : IsOperand 2 [⟨.number v, f⟩] (.number v) := by
  intro n hn x y hahead hy
  obtain ⟨m, rfl⟩ : ∃ m, n = m + 2 := ⟨n - 2, by omega⟩
  obtain ⟨hx, -, y', hnext, hnil⟩ := Ahead.cons_iff.mp hahead
  rw [Ahead.nil_iff.mp hnil] at hnext
  exact takes_operand_of_primary (hx ▸ .number v) (fun _ => takes_primary_number hx hnext) hy

theorem isOperand_string (s : Utf16) (plain f : Bool) : IsOperand 2 [⟨.string s plain, f⟩] (.string s) := by
  intro n hn x y hahead hy
  obtain ⟨m, rfl⟩ : ∃ m, n = m + 2 := ⟨n - 2, by omega⟩
  obtain ⟨hx, -, y', hnext, hnil⟩ := Ahead.cons_iff.mp hahead
  rw [Ahead.nil_iff.mp hnil] at hnext
  exact takes_operand_of_primary (hx ▸ .string s plain) (fun _ => takes_primary_string hx hnext) hy

theorem isOperand_name (hn : IsVariable n) (f : Bool) : IsOperand 2 [⟨.name n false, f⟩] (.name n) := by
  intro m hm x y hahead hy
  obtain ⟨k, rfl⟩ : ∃ k, m = k + 2 := ⟨m - 2, by omega⟩
  obtain ⟨hx, -, y', hnext, hnil⟩ := Ahead.cons_iff.mp hahead
  rw [Ahead.nil_iff.mp hnil] at hnext
  exact takes_operand_of_primary (hx ▸ .name hn)
    (fun _ => takes_primary_name hn hx hnext (.inl hy)) hy

theorem isOperand_minus (v : Float) (f₁ f₂ : Bool) :
    IsOperand 3 [⟨.mark "-", f₁⟩, ⟨.number v, f₂⟩] (.unary .minus (.number v)) := by
  intro n hn x y hahead hy
  obtain ⟨m, rfl⟩ : ∃ m, n = m + 3 := ⟨n - 3, by omega⟩
  obtain ⟨hx, -, x', hnext, hahead⟩ := Ahead.cons_iff.mp hahead
  obtain ⟨hx', -, y', hnext', hnil⟩ := Ahead.cons_iff.mp hahead
  rw [Ahead.nil_iff.mp hnil] at hnext'
  have hplain : x'.token.IsPlain := hx' ▸ .number v
  exact takes_operand_minus hx hnext (takes_unaryBody hplain
    (takes_postfixed_of_primary hplain (fun _ => takes_primary_number hx' hnext') hy))

theorem isOperand_group (h : Reads d ws e) (f₁ f₂ : Bool) :
    IsOperand (d + 4) (⟨.mark "(", f₁⟩ :: ws ++ [⟨.mark ")", f₂⟩]) e := by
  intro n hn x y hahead hy
  obtain ⟨m, rfl⟩ : ∃ m, n = m + 2 := ⟨n - 2, by omega⟩
  obtain ⟨hx, -, x', hnext, hahead⟩ := Ahead.cons_iff.mp hahead
  obtain ⟨z, hinner, hclose⟩ := Ahead.append_iff.mp hahead
  obtain ⟨hz, -, y', hnext', hnil⟩ := Ahead.cons_iff.mp hclose
  rw [Ahead.nil_iff.mp hnil] at hnext'
  have hends : z.token.Ends := ⟨_, by decide, hz⟩
  exact takes_operand_of_primary (hx ▸ .group)
    (fun _ => takes_primary_group hx hnext (h.expression (by omega) hinner hends) hz hnext') hy

theorem isOperand_member (hn : IsVariable n) (h : Reads d ws k) (f₁ f₂ f₃ : Bool) :
    IsOperand (d + 4) (⟨.name n false, f₁⟩ :: ⟨.mark "[", f₂⟩ :: ws ++ [⟨.mark "]", f₃⟩])
      (.member false (.name n) k) := by
  intro m hm x y hahead hy
  obtain ⟨i, rfl⟩ : ∃ i, m = i + 3 := ⟨m - 3, by omega⟩
  obtain ⟨hx, -, x', hnext, hahead⟩ := Ahead.cons_iff.mp hahead
  obtain ⟨hx', -, x'', hnext', hahead⟩ := Ahead.cons_iff.mp hahead
  obtain ⟨z, hinner, hclose⟩ := Ahead.append_iff.mp hahead
  obtain ⟨hz, -, y', hnext'', hnil⟩ := Ahead.cons_iff.mp hclose
  rw [Ahead.nil_iff.mp hnil] at hnext''
  have hends : z.token.Ends := ⟨_, by decide, hz⟩
  have hkey := h.expression (n := i + 3) (by omega) hinner hends
  have hsuffix : Takes (suffixes (grammar (i + 3)) true (i + 2) (.name n) false) x'
      (.member false (.name n) k, false) y := by
    unfold suffixes
    refine (takes_peek x').bind ?_
    rw [hx']
    exact (takes_advance hnext').bind (hkey.bind ((takes_expectMark hz hnext'').bind
      (takes_suffixes hy true i _ false)))
  have hplain : x.token.IsPlain := hx ▸ .name hn
  exact takes_operand hplain (takes_postfixed
    (takes_leftHandSide hplain (takes_primary_name hn hx hnext (.inr hx')) hsuffix) hy) hy

/-! ## Assignments by their words -/

theorem stops_of_ends {t : Token} (h : t.Ends) (l : Nat) : Stops l t := by
  obtain ⟨m, hm, rfl⟩ := h
  simp only [List.mem_cons, List.not_mem_nil, or_false] at hm
  intro l' op hop
  rcases hm with rfl | rfl | rfl <;> cases hop

theorem stops_equals (l : Nat) : Stops l (.mark "=") := by
  intro l' op hop
  cases hop

/-- An expression of operators that bind so strongly is read where an assignment is. -/
theorem takes_conditional_of_climbs {l n : Nat} (h : Climbs (grammar n) l ws e) (hl : 1 ≤ l)
    (hlength : ws.length + 1 < n) (hahead : Ahead x ws y) (hy : y.token.Follows)
    (hstops : Stops 0 y.token) : Takes (conditional (grammar (n + 1)) true) x e y := by
  obtain ⟨m, rfl⟩ : ∃ m, n = m + 1 := ⟨n - 1, by omega⟩
  exact takes_conditional (g := grammar (m + 2))
    (h.takes hahead hy hl ⟨0, by omega, hstops⟩ (show ws.length < m by omega)) hy

/-- An expression is read as an assignment, if no function begins there. -/
theorem reads_of_climbs {l : Nat} (h : ∀ n, d ≤ n → Climbs (grammar n) l ws e) (hl : 1 ≤ l)
    (hbegins : ∀ n x y, d ≤ n → Ahead x ws y → y.token.Follows → Begins (grammar n) x)
    (hlength : ws.length + 1 < d) : Reads (d + 2) ws e := by
  intro n hn x y hahead hy
  obtain ⟨m, rfl⟩ : ∃ m, n = m + 2 := ⟨n - 2, by omega⟩
  have hconditional := takes_conditional_of_climbs (h m (by omega)) hl (by omega) hahead hy.follows
    (stops_of_ends hy 0)
  exact (hbegins (m + 1) x y (by omega) hahead hy.follows).takes (takes_assignmentRest hconditional hy)

theorem reads_string (s : Utf16) (plain f : Bool) : Reads 5 [⟨.string s plain, f⟩] (.string s) := by
  refine reads_of_climbs (d := 3) (fun n hn => climbs_operand (isOperand_string s plain f n (by omega)))
    (Nat.le_refl 1) (fun n x y _ hahead _ => ?_) (by simp)
  obtain ⟨hx, -⟩ := Ahead.cons_iff.mp hahead
  exact begins_of_isNoTarget (hx ▸ .string s plain) (hx ▸ rfl) (hx ▸ rfl)

/-- A value is assigned to a member of a variable. -/
theorem reads_assign (hn : IsVariable n) (hk : Reads d ws k) (hv : Reads d' ws' v)
    (f₁ f₂ f₃ f₄ : Bool) (hlength : ws.length ≤ d) :
    Reads (d + d' + 7) (⟨.name n false, f₁⟩ :: ⟨.mark "[", f₂⟩ :: ws ++ [⟨.mark "]", f₃⟩] ++
      ⟨.mark "=", f₄⟩ :: ws') (.assign (.place (.member false (.name n) k)) v) := by
  intro m hm x z hahead hz
  obtain ⟨i, rfl⟩ : ∃ i, m = i + 2 := ⟨m - 2, by omega⟩
  obtain ⟨y, htarget, hvalue⟩ := Ahead.append_iff.mp hahead
  obtain ⟨hy, -, y', hnext, hvalue⟩ := Ahead.cons_iff.mp hvalue
  have hfollows : y.token.Follows := ⟨_, by decide, hy⟩
  have hmember : Takes (conditional (grammar (i + 1)) true) x (.member false (.name n) k) y := by
    refine takes_conditional_of_climbs (l := 1)
      (climbs_operand (isOperand_member hn hk f₁ f₂ f₃ i (by omega))) (Nat.le_refl 1) ?_ htarget
      hfollows (hy ▸ stops_equals 0)
    simp only [List.cons_append, List.length_cons, List.length_append, List.length_nil]
    omega
  obtain ⟨hx, -, x', hnext', hahead'⟩ := Ahead.cons_iff.mp htarget
  obtain ⟨hx', -⟩ := Ahead.cons_iff.mp hahead'
  have hassigned := takes_assignmentRest_member hmember hy hnext (hv (i + 1) (by omega) y' z hvalue hz)
  exact (begins_name hn hx hnext' (.inr hx')).takes hassigned

/-- A variable or, if that is not there, an empty object. -/
def orObject (n : String) : Expr := .logical .or (.name n) (.object [])

theorem isOperand_object (f₁ f₂ : Bool) :
    IsOperand 2 [⟨.mark "\x7b", f₁⟩, ⟨.mark "\x7d", f₂⟩] (.object []) := by
  intro n hn x y hahead hy
  obtain ⟨m, rfl⟩ : ∃ m, n = m + 2 := ⟨n - 2, by omega⟩
  obtain ⟨hx, -, x', hnext, hahead⟩ := Ahead.cons_iff.mp hahead
  obtain ⟨hx', -, y', hnext', hnil⟩ := Ahead.cons_iff.mp hahead
  rw [Ahead.nil_iff.mp hnil] at hnext'
  refine takes_operand_of_primary (hx ▸ .object) (fun _ => ?_) hy
  unfold primary
  refine (takes_peek x).bind ?_
  rw [hx]
  refine (takes_advance hnext).bind (Takes.bind (y := y) (a := []) ?_ (.pure _ _))
  show Takes (commaList _ "\x7d" (m + 1) []) x' [] y
  unfold commaList
  exact (takes_acceptMark hx' hnext').bind (.pure _ _)

theorem reads_orObject (hn : IsVariable n) (f₁ f₂ f₃ f₄ : Bool) :
    Reads 7 [⟨.name n false, f₁⟩, ⟨.mark "||", f₂⟩, ⟨.mark "\x7b", f₃⟩, ⟨.mark "\x7d", f₄⟩] (orObject n) := by
  intro m hm x z hahead hz
  obtain ⟨i, rfl⟩ : ∃ i, m = i + 7 := ⟨m - 7, by omega⟩
  obtain ⟨hx, hfresh, y, hnext, hahead⟩ := Ahead.cons_iff.mp hahead
  obtain ⟨hy, -, y', hnext', hahead⟩ := Ahead.cons_iff.mp hahead
  have hfollows : y.token.Follows := ⟨_, by decide, hy⟩
  have hleft : Takes (operand (grammar (i + 5))) x (.name n) y :=
    isOperand_name hn f₁ (i + 5) (by omega) x y (Ahead.cons_iff.mpr ⟨hx, hfresh, y, hnext, .nil y⟩) hfollows
  have hright : Takes (binaryBody (grammar (i + 4)) true 3) y' (.object []) z :=
    (climbs_operand (l := 3) (isOperand_object f₃ f₄ (i + 4) (by omega))).takes hahead hz.follows
      (Nat.le_refl 3) ⟨0, Nat.zero_lt_succ 2, stops_of_ends hz 0⟩ (show 2 < i + 3 by omega)
  have hbinary : Takes (binaryBody (grammar (i + 5)) true 1) x (orObject n) z := by
    refine hleft.bind ?_
    show Takes (binaryRest _ true 1 (i + 4) .neither (.name n)) y _ z
    unfold binaryRest
    refine (takes_peek y).bind ?_
    rw [hy]
    exact (takes_advance hnext').bind (hright.bind
      (takes_binaryRest_end (stops_of_ends hz 0) (by omega) _ _))
  exact (begins_name hn hx hnext (.inl hfollows)).takes
    (takes_assignmentRest (takes_conditional hbinary hz.follows) hz)

/-! ## Statements -/

theorem takes_semicolon (hx : x.token = .mark ";") (h : x.stop.next = .ok y) :
    Takes semicolon x () y :=
  (takes_acceptMark hx h).bind (.pure _ _)

/-- A statement that begins with a member of a variable is an expression. -/
theorem takes_statementBody_member (hn : IsVariable n) (hx : x.token = .name n false)
    (h : x.stop.next = .ok y) (hy : y.token = .mark "[") (he : Takes (g.expression true) x e z)
    (hz : z.token = .mark ";") (hz' : z.stop.next = .ok z') :
    Takes (statementBody g) x (.expression e) z' := by
  have hname := takes_isName hx
  rw [hn.1] at hname
  have hlabel : Takes (do
      if ← isName then return (← second?).any (·.token == .mark ":") else return false) x false x := by
    have hcolon : (some y).any (·.token == .mark ":") = false := by
      rw [Option.any_some, hy]
      rfl
    refine hname.bind ((takes_second? h).bind ?_)
    rw [hcolon]
    exact .pure _ _
  have hexpression : Takes (expressionStatement g) x (.expression e) z' :=
    hlabel.bind (he.bind ((takes_semicolon hz hz').bind (.pure _ _)))
  have hasync : Takes (followedBy (.name "function" false)) x false x := by
    have hfollowed := takes_followedBy (t := .name "function" false) h
    rw [hy] at hfollowed
    exact hfollowed
  unfold statementBody
  refine (takes_peek x).bind ?_
  rw [hx]
  simp only
  unfold wordStatement
  split
  all_goals first
    | exact absurd rfl hn.ne
    | skip
  · exact hasync.bind hexpression
  · exact hexpression

theorem takes_statementBody_return (hx : x.token = .name "return" false) (h : x.stop.next = .ok y)
    (hfresh : y.fresh = false) (hy : y.token = .name n false) (he : Takes (g.expression true) y e z)
    (hz : z.token = .mark ";") (hz' : z.stop.next = .ok z') :
    Takes (statementBody g) x (.returns e) z' := by
  have hmark : ∀ m, Takes (isMark m) y false y := fun m => by
    have hmark := takes_isMark m y
    rwa [hy] at hmark
  have hline := takes_isFresh y
  rw [hfresh] at hline
  unfold statementBody
  refine (takes_peek x).bind ?_
  rw [hx]
  refine (takes_advance h).bind ((hmark ";").bind ((hmark "\x7d").bind
    (hline.bind ((takes_peek y).bind ?_))))
  rw [hy]
  exact he.bind ((takes_semicolon hz hz').bind (.pure _ _))

/-- The statements are read one after the other, and none begins with a word that ends them. -/
inductive ReadsAll (p : Parse Stmt) (ends : Parse Bool) : Lexeme → List Stmt → Lexeme → Prop where
  | nil (x : Lexeme) : ReadsAll p ends x [] x
  | cons {x y z : Lexeme} {s : Stmt} {ss : List Stmt} (hgoes : Takes ends x false x)
      (hs : Takes p x s y) (hss : ReadsAll p ends y ss z) : ReadsAll p ends x (s :: ss) z

theorem ReadsAll.takes {ends : Parse Bool} (h : ReadsAll g.statement ends x ss y)
    (hends : Takes ends y true y) (out : List Stmt) (hfuel : ss.length < fuel) :
    Takes (statements g ends fuel out) x (out.reverse ++ ss) y := by
  induction h generalizing fuel out with
  | nil x =>
    obtain ⟨k, rfl⟩ : ∃ k, fuel = k + 1 := ⟨fuel - 1, by omega⟩
    unfold statements
    rw [List.append_nil]
    exact hends.bind (.pure _ _)
  | @cons x y z s ss hgoes hs hss ih =>
    rw [List.length_cons] at hfuel
    obtain ⟨k, rfl⟩ : ∃ k, fuel = k + 1 := ⟨fuel - 1, by omega⟩
    unfold statements
    have hrest : Takes (statements g ends k (s :: out)) y ((s :: out).reverse ++ ss) z :=
      ih hends (s :: out) (by omega)
    rw [List.reverse_cons, List.append_assoc, List.singleton_append] at hrest
    exact hgoes.bind (hs.bind hrest)

theorem takes_bracedStatements (h : ReadsAll g.statement (isMark "\x7d") x ss y)
    (hy : y.token = .mark "\x7d") (hnext : y.stop.next = .ok z) (hbound : ss.length < g.bound) :
    Takes (bracedStatements g) x ss z := by
  have hends := takes_isMark "\x7d" y
  rw [hy] at hends
  exact (h.takes hends [] hbound).bind ((takes_expectMark hy hnext).bind (.pure _ _))

/-! ## Functions -/

/-- A function with one parameter and nothing that is declared in it. -/
def unaryFunction (n : String) (body : List Stmt) : Func :=
  .mk { name := "", kind := .plain, isAsync := false, isGenerator := false, ownName := false
        usesArguments := false, arity := 1, varNames := [n] } [.name n] .nothing [] body

/-- The form of a function expression without a name. -/
def plainForm : FunctionForm := { name := "", kind := .plain }

theorem takes_functionBody {x₁ x₂ x₃ x₄ : Lexeme} (hx : x.token = .mark "(") (h : x.stop.next = .ok x₁)
    (hbinder : Takes g.binder x₁ (.name n) x₂) (hx₁ : x₁.token = .name n false)
    (hx₂ : x₂.token = .mark ")") (h₂ : x₂.stop.next = .ok x₃) (hx₃ : x₃.token = .mark "\x7b")
    (h₃ : x₃.stop.next = .ok x₄) (hbody : Takes (bracedStatements g) x₄ ss y) (hbound : 0 < g.bound) :
    Takes (functionBody g plainForm) x (unaryFunction n ss) y := by
  obtain ⟨k, hk⟩ : ∃ k, g.bound = k + 1 := ⟨g.bound - 1, by omega⟩
  have hparams : Takes (formParams g plainForm) x ([.name n], .nothing, x₁.start.place) x₃ := by
    have hmark : ∀ m, x₁.token.isMark m = false := fun m => by rw [hx₁]; rfl
    have hequals : x₂.token.isMark "=" = false := by rw [hx₂]; rfl
    have hitem : Takes (itemBinder g) x₁ (.name n) x₂ :=
      hbinder.bind ((takes_acceptMark_of_not hequals).bind (.pure _ _))
    have hlist : Takes (params g g.bound []) x₁ ([.name n], .nothing) x₃ := by
      rw [hk]
      exact (takes_acceptMark_of_not (hmark _)).bind ((takes_acceptMark_of_not (hmark _)).bind
        (hitem.bind ((takes_acceptMark hx₂ h₂).bind (.pure _ _))))
    refine (takes_expectMark hx h).bind (.get fun st hst hwaits => ?_)
    rw [← hst]
    exact hlist.bind (.pure ([Binder.name n], Binder.nothing, st.look.start.place) x₃) st hst hwaits
  have hbraces : Takes (formBody g plainForm) x₃ ss y := (takes_expectMark hx₃ h₃).bind hbody
  intro st hst hwaits
  obtain ⟨i, hi⟩ := hparams
    { st with varNames := [], lexicals := [], usesArguments := false, functions := st.functions + 1,
              surroundings := {} } hst rfl
  obtain ⟨j, hj⟩ := hbraces
    { st with look := x₃, varNames := [], lexicals := [], usesArguments := false, functions := i
              surroundings := {} } rfl rfl
  refine ⟨j, ?_⟩
  have hused : (st.usesArguments || (plainForm.kind == FunctionKind.arrow && false)) = st.usesArguments :=
    Bool.or_false _
  show EStateM.bind (formParams g plainForm) _ { st with
    varNames := [], lexicals := [], usesArguments := false, functions := st.functions + 1, surroundings := {} } = _
  rw [EStateM.bind, hi]
  show EStateM.bind (formBody g plainForm) _ _ = _
  rw [EStateM.bind, hj]
  show EStateM.Result.ok (unaryFunction n ss) { st with
    look := y, functions := j, usesArguments := st.usesArguments || (plainForm.kind == FunctionKind.arrow && false) } = _
  rw [hused]

theorem takes_primary_function {heritage : Parse Expr} (hx : x.token = .name "function" false)
    (h : x.stop.next = .ok y) (hy : y.token = .mark "(")
    {func : Func} (hf : Takes (g.function plainForm) y func z) :
    Takes (primary g heritage) x (.function func) z := by
  have hstar : y.token.isMark "*" = false := by rw [hy]; rfl
  have hopen := takes_isMark "(" y
  rw [hy] at hopen
  have hexpression : Takes (functionExpression g false) y (.function func) z :=
    (takes_acceptMark_of_not hstar).bind (hopen.bind (hf.bind (.pure _ _)))
  unfold primary
  refine (takes_peek x).bind ?_
  rw [hx]
  exact (takes_advance h).bind hexpression

/-- Statements are read so deep from their words, at the start of a line or not, up to a brace. -/
def ReadsBody (d : Nat) (ws : List Word) (ss : List Stmt) : Prop :=
  ∀ n, d ≤ n → ∀ x y, Ahead x ws y → y.token = .mark "\x7d" →
    ReadsAll (grammar n).statement (isMark "\x7d") x ss y

/-- The words of a function of one parameter. -/
def functionWords (n : String) (ws : List Word) : List Word :=
  [⟨.name "function" false, false⟩, ⟨.mark "(", false⟩, ⟨.name n false, false⟩, ⟨.mark ")", false⟩,
    ⟨.mark "\x7b", false⟩] ++ ws ++ [⟨.mark "\x7d", false⟩]

theorem isOperand_function (hn : IsVariable n) (h : ReadsBody d ws ss) (hlength : ss.length ≤ d) :
    IsOperand (d + 3) (functionWords n ws) (.function (unaryFunction n ss)) := by
  intro m hm x z hahead hz
  obtain ⟨i, rfl⟩ : ∃ i, m = i + 3 := ⟨m - 3, by omega⟩
  obtain ⟨y, hhead, hclose⟩ := Ahead.append_iff.mp hahead
  obtain ⟨hy, -, z', hnextz, hnil⟩ := Ahead.cons_iff.mp hclose
  rw [Ahead.nil_iff.mp hnil] at hnextz
  obtain ⟨x₅, hhead, hbody⟩ := Ahead.append_iff.mp hhead
  obtain ⟨hx, -, x₁, hnext, hhead⟩ := Ahead.cons_iff.mp hhead
  obtain ⟨hx₁, -, x₂, hnext₁, hhead⟩ := Ahead.cons_iff.mp hhead
  obtain ⟨hx₂, -, x₃, hnext₂, hhead⟩ := Ahead.cons_iff.mp hhead
  obtain ⟨hx₃, -, x₄, hnext₃, hhead⟩ := Ahead.cons_iff.mp hhead
  obtain ⟨hx₄, -, x₅', hnext₄, hnil⟩ := Ahead.cons_iff.mp hhead
  rw [Ahead.nil_iff.mp hnil] at hnext₄
  have hbraces := takes_bracedStatements (g := grammar (i + 2)) (h (i + 2) (by omega) x₅ y hbody hy)
    hy hnextz (show ss.length < i + 1 by omega)
  have hfunction : Takes (functionBody (grammar (i + 2)) plainForm) x₁ (unaryFunction n ss) z :=
    takes_functionBody hx₁ hnext₁ (takes_binderBody (g := grammar (i + 1)) hn hx₂ hnext₂) hx₂ hx₃ hnext₃
      hx₄ hnext₄ hbraces (Nat.succ_pos i)
  exact takes_operand_of_primary (hx ▸ .function)
    (fun _ => takes_primary_function hx hnext hx₁ hfunction) hz

/-- A function that is called at once with a variable or an empty object. -/
def filled (n : String) (ss : List Stmt) : Expr :=
  .call false (.function (unaryFunction n ss)) [orObject n]

/-- The words of a function in parentheses that is called at once. -/
def filledWords (n : String) (ws : List Word) : List Word :=
  ⟨.mark "(", false⟩ :: functionWords n ws ++ [⟨.mark ")", false⟩] ++
    [⟨.mark "(", false⟩, ⟨.name n false, false⟩, ⟨.mark "||", false⟩, ⟨.mark "\x7b", false⟩,
      ⟨.mark "\x7d", false⟩, ⟨.mark ")", false⟩]

theorem reads_function (hn : IsVariable n) (h : ReadsBody d ws ss) (hlength : ss.length ≤ d)
    (hwords : ws.length ≤ d) : Reads (d + 12) (functionWords n ws) (.function (unaryFunction n ss)) := by
  refine reads_of_climbs (l := 1) (d := d + 10)
    (fun m hm => climbs_operand (isOperand_function hn h hlength m (by omega))) (Nat.le_refl 1)
    (fun m x y _ hahead _ => ?_) ?_
  · obtain ⟨hx, -⟩ := Ahead.cons_iff.mp hahead
    exact begins_of_isNoTarget (hx ▸ .word (by decide) false) (hx ▸ rfl) (hx ▸ rfl)
  · simp only [functionWords, List.length_append, List.length_cons, List.length_nil]
    omega

theorem reads_filled (hn : IsVariable n) (h : ReadsBody d ws ss) (hlength : ss.length ≤ d)
    (hwords : ws.length ≤ d) : Reads (d + 20) (filledWords n ws) (filled n ss) := by
  intro m hm x z hahead hz
  obtain ⟨i, rfl⟩ : ∃ i, m = i + 5 := ⟨m - 5, by omega⟩
  obtain ⟨y, hgroup, harguments⟩ := Ahead.append_iff.mp hahead
  obtain ⟨hy, -, y₁, hnext, harguments⟩ := Ahead.cons_iff.mp harguments
  have harguments : Ahead y₁ ([⟨.name n false, false⟩, ⟨.mark "||", false⟩, ⟨.mark "\x7b", false⟩,
    ⟨.mark "\x7d", false⟩] ++ [⟨.mark ")", false⟩]) z := harguments
  obtain ⟨y₂, hargument, hclose⟩ := Ahead.append_iff.mp harguments
  obtain ⟨hy₂, -, z', hnext₂, hnil⟩ := Ahead.cons_iff.mp hclose
  rw [Ahead.nil_iff.mp hnil] at hnext₂
  obtain ⟨hx, -, x₁, hnextx, hgroup⟩ := Ahead.cons_iff.mp hgroup
  obtain ⟨x₂, hinner, hclose⟩ := Ahead.append_iff.mp hgroup
  obtain ⟨hx₂, -, y', hnexty, hnil⟩ := Ahead.cons_iff.mp hclose
  rw [Ahead.nil_iff.mp hnil] at hnexty
  obtain ⟨hx₁, -⟩ := Ahead.cons_iff.mp hinner
  obtain ⟨hy₁, -⟩ := Ahead.cons_iff.mp hargument
  have hword : x₁.token.IsNoTarget := hx₁ ▸ .word (by decide) false
  have hfunction := (reads_function hn h hlength hwords).expression (n := i + 3) (by omega) hinner
    ⟨_, by decide, hx₂⟩
  have hitem : Takes (item (grammar (i + 3))) y₁ (orObject n) y₂ :=
    (takes_acceptMark_of_not (hy₁ ▸ rfl)).bind
      (reads_orObject hn false false false false (i + 3) (by omega) y₁ y₂ hargument ⟨_, by decide, hy₂⟩)
  have hlist : Takes (arguments (grammar (i + 3))) y₁ [orObject n] z := by
    show Takes (commaList _ ")" (i + 2) []) y₁ _ z
    unfold commaList
    exact (takes_acceptMark_of_not (hy₁ ▸ rfl)).bind
      (hitem.bind ((takes_acceptMark hy₂ hnext₂).bind (.pure _ _)))
  have hsuffixes : Takes (suffixes (grammar (i + 3)) true (i + 2) (.function (unaryFunction n ss)) false) y
      (filled n ss, false) z := by
    unfold suffixes
    refine (takes_peek y).bind ?_
    rw [hy]
    exact (takes_advance hnext).bind (hlist.bind (takes_suffixes hz.follows true i _ false))
  have hplain : x.token.IsPlain := hx ▸ .group
  have hoperand : Takes (operand (grammar (i + 3))) x (filled n ss) z :=
    takes_operand hplain (takes_postfixed (takes_leftHandSide hplain
      (takes_primary_group hx hnextx hfunction hx₂ hnexty) hsuffixes) hz.follows) hz.follows
  have hbinary : Takes (binaryBody (grammar (i + 3)) true 1) x (filled n ss) z :=
    hoperand.bind (takes_binaryRest_end (stops_of_ends hz 0) (Nat.zero_lt_succ 0) _ _)
  have harrow : Takes (startsArrow (grammar (i + 4))) x false x :=
    takes_startsArrow_group hx hnextx (fails_binderBody hword) (hx₁ ▸ rfl) (hx₁ ▸ rfl)
  exact (begins_group hx harrow).takes
    (takes_assignmentRest (takes_conditional hbinary hz.follows) hz)

/-! ## A declaration as a whole text -/

/-- A variable that is declared with such an object. -/
def declared (n : String) (ss : List Stmt) : Stmt := .declare .variable [.orElse (.name n) (filled n ss)]

/-- The words of the declaration. -/
def declaredWords (n : String) (ws : List Word) : List Word :=
  [⟨.name "var" false, false⟩, ⟨.name n false, false⟩, ⟨.mark "=", false⟩] ++ filledWords n ws ++
    [⟨.mark ";", false⟩]

/-- The declaration takes note of its name besides. -/
theorem exists_statementBody_declared {i : Nat} (hn : IsVariable n) (h : ReadsBody d ws ss)
    (hlength : ss.length ≤ d) (hwords : ws.length ≤ d) (hi : d + 22 ≤ i)
    (hahead : Ahead x (declaredWords n ws) y) (st : ParseState) (hst : st.look = x)
    (hwaits : st.surroundings.isAsync = false) :
    ∃ functions, statementBody (grammar i) st =
      .ok (declared n ss) { st with look := y, functions, varNames := n :: st.varNames } := by
  obtain ⟨m, rfl⟩ : ∃ m, i = m + 2 := ⟨i - 2, by omega⟩
  obtain ⟨z, hhead, hclose⟩ := Ahead.append_iff.mp hahead
  obtain ⟨hz, -, y', hnextz, hnil⟩ := Ahead.cons_iff.mp hclose
  rw [Ahead.nil_iff.mp hnil] at hnextz
  obtain ⟨x₃', hhead, hvalue⟩ := Ahead.append_iff.mp hhead
  obtain ⟨hx, -, x₁, hnext, hhead⟩ := Ahead.cons_iff.mp hhead
  obtain ⟨hx₁, -, x₂, hnext₁, hhead⟩ := Ahead.cons_iff.mp hhead
  obtain ⟨hx₂, -, x₃, hnext₂, hnil⟩ := Ahead.cons_iff.mp hhead
  rw [Ahead.nil_iff.mp hnil] at hnext₂
  have hcomma : z.token.isMark "," = false := by rw [hz]; rfl
  have hassigned := reads_filled hn h hlength hwords (m + 2) (by omega) x₃' z hvalue ⟨_, by decide, hz⟩
  have hrest : Takes (do
      let first ← declaredValue (grammar (m + 2)) true .variable (.name n)
      let all ← declarations (grammar (m + 2)) true .variable (grammar (m + 2)).bound [first]
      semicolon
      return Stmt.declare .variable all) x₂ (declared n ss) y := by
    have hvalue : Takes (declaredValue (grammar (m + 2)) true .variable (.name n)) x₂
        (.orElse (.name n) (filled n ss)) z :=
      (takes_acceptMark hx₂ hnext₂).bind (hassigned.bind (.pure _ _))
    have hlist : Takes (declarations (grammar (m + 2)) true .variable (m + 1)
        [.orElse (.name n) (filled n ss)]) z [.orElse (.name n) (filled n ss)] z :=
      (takes_acceptMark_of_not hcomma).bind (.pure _ _)
    exact hvalue.bind (hlist.bind ((takes_semicolon hz hnextz).bind (.pure _ _)))
  obtain ⟨i₀, h₀⟩ := takes_advance hnext st hst hwaits
  obtain ⟨i₁, h₁⟩ := takes_binderBody (g := grammar (m + 1)) hn hx₁ hnext₁
    { st with look := x₁, functions := i₀ } rfl hwaits
  obtain ⟨i₂, h₂⟩ := hrest
    { st with look := x₂, functions := i₁, varNames := n :: st.varNames } rfl hwaits
  refine ⟨i₂, ?_⟩
  have hpeek : peek st = .ok (.name "var" false) st := by
    show EStateM.Result.ok st.look.token st = _
    rw [hst, hx]
  unfold statementBody
  show EStateM.bind peek _ st = _
  rw [EStateM.bind, hpeek]
  show EStateM.bind advance _ st = _
  rw [EStateM.bind, h₀]
  show EStateM.bind (binderBody (grammar (m + 1))) _ _ = _
  rw [EStateM.bind, h₁]
  exact h₂

end Grammar

open Grammar Parse

/-- A text of these words is read as the declaration. -/
theorem read_of_words {text : List Char} {x y : Lexeme} {n : String} {ws : List Word} {ss : List Stmt}
    {d : Nat} (hn : IsVariable n) (h : ReadsBody d ws ss) (hlength : ss.length ≤ d)
    (hwords : ws.length ≤ d) (hd : d ≤ 4 * text.length) (hlook : (Reader.ofText text).next = .ok x)
    (hahead : Ahead x (declaredWords n ws) y) (hy : y.token = .finish) :
    read text = .ok [declared n ss] := by
  obtain ⟨hx, -⟩ := Ahead.cons_iff.mp hahead
  have hends : ∀ z, Takes (do return (← peek) == .finish) z (z.token == .finish) z := fun z =>
    (takes_peek z).bind (.pure _ _)
  obtain ⟨i₀, h₀⟩ := hends x { look := x } rfl rfl
  obtain ⟨i₁, h₁⟩ := exists_statementBody_declared (i := 4 * text.length + 39) hn h hlength hwords
    (by omega) hahead { look := x, functions := i₀ } rfl rfl
  obtain ⟨i₂, h₂⟩ := hends y { look := y, functions := i₁, varNames := [n] } rfl rfl
  rw [hx] at h₀
  rw [hy] at h₂
  have hstatements : statements (grammar (4 * text.length + 40)) (do return (← peek) == .finish)
      (4 * text.length + 40) [] { look := x } =
        .ok [declared n ss] { look := y, functions := i₂, varNames := [n] } := by
    unfold statements
    show EStateM.bind _ _ _ = _
    rw [EStateM.bind, h₀]
    show EStateM.bind (statementBody (grammar (4 * text.length + 39))) _ _ = _
    rw [EStateM.bind, h₁]
    show statements _ _ (4 * text.length + 39) [declared n ss] { look := y, functions := i₁, varNames := [n] } = _
    unfold statements
    show EStateM.bind _ _ _ = _
    rw [EStateM.bind, h₂]
    rfl
  unfold read
  rw [hlook]
  simp only [hstatements]
  rfl

end Script
end Restyle
