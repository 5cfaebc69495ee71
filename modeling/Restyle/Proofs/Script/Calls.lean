import Restyle.Proofs.Script.Filling
import Restyle.Script.Engine

/-!
# Restyle.Proofs.Script.Calls

What becomes of a function that is called at once to fill an object, and of the variable that is
declared with it.
-/

namespace Restyle
namespace Script
namespace Run

open Machine

variable {m : Machine} {h : Host} {ref scope : Nat} {o root : Obj} {k : Key} {v : Value} {n : String}

/-! ## A function that is called at once -/

/-- Statements that declare no function. -/
def DeclaresNone (ss : List Stmt) : Prop := ∀ s ∈ ss, ∃ e, s = .expression e ∨ s = .returns e

theorem hoistFunctions_none {ss : List Stmt} (hss : DeclaresNone ss) : hoistFunctions scope ss m = .ok () m := by
  induction ss with
  | nil => rfl
  | cons s ss ih =>
    obtain ⟨e, rfl | rfl⟩ := hss s (List.mem_cons_self ..)
    all_goals exact ih fun s hs => hss s (List.mem_cons_of_mem _ hs)

/-- Statements, and then the variable as a result. -/
def returning (n : String) (ss : List Stmt) : List Stmt := ss ++ [.returns (.name n)]

theorem declaresNone_returning {ss : List Stmt} (hss : DeclaresNone ss) (n : String) : DeclaresNone (returning n ss) := by
  intro s hs
  obtain hs | hs := List.mem_append.mp hs
  · exact hss s hs
  · exact ⟨.name n, .inr (List.mem_singleton.mp hs)⟩

/-- The heap with a function of one parameter and its prototype. -/
def heapWith (heap : Array Obj) (f : Func) (scope : Nat) : Array Obj :=
  ((heap.push { parent := some Ref.functionProto, kind := .closure { func := f, scope }
                props := functionProps "" 1 }).push
    { parent := some Ref.objectProto, props := #[("constructor", .quiet (.object heap.size))] }).modify heap.size
      (·.store "prototype" ⟨.data (.object (heap.size + 1)), true, false, false⟩)

theorem makeFunction_unary (n : String) (body : List Stmt) :
    makeFunction (Grammar.unaryFunction n body) scope none m =
      .ok (.object m.heap.size) { m with heap := heapWith m.heap (Grammar.unaryFunction n body) scope } := by
  unfold heapWith
  rw [← Array.size_push]
  rfl

theorem getElem?_push_of_some {α : Type} {xs : Array α} {i : Nat} {a : α} (hi : xs[i]? = some a) (b : α) :
    (xs.push b)[i]? = some a := by
  have hlt := (Array.getElem?_eq_some_iff.mp hi).1
  rw [Array.getElem?_push_lt hlt, ← hi, Array.getElem?_eq_getElem hlt]

theorem size_heapWith (heap : Array Obj) (f : Func) (scope : Nat) :
    (heapWith heap f scope).size = heap.size + 2 := by
  simp [heapWith]

theorem heapWith_old {heap : Array Obj} {i : Nat} (hi : i < heap.size) (f : Func) (scope : Nat) :
    (heapWith heap f scope)[i]? = heap[i]? := by
  have hsize : i < (heapWith heap f scope).size := by rw [size_heapWith]; omega
  rw [Array.getElem?_eq_getElem hsize, Array.getElem?_eq_getElem hi]
  simp only [heapWith, Array.getElem_modify, if_neg (Nat.ne_of_gt hi)]
  rw [Array.getElem_push_lt (by rw [Array.size_push]; omega), Array.getElem_push_lt hi]

theorem heapWith_new (heap : Array Obj) (f : Func) (scope : Nat) :
    ∃ o, (heapWith heap f scope)[heap.size]? = some o ∧ o.kind = .closure { func := f, scope } := by
  have hsize : heap.size < (heapWith heap f scope).size := by rw [size_heapWith]; omega
  refine ⟨_, Array.getElem?_eq_getElem hsize, ?_⟩
  simp only [heapWith, Array.getElem_modify, if_pos]
  rw [Obj.store_kind, Array.getElem_push_lt (by rw [Array.size_push]; omega), Array.getElem_push_eq]

/-- The variables of a function of one parameter. -/
def unaryCells (n : String) (v : Value) : Array Variable :=
  #[{ name := "this", value := some .undefined }, { name := "new.target", value := some .undefined },
    { name := n, value := some v }]

theorem findVariable_unaryCells (hn : n ≠ "this" ∧ n ≠ "new.target") (scopes : Array Scope) (outer : Nat) (v : Value) :
    findVariable n (scopes.push { parent := some outer, cells := unaryCells n v }) (scopes.size + 1) scopes.size =
      some (scopes.size, 2) := by
  have hfound : (unaryCells n v).findIdx? (·.name == n) = some 2 := by
    rw [unaryCells, List.findIdx?_toArray]
    simp [List.findIdx?_cons, Ne.symm hn.1, Ne.symm hn.2]
  rw [findVariable, Array.getElem?_push_size]
  dsimp only
  rw [hfound]

theorem holds_unaryCells (hn : n ≠ "this" ∧ n ≠ "new.target") (scopes : Array Scope) (outer : Nat) (v : Value) :
    Holds (scopes.push { parent := some outer, cells := unaryCells n v }) scopes.size n v := by
  refine ⟨_, _, true, findVariable_unaryCells hn scopes outer v, ?_⟩
  rw [Array.getElem?_push_size]
  rfl

/-- A variable that is found is found also where there are more scopes. -/
theorem findVariable_mono {x : String} {scopes scopes' : Array Scope} {found : Nat × Nat} {fuel fuel' : Nat}
    (hk : ∀ (i : Nat) s, scopes[i]? = some s → scopes'[i]? = some s) (hle : fuel ≤ fuel')
    (hfound : findVariable x scopes fuel scope = some found) :
    findVariable x scopes' fuel' scope = some found := by
  induction fuel generalizing fuel' scope with
  | zero => cases hfound
  | succ fuel ih =>
    obtain ⟨k, rfl⟩ : ∃ k, fuel' = k + 1 := ⟨fuel' - 1, by omega⟩
    unfold findVariable at hfound ⊢
    cases hs : scopes[scope]? with
    | none => rw [hs] at hfound; cases hfound
    | some s =>
      rw [hs] at hfound
      rw [hk _ _ hs]
      dsimp only at hfound ⊢
      cases hi : s.cells.findIdx? (·.name == x) with
      | some i => rwa [hi] at hfound
      | none =>
        rw [hi] at hfound
        dsimp only at hfound ⊢
        cases hparent : s.parent with
        | none => rw [hparent] at hfound; cases hfound
        | some outer =>
          rw [hparent] at hfound
          exact ih (by omega) hfound

theorem Holds.mono {x : String} {scopes scopes' : Array Scope}
    (hk : ∀ (i : Nat) s, scopes[i]? = some s → scopes'[i]? = some s) (hx : Holds scopes scope x v) :
    Holds scopes' scope x v := by
  obtain ⟨id, i, mutable, hfound, hthere⟩ := hx
  refine ⟨id, i, mutable, findVariable_mono hk (Nat.le_refl _) hfound, ?_⟩
  obtain ⟨s, hs, hcell⟩ := Option.bind_eq_some_iff.mp hthere
  rw [hk _ _ hs]
  exact hcell

/-- A function sees the variables around it, but those whose names it has itself. -/
theorem Holds.inside {x : String} {scopes : Array Scope} {outer : Nat} {w : Value} (hx : Holds scopes outer x v)
    (hown : x ∉ ["this", "new.target", n]) :
    Holds (scopes.push { parent := some outer, cells := unaryCells n w }) scopes.size x v := by
  obtain ⟨there, i, mutable, hfound, hthere⟩ := hx.mono fun i s hs =>
    getElem?_push_of_some hs { parent := some outer, cells := unaryCells n w }
  refine ⟨there, i, mutable, ?_, hthere⟩
  obtain ⟨hthis, htarget, hn⟩ : "this" ≠ x ∧ "new.target" ≠ x ∧ n ≠ x := by
    simp only [List.mem_cons, List.not_mem_nil, or_false, not_or] at hown
    exact ⟨Ne.symm hown.1, Ne.symm hown.2.1, Ne.symm hown.2.2⟩
  have hnone : (unaryCells n w).findIdx? (·.name == x) = none := by
    rw [unaryCells, List.findIdx?_toArray]
    simp [List.findIdx?_cons, hthis, htarget, hn]
  have houter : outer < scopes.size := by
    obtain ⟨_, _, _, hfound, -⟩ := hx
    refine Nat.lt_of_not_le fun hle => ?_
    rw [findVariable, Array.getElem?_eq_none hle] at hfound
    cases hfound
  rw [findVariable, Array.getElem?_push_size]
  dsimp only
  rw [hnone]
  exact findVariable_mono (fun _ _ => id) houter hfound

theorem modify_push (scopes : Array Scope) (s : Scope) (f : Scope → Scope) :
    (scopes.push s).modify scopes.size f = scopes.push (f s) := by
  refine Array.ext (by simp) fun i h₁ h₂ => ?_
  rw [Array.getElem_modify]
  by_cases hi : i < scopes.size
  · rw [if_neg (Nat.ne_of_gt hi), Array.getElem_push_lt hi, Array.getElem_push_lt hi]
  · obtain rfl : i = scopes.size := by
      rw [Array.size_push] at h₂
      omega
    rw [if_pos rfl, Array.getElem_push_eq, Array.getElem_push_eq]

theorem prepare_unary {body : List Stmt} {outer r : Nat} (hn : n ≠ "this" ∧ n ≠ "new.target")
    (hbody : ∀ scope m, hoistFunctions scope body m = .ok () m) :
    Engine.prepare h r { func := Grammar.unaryFunction n body, scope := outer } (some .undefined) [v] .undefined m =
      .ok m.scopes.size
        { m with scopes := m.scopes.push { parent := some outer, cells := unaryCells n v } } := by
  have hscope : newScope (some outer) (unaryCells n .undefined) m = .ok m.scopes.size
      { m with scopes := m.scopes.push { parent := some outer, cells := unaryCells n .undefined } } := rfl
  have hinit : initVariable m.scopes.size n v
      { m with scopes := m.scopes.push { parent := some outer, cells := unaryCells n .undefined } } =
      .ok () { m with scopes := m.scopes.push { parent := some outer, cells := unaryCells n v } } := by
    rw [initVariable, findVariable_unaryCells hn]
    dsimp only
    rw [storeVariable, modify_push]
    rfl
  have hparams : Engine.bindParams h m.scopes.size .nothing [.name n] [v]
      { m with scopes := m.scopes.push { parent := some outer, cells := unaryCells n .undefined } } =
      .ok () { m with scopes := m.scopes.push { parent := some outer, cells := unaryCells n v } } :=
    bind_ok hinit
  show (do
    let scope ← newScope (some outer) (unaryCells n .undefined)
    Engine.bindParams h scope .nothing [.name n] [v]
    hoistFunctions scope body
    return scope) m = _
  rw [bind_ok hscope, bind_ok hparams, bind_ok (hbody _ _)]
  rfl

theorem withObj_self {o : Obj} (ho : m.heap[ref]? = some o) : m.withObj ref o = m := by
  obtain ⟨hlt, hget⟩ := Array.getElem?_eq_some_iff.mp ho
  have hheap : (m.heap.modify ref fun _ => o) = m.heap := by
    refine Array.ext (by simp) fun i h₁ h₂ => ?_
    rw [Array.getElem_modify]
    split
    · rename_i heq
      subst heq
      exact hget.symm
    · rfl
  rw [withObj, hheap]

/-- The scope of a function of one parameter. -/
def unaryScope (outer : Nat) (n : String) (v : Value) : Scope := { parent := some outer, cells := unaryCells n v }

/-- The machine in a frame for one argument. -/
def inFrame (m : Machine) : Machine := { m with rounds := 0, stack := m.stack + 1 + frameSize }

/-- The machine in a call with one argument. -/
def inCall (m : Machine) (outer : Nat) (n : String) (v : Value) : Machine :=
  { inFrame m with scopes := m.scopes.push (unaryScope outer n v) }

/-- How a call ends whose body ends so. -/
def leaving (m : Machine) : EStateM.Result Stop Machine Flow → EStateM.Result Stop Machine Value
  | .ok flow m' => .ok (Engine.resultOf flow) { m' with rounds := m.rounds, stack := m.stack }
  | .error e m' => .error e { m' with rounds := m.rounds, stack := m.stack }

/-- **A call of a function of one parameter runs its body** in a scope of its own. -/
theorem callClosure_unary (outer r : Nat) (v : Value) {body : List Stmt} (hbody : DeclaresNone body)
    (hn : n ≠ "this" ∧ n ≠ "new.target") (hstack : m.stack + 3 < m.bounds.stack) :
    Engine.callClosure h r { func := Grammar.unaryFunction n body, scope := outer } .undefined [v] m =
      leaving m (stmts h m.scopes.size body (inCall m outer n v)) := by
  have hprepare : Engine.prepare h r { func := Grammar.unaryFunction n body, scope := outer } (some .undefined) [v]
      .undefined (inFrame m) = .ok m.scopes.size (inCall m outer n v) :=
    prepare_unary hn fun _ _ => hoistFunctions_none hbody
  have henter : Engine.enter h r { func := Grammar.unaryFunction n body, scope := outer } (some .undefined) [v]
      .undefined (inFrame m) = (do return (← stmts h m.scopes.size body, m.scopes.size)) (inCall m outer n v) :=
    bind_ok hprepare
  show framed 1 (do return Engine.resultOf (← Engine.enter h r _ (some .undefined) [v] .undefined).1) m = _
  rw [framed, if_neg (by omega)]
  dsimp only
  rw [show { m with rounds := 0, stack := m.stack + 1 + frameSize } = inFrame m from rfl]
  cases hbody : stmts h m.scopes.size body (inCall m outer n v) with
  | ok flow m' =>
    rw [bind_ok (henter.trans (bind_ok hbody))]
    rfl
  | error e m' =>
    rw [bind_error (henter.trans (bind_error hbody))]
    rfl

/-- An empty object is at the place, and the root does not get in the way. -/
structure HasEmpty (m : Machine) (ref : Nat) : Prop where
  isThere : m.heap[ref]? = some { parent := some Ref.objectProto }
  ne_root : ref ≠ Ref.objectProto
  root : ∃ root : Obj, m.heap[Ref.objectProto]? = some root ∧ root.IsRoot

theorem HasEmpty.isFilling (hm : HasEmpty m ref) (outer : Nat) (hn : n ≠ "this" ∧ n ≠ "new.target") :
    IsFilling (inCall m outer n (.object ref)) m.scopes.size n ref where
  holds := holds_unaryCells hn m.scopes outer (.object ref)
  isThere := (Array.getElem?_eq_some_iff.mp hm.isThere).1
  ne_root := hm.ne_root
  root := hm.root

/-! ## The declaration as a whole -/

theorem obj_ok (ho : m.heap[ref]? = some o) : obj ref m = .ok o m := by
  simp [obj, Array.getD_eq_getD_getElem?, ho]

/-- A function of a script is called in a new frame. -/
theorem call_closure (component : Library.Body) (room : Nat) {c : Closure} (ho : m.heap[ref]? = some o)
    (hkind : o.kind = .closure c) (this : Value) (args : List Value) :
    (Engine.host component (room + 1)).call (.object ref) this args m =
      Engine.callClosure (Engine.host component room) ref c this args m := by
  show Engine.callAny component (Engine.host component room)
    (Engine.level component (Engine.host component room) 399) (.object ref) this args m = _
  unfold Engine.callAny
  dsimp only
  rw [bind_ok (obj_ok ho), hkind]

theorem callValue_closure (component : Library.Body) (room : Nat) {c : Closure} (ho : m.heap[ref]? = some o)
    (hkind : o.kind = .closure c) (this : Value) (args : List Value) :
    callValue (Engine.host component (room + 1)) (.object ref) this args m =
      Engine.callClosure (Engine.host component room) ref c this args m := by
  have hcallable : isCallable (.object ref) m = .ok true m := by
    unfold isCallable
    dsimp only
    rw [bind_ok (obj_ok ho), hkind]
    rfl
  rw [callValue, bind_ok hcallable, if_pos rfl, call_closure component room ho hkind]

theorem expr_orObject (hx : Holds m.scopes scope n .undefined) :
    expr h scope (Grammar.orObject n) m =
      .ok (.object m.heap.size) { m with heap := m.heap.push { parent := some Ref.objectProto } } := by
  show (do
    let v ← expr h scope (.name n)
    if needsSecond .or v then expr h scope (.object []) else return v) m = _
  rw [bind_ok (expr_name hx)]
  rfl

/-- What runs need to fill an object: a root that does not get in the way, and room for a frame. -/
structure HasRoom (m : Machine) : Prop where
  root : ∃ root : Obj, m.heap[Ref.objectProto]? = some root ∧ root.IsRoot
  stack : m.stack + 3 < m.bounds.stack

theorem stmts_return (hx : Holds m.scopes scope n v) :
    stmts h scope [.returns (.name n)] m = .ok (.returned v) m :=
  bind_ok (r := stmt h scope [] (.returns (.name n))) (bind_ok (r := expr h scope (.name n)) (expr_name hx))

/-- **A function that is called at once runs its body with a new object**, where the variable that it is
called with holds nothing yet. -/
theorem exists_call {body : List Stmt} (component : Library.Body) (room : Nat) (hbody : DeclaresNone body)
    (hx : Holds m.scopes scope n .undefined) (hm : HasRoom m) (hn : n ≠ "this" ∧ n ≠ "new.target") :
    ∃ (heap : Array Obj) (ref : Nat), HasEmpty { m with heap } ref ∧
      expr (Engine.host component (room + 1)) scope (Grammar.filled n body) m =
        leaving { m with heap } (stmts (Engine.host component room) m.scopes.size body
          (inCall { m with heap } scope n (.object ref))) := by
  have hmake : makeFunction (Grammar.unaryFunction n body) scope none m = _ := makeFunction_unary n body
  obtain ⟨o, ho, hkind⟩ := heapWith_new m.heap (Grammar.unaryFunction n body) scope
  have hsize := size_heapWith m.heap (Grammar.unaryFunction n body) scope
  obtain ⟨root, hroot, hr⟩ := hm.root
  have hlt : Ref.objectProto < m.heap.size := (Array.getElem?_eq_some_iff.mp hroot).1
  have hroot' := heapWith_old hlt (Grammar.unaryFunction n body) scope
  generalize heapWith m.heap (Grammar.unaryFunction n body) scope = heap at hmake ho hsize hroot'
  -- the object that is filled comes after the function and its prototype
  have harguments : items (Engine.host component (room + 1)) scope [Grammar.orObject n] #[] { m with heap } =
      .ok #[some (.object heap.size)] { m with heap := heap.push { parent := some Ref.objectProto } } :=
    bind_ok (r := expr (Engine.host component (room + 1)) scope (Grammar.orObject n)) (expr_orObject hx)
  have hfunction : (heap.push { parent := some Ref.objectProto })[m.heap.size]? = some o :=
    getElem?_push_of_some ho _
  have hmade : expr (Engine.host component (room + 1)) scope (.function (Grammar.unaryFunction n body)) m =
      .ok (.object m.heap.size) { m with heap } := hmake
  refine ⟨heap.push { parent := some Ref.objectProto }, heap.size, ?_, ?_⟩
  · exact {
      isThere := Array.getElem?_push_size
      ne_root := Nat.ne_of_gt (by omega)
      root := ⟨root, getElem?_push_of_some (hroot'.trans hroot) _, hr⟩ }
  · show (do
      let f ← expr (Engine.host component (room + 1)) scope (.function (Grammar.unaryFunction n body))
      let args ← items (Engine.host component (room + 1)) scope [Grammar.orObject n] #[]
      callValue (Engine.host component (room + 1)) f .undefined (argumentsOf args)) m = _
    rw [bind_ok hmade, bind_ok harguments]
    exact (callValue_closure component room hfunction hkind _ _).trans
      (callClosure_unary scope m.heap.size (.object heap.size) hbody hn hm.stack)

/-- **A function that is written to fill an object fills a new one.** -/
theorem expr_filled {ss : List Stmt} {o' : Obj} (component : Library.Body) (room : Nat) (hss : DeclaresNone ss)
    (hfills : Fills n { parent := some Ref.objectProto } ss o') (hx : Holds m.scopes scope n .undefined)
    (hm : HasRoom m) (hn : n ≠ "this" ∧ n ≠ "new.target") :
    ∃ (heap : Array Obj) (s : Scope) (ref : Nat), heap[ref]? = some o' ∧
      expr (Engine.host component (room + 1)) scope (Grammar.filled n (returning n ss)) m =
        .ok (.object ref) { m with heap, scopes := m.scopes.push s } := by
  obtain ⟨heap, ref, hempty, hcall⟩ := exists_call component room (declaresNone_returning hss n) hx hm hn
  have hf := hempty.isFilling scope hn
  have hfilled := hfills (Engine.host component room) _ _ _ hf
  rw [withObj_self (by exact hempty.isThere)] at hfilled
  have hreturn : stmts (Engine.host component room) m.scopes.size [.returns (.name n)]
      ((inCall { m with heap } scope n (.object ref)).withObj ref o') = _ := stmts_return hf.holds
  rw [← stmts_append hfilled] at hreturn
  rw [returning, hreturn] at hcall
  exact ⟨_, _, ref, heap_withObj hf.isThere, hcall⟩

/-- A scope of its own with one variable and nothing around it. -/
def loneScope (n : String) (v : Value) : Scope := { parent := none, cells := #[{ name := n, value := some v }] }

/-- From a function in such a scope nothing else is seen than it, its parameter and its receiver. -/
theorem seesOnly_inCall {w : Value} (hscope : m.scopes[scope]? = some (loneScope n w)) (v : Value) :
    SeesOnly (inCall m scope n v).scopes m.scopes.size ["this", "new.target", n] := by
  intro x hx
  obtain ⟨hthis, htarget, hn⟩ : "this" ≠ x ∧ "new.target" ≠ x ∧ n ≠ x := by
    simp only [List.mem_cons, List.not_mem_nil, or_false, not_or] at hx
    exact ⟨Ne.symm hx.1, Ne.symm hx.2.1, Ne.symm hx.2.2⟩
  have hinner : (unaryCells n v).findIdx? (·.name == x) = none := by
    rw [unaryCells, List.findIdx?_toArray]
    simp [List.findIdx?_cons, hthis, htarget, hn]
  have houter : (loneScope n w).cells.findIdx? (·.name == x) = none := by
    rw [loneScope, List.findIdx?_toArray]
    simp [List.findIdx?_cons, hn]
  have hpushed : (m.scopes.push (unaryScope scope n v))[scope]? = some (loneScope n w) :=
    getElem?_push_of_some hscope _
  have hlone : ∀ fuel, findVariable x (m.scopes.push (unaryScope scope n v)) fuel scope = none := by
    intro fuel
    cases fuel with
    | zero => rfl
    | succ fuel =>
      rw [findVariable, hpushed]
      dsimp only
      rw [houter]
      rfl
  show findVariable x (m.scopes.push (unaryScope scope n v)) (m.scopes.size + 1) m.scopes.size = none
  rw [findVariable, Array.getElem?_push_size]
  dsimp only
  rw [show (unaryScope scope n v).cells = unaryCells n v from rfl, hinner]
  exact hlone _

/-- A statement that reads a variable that is not there, where an object is filled with nothing else
around. -/
def MissesIn (n : String) (o : Obj) (s : Stmt) : Prop :=
  ∀ (h : Host) (m : Machine) (scope ref : Nat), IsFilling m scope n ref →
    SeesOnly m.scopes scope ["this", "new.target", n] → Misses (stmt h scope [] s) (m.withObj ref o)

/-- **A function that fills an object throws where one of its statements misses a variable.** -/
theorem expr_misses {before after : List Stmt} {s : Stmt} {o' : Obj} {w : Value} (component : Library.Body) (room : Nat)
    (hss : DeclaresNone (before ++ s :: after)) (hbefore : Fills n { parent := some Ref.objectProto } before o')
    (hs : MissesIn n o' s) (hx : Holds m.scopes scope n .undefined) (hscope : m.scopes[scope]? = some (loneScope n w))
    (hm : HasRoom m) (hn : n ≠ "this" ∧ n ≠ "new.target") :
    Misses (expr (Engine.host component (room + 1)) scope (Grammar.filled n (returning n (before ++ s :: after)))) m := by
  obtain ⟨heap, ref, hempty, hcall⟩ := exists_call component room (declaresNone_returning hss n) hx hm hn
  have hf := hempty.isFilling scope hn
  have hfilled := hbefore (Engine.host component room) _ _ _ hf
  rw [withObj_self (by exact hempty.isThere)] at hfilled
  have hsees : SeesOnly (inCall { m with heap } scope n (.object ref)).scopes m.scopes.size ["this", "new.target", n] :=
    seesOnly_inCall (m := { m with heap }) hscope _
  have hrest : Misses (stmts (Engine.host component room) m.scopes.size (s :: (after ++ [.returns (.name n)])))
      ((inCall { m with heap } scope n (.object ref)).withObj ref o') := (hs _ _ _ _ hf hsees).bind
  obtain ⟨e, m', o, herror, ho, hkind⟩ := hrest
  rw [← stmts_append hfilled] at herror
  have hbody : returning n (before ++ s :: after) = before ++ s :: (after ++ [.returns (.name n)]) := by
    simp [returning]
  rw [hbody] at hcall ⊢
  rw [herror] at hcall
  exact ⟨e, _, o, hcall, ho, hkind⟩

theorem isVariableAt_lone {scopes : Array Scope} (hscope : scopes[scope]? = some (loneScope n v)) :
    IsVariableAt scopes scope n scope 0 { name := n, value := some v } where
  isFound := by
    have hfound : (loneScope n v).cells.findIdx? (·.name == n) = some 0 := by
      rw [loneScope, List.findIdx?_toArray]
      simp [List.findIdx?_cons]
    rw [findVariable, hscope]
    dsimp only
    rw [hfound]
  isThere := by
    rw [hscope]
    rfl

theorem assignVariable_lone (hscope : m.scopes[scope]? = some (loneScope n .undefined)) (v : Value) :
    ∃ scopes, assignVariable scope n v m = .ok () { m with scopes } ∧ scopes[scope]? = some (loneScope n v) := by
  obtain ⟨hfound, hthere⟩ := isVariableAt_lone hscope
  obtain ⟨hlt, hget⟩ := Array.getElem?_eq_some_iff.mp hscope
  refine ⟨m.scopes.modify scope fun s => { s with cells := s.cells.modify 0 fun x => { x with value := some v } },
    ?_, ?_⟩
  · have hget : (MonadState.get : Run Machine) m = .ok m m := rfl
    unfold assignVariable
    rw [bind_ok hget, hfound]
    dsimp only
    rw [hthere]
    rfl
  · rw [Array.getElem?_eq_getElem (by rwa [Array.size_modify]), Array.getElem_modify, if_pos rfl, hget]
    rfl

/-- **A variable that is declared with a function to fill it holds the filled object then.** -/
theorem stmts_declared {ss : List Stmt} {o' : Obj} (component : Library.Body) (room : Nat) (hss : DeclaresNone ss)
    (hfills : Fills n { parent := some Ref.objectProto } ss o') (hscope : m.scopes[scope]? = some (loneScope n .undefined))
    (hm : HasRoom m) (hn : n ≠ "this" ∧ n ≠ "new.target") :
    ∃ (m' : Machine) (ref : Nat), m'.scopes[scope]? = some (loneScope n (.object ref)) ∧ m'.heap[ref]? = some o' ∧
      stmts (Engine.host component (room + 1)) scope [Grammar.declared n (returning n ss)] m = .ok .next m' := by
  obtain ⟨heap, s, ref, hfilled, hexpr⟩ := expr_filled component room hss hfills
    ⟨_, _, _, isVariableAt_lone hscope⟩ hm hn
  have hpushed : (m.scopes.push s)[scope]? = some (loneScope n .undefined) := getElem?_push_of_some hscope s
  obtain ⟨scopes, hassign, hheld⟩ := assignVariable_lone (m := { m with heap, scopes := m.scopes.push s }) hpushed
    (.object ref)
  refine ⟨{ m with heap, scopes }, ref, hheld, hfilled, ?_⟩
  have hbind : bind (Engine.host component (room + 1)) scope false (.name n) (.object ref) _ = _ := hassign
  have hdeclare : declareAll (Engine.host component (room + 1)) scope .variable
      [.orElse (.name n) (Grammar.filled n (returning n ss))] m = .ok () { m with heap, scopes } := by
    show (do
      bind (Engine.host component (room + 1)) scope false (.name n)
        (← expr (Engine.host component (room + 1)) scope (Grammar.filled n (returning n ss)))
      declareAll (Engine.host component (room + 1)) scope .variable []) m = _
    rw [bind_ok hexpr, bind_ok hbind]
    rfl
  have hstmt : stmt (Engine.host component (room + 1)) scope [] (Grammar.declared n (returning n ss)) m =
      .ok .next { m with heap, scopes } := bind_ok hdeclare
  exact bind_ok hstmt

/-- **A declaration throws where a statement of its function misses a variable.** -/
theorem stmts_misses {before after : List Stmt} {s : Stmt} {o' : Obj} (component : Library.Body) (room : Nat)
    (hss : DeclaresNone (before ++ s :: after)) (hbefore : Fills n { parent := some Ref.objectProto } before o')
    (hs : MissesIn n o' s) (hscope : m.scopes[scope]? = some (loneScope n .undefined)) (hm : HasRoom m)
    (hn : n ≠ "this" ∧ n ≠ "new.target") :
    Misses (stmts (Engine.host component (room + 1)) scope [Grammar.declared n (returning n (before ++ s :: after))]) m := by
  have hexpr := expr_misses component room hss hbefore hs ⟨_, _, _, isVariableAt_lone hscope⟩ hscope hm hn
  have hdeclare : Misses (declareAll (Engine.host component (room + 1)) scope .variable
      [.orElse (.name n) (Grammar.filled n (returning n (before ++ s :: after)))]) m := hexpr.bind
  have hstmt : Misses (stmt (Engine.host component (room + 1)) scope []
      (Grammar.declared n (returning n (before ++ s :: after)))) m := hdeclare.bind
  exact hstmt.bind

end Run

end Script
end Restyle
