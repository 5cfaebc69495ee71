import Restyle.Proofs.Script.Flags
import Restyle.Proofs.Script.Reads
import Restyle.Script.Eval

/-!
# Restyle.Proofs.Script.Filling

Objects that a script fills with members: what an assignment to a member does, and what becomes of
a function that is called at once to fill an object.
-/

namespace Restyle
namespace Script

deriving instance ReflBEq, LawfulBEq for Utf16
deriving instance ReflBEq, LawfulBEq for Key

/-! ## The texts of numbers -/

namespace Numeral

theorem exists_digitsOf (n : Nat) : ∃ d ds, digitsOf n = d :: ds ∧ d.isDigit = true := by
  obtain ⟨d, ds, hds⟩ := List.exists_cons_of_ne_nil (Nat.toDigits_ne_nil (n := n) (b := 10))
  exact ⟨d, ds, hds, Nat.isDigit_of_mem_toDigits (b := 10) (n := n) (by decide) (by decide) (hds ▸ List.mem_cons_self ..)⟩

/-- The text of a number that is not negative begins with a digit. -/
theorem exists_magnitude (x : Float) : ∃ d ds, magnitude x = d :: ds ∧ d.isDigit = true := by
  have hpositional : ∀ n point, ∃ d ds, positional (digitsOf n) point = d :: ds ∧ d.isDigit = true := by
    intro n point
    obtain ⟨d, ds, hds, hd⟩ := exists_digitsOf n
    rw [hds]
    unfold positional
    dsimp only
    split
    · exact ⟨_, _, rfl, hd⟩
    · split
      · rename_i hpoint
        obtain ⟨k, hk⟩ : ∃ k, point.toNat = k + 1 := ⟨point.toNat - 1, by omega⟩
        rw [hk]
        exact ⟨_, _, rfl, hd⟩
      · exact ⟨_, _, rfl, rfl⟩
  have hscientific : ∀ n e, ∃ d ds, scientific (digitsOf n) e = d :: ds ∧ d.isDigit = true := by
    intro n e
    obtain ⟨d, ds, hds, hd⟩ := exists_digitsOf n
    rw [hds]
    exact ⟨_, _, rfl, hd⟩
  unfold magnitude
  dsimp only
  split
  · exact exists_digitsOf _
  · split
    · exact hpositional _ _
    · exact hscientific _ _

/-- The text of a number that is a number begins with a digit, with or without a sign. -/
theorem text_ne {s : String} (hnan : s ≠ "NaN") (hinfinity : s ≠ "Infinity")
    (hhead : s.toList.head?.any (fun c => c.isDigit || c == '-') = false) (x : Float) : text x ≠ s := by
  rintro rfl
  obtain ⟨d, ds, hds, hd⟩ := exists_magnitude x.abs
  unfold text signed at hnan hinfinity hhead
  split at hhead
  · rename_i h
    exact hnan (if_pos h)
  · rename_i h
    rw [if_neg h] at hinfinity
    split at hhead
    · rename_i h'
      exact hinfinity (if_pos h')
    · split at hhead
      · cases hhead
      · split at hhead
        · rw [String.toList_ofList] at hhead
          cases hhead
        · rw [String.toList_ofList, hds, List.head?_cons, Option.any_some, hd] at hhead
          cases hhead

end Numeral

/-! ## Objects with plain members -/

namespace Obj

variable {o : Obj} {k k' : Key} {s : Slot} {v : Value}

/-- An object to which members can be added, and that has no others than such. -/
structure IsPlain (o : Obj) : Prop where
  kind : o.kind = .ordinary
  extensible : o.extensible = true
  plain : ∀ k s, o.own? k = some s → ∃ v, s = .plain v

theorem own?_ordinary (hkind : o.kind = .ordinary) (k : Key) : o.own? k = o.stored? k := by
  rw [own?, hkind]

/-- Properties with one in place of that of the same key, or at the end. -/
def placed (k : Key) (s : Slot) (props : List (Key × Slot)) : List (Key × Slot) :=
  match props.findIdx? (·.1 == k) with
  | some i => props.modify i fun _ => (k, s)
  | none => props ++ [(k, s)]

theorem placed_cons (k : Key) (s : Slot) (e : Key × Slot) (props : List (Key × Slot)) :
    placed k s (e :: props) = if e.1 == k then (k, s) :: props else e :: placed k s props := by
  simp only [placed, List.findIdx?_cons]
  cases e.1 == k with
  | true => rfl
  | false => cases props.findIdx? (·.1 == k) <;> rfl

theorem find?_placed (props : List (Key × Slot)) (k k' : Key) (s : Slot) :
    ((placed k s props).find? (·.1 == k')).map (·.2) =
      if k == k' then some s else (props.find? (·.1 == k')).map (·.2) := by
  induction props with
  | nil =>
    show (List.find? (·.1 == k') [(k, s)]).map (·.2) = _
    cases h : k == k' <;> simp [h]
  | cons e props ih =>
    rw [placed_cons]
    cases he : e.1 == k with
    | true =>
      rw [if_pos rfl]
      cases h : k == k' <;> simp [h, eq_of_beq he]
    | false =>
      rw [if_neg Bool.false_ne_true]
      cases he' : e.1 == k' with
      | true =>
        have h : (k == k') = false := by
          rw [beq_eq_false_iff_ne] at he ⊢
          rintro rfl
          exact he (eq_of_beq he')
        simp [he', h]
      | false => simpa [he'] using ih

theorem props_store (o : Obj) (k : Key) (s : Slot) : (o.store k s).props.toList = placed k s o.props.toList := by
  obtain ⟨parent, kind, ⟨props⟩, extensible, fixed⟩ := o
  simp only [store, placed, List.findIdx?_toArray]
  cases props.findIdx? (·.1 == k) with
  | none => simp
  | some i => simp

theorem stored?_store (o : Obj) (k k' : Key) (s : Slot) :
    (o.store k s).stored? k' = if k == k' then some s else o.stored? k' := by
  rw [stored?, stored?, ← Array.find?_toList, ← Array.find?_toList, props_store, find?_placed]

theorem store_kind (o : Obj) (k : Key) (s : Slot) : (o.store k s).kind = o.kind := by
  simp only [store]
  split <;> rfl

theorem store_parent (o : Obj) (k : Key) (s : Slot) : (o.store k s).parent = o.parent := by
  simp only [store]
  split <;> rfl

theorem store_extensible (o : Obj) (k : Key) (s : Slot) : (o.store k s).extensible = o.extensible := by
  simp only [store]
  split <;> rfl

theorem own?_store (hkind : o.kind = .ordinary) (k k' : Key) (s : Slot) :
    (o.store k s).own? k' = if k == k' then some s else o.own? k' := by
  rw [own?_ordinary ((store_kind o k s).trans hkind), own?_ordinary hkind, stored?_store]

theorem define_ordinary (hkind : o.kind = .ordinary) (k : Key) (s : Slot) : o.define k s = o.store k s := by
  rw [define, isArray, hkind]

theorem IsPlain.store (h : o.IsPlain) (k : Key) (v : Value) : (o.store k (.plain v)).IsPlain where
  kind := (store_kind o k _).trans h.kind
  extensible := (store_extensible o k _).trans h.extensible
  plain k' s hs := by
    rw [own?_store h.kind] at hs
    split at hs
    · exact ⟨v, (Option.some.inj hs).symm⟩
    · exact h.plain k' s hs

end Obj
/-! ## Assignments to members -/

/-- The root of all objects, as far as assignments care: what it has can be assigned over. -/
structure Obj.IsRoot (o : Obj) : Prop where
  isProxy : o.isProxy = false
  parent : o.parent = none
  writable : ∀ (k : Key) s, k ≠ "__proto__" → o.own? k = some s → s.isData = true ∧ s.writable = true

namespace Machine

variable {m : Machine} {ref : Nat} {o o' : Obj}

/-- The machine with another object at a place. -/
def withObj (m : Machine) (ref : Nat) (o : Obj) : Machine := { m with heap := m.heap.modify ref fun _ => o }

theorem heap_withObj (href : ref < m.heap.size) : (m.withObj ref o).heap[ref]? = some o := by
  have hsize : ref < (m.heap.modify ref fun _ => o).size := by rwa [Array.size_modify]
  rw [withObj, Array.getElem?_eq_getElem hsize, Array.getElem_modify, if_pos rfl]

theorem heap_withObj_of_ne {ref' : Nat} (hne : ref ≠ ref') : (m.withObj ref o).heap[ref']? = m.heap[ref']? := by
  by_cases hlt : ref' < m.heap.size
  · have hsize : ref' < (m.heap.modify ref fun _ => o).size := by rwa [Array.size_modify]
    rw [withObj, Array.getElem?_eq_getElem hsize, Array.getElem_modify, if_neg hne, Array.getElem?_eq_getElem hlt]
  · rw [Array.getElem?_eq_none (by rw [withObj, Array.size_modify]; omega), Array.getElem?_eq_none (by omega)]

/-- Changing an object that was put there puts the changed one there. -/
theorem modify_withObj (m : Machine) (ref : Nat) (o : Obj) (f : Obj → Obj) :
    { m.withObj ref o with heap := (m.withObj ref o).heap.modify ref f } = m.withObj ref (f o) := by
  have hheap : (m.withObj ref o).heap.modify ref f = (m.withObj ref (f o)).heap := by
    refine Array.ext (by simp [withObj]) fun i h₁ h₂ => ?_
    simp only [withObj, Array.getElem_modify]
    split <;> rfl
  rw [hheap]
  rfl

end Machine

namespace Run

open Machine

variable {m : Machine} {h : Host} {ref scope : Nat} {o root : Obj} {k : Key} {v : Value} {n : String}

theorem setPlain_plain (href : ref < m.heap.size) (hne : ref ≠ Ref.objectProto) (ho : o.IsPlain)
    (hparent : o.parent = some Ref.objectProto) (hroot : m.heap[Ref.objectProto]? = some root)
    (hr : root.IsRoot) (hk : k ≠ "__proto__") :
    setPlain ref k v (m.withObj ref o) = .ok true (m.withObj ref (o.store k (.plain v))) := by
  have hproxy : o.isProxy = false := by rw [Obj.isProxy, ho.kind]
  have harray : o.isArray = false := by rw [Obj.isArray, ho.kind]
  have hgrows : canGrow o k = true := by simp [canGrow, ho.extensible, ho.kind]
  have hroot' : (m.withObj ref o).heap[Ref.objectProto]? = some root := by rw [heap_withObj_of_ne hne, hroot]
  have hfind : findSlot k (m.withObj ref o).heap chainBound Ref.objectProto =
      ((root.own? k).map Found.slot).getD .absent := by
    show findSlot k _ (9999 + 1) _ = _
    rw [findSlot, hroot']
    simp only [hr.isProxy, hr.parent]
    cases root.own? k <;> rfl
  have hfits : ∀ s, root.own? k = some s → (s.isData && s.writable) = true := by
    intro s hs
    obtain ⟨hdata, hwritable⟩ := hr.writable k s hk hs
    rw [hdata, hwritable]
    rfl
  have hdefine : { m.withObj ref o with heap := (m.withObj ref o).heap.modify ref (·.define k (.plain v)) } =
      m.withObj ref (o.store k (.plain v)) := by
    rw [modify_withObj, Obj.define_ordinary ho.kind]
  unfold setPlain
  rw [heap_withObj href]
  simp only [hproxy, hparent, hfind, harray, hgrows]
  cases hs : o.own? k with
  | none =>
    cases hs' : root.own? k with
    | none => exact congrArg (EStateM.Result.ok true) hdefine
    | some s =>
      simp only [Option.map_some, Option.getD_some, hfits s hs']
      exact congrArg (EStateM.Result.ok true) hdefine
  | some s =>
    obtain ⟨v', rfl⟩ := ho.plain k s hs
    exact congrArg (EStateM.Result.ok true) hdefine

/-! ## Statements that fill an object -/

theorem bind_ok {α β : Type} {r : Run α} {f : α → Run β} {a : α} {m m' : Machine} (hr : r m = .ok a m') :
    (r >>= f) m = f a m' := by
  show EStateM.bind r f m = _
  rw [EStateM.bind, hr]

theorem bind_error {α β : Type} {r : Run α} {f : α → Run β} {e : Stop} {m m' : Machine}
    (hr : r m = .error e m') : (r >>= f) m = .error e m' := by
  show EStateM.bind r f m = _
  rw [EStateM.bind, hr]

/-- Where a variable is that can be seen from a scope, and the variable. -/
structure IsVariableAt (scopes : Array Scope) (scope : Nat) (x : String) (id i : Nat) (a : Variable) : Prop where
  isFound : findVariable x scopes (scope + 1) scope = some (id, i)
  isThere : (scopes[id]?).bind (·.cells[i]?) = some a

theorem lookup?_ok {x : String} {id i : Nat} {a : Variable} (hx : IsVariableAt m.scopes scope x id i a) :
    lookup? scope x m = .ok (some a) m := by
  rw [lookup?, hx.isFound]
  dsimp only
  rw [hx.isThere]

/-- Does a variable that can be seen from a scope hold the value? -/
def Holds (scopes : Array Scope) (scope : Nat) (x : String) (v : Value) : Prop :=
  ∃ id i mutable, IsVariableAt scopes scope x id i { name := x, value := some v, mutable }

theorem readVariable_ok {x : String} (hx : Holds m.scopes scope x v) : readVariable scope x m = .ok v m := by
  obtain ⟨id, i, mutable, hx⟩ := hx
  rw [readVariable, bind_ok (lookup?_ok hx)]
  rfl

theorem expr_name {x : String} (hx : Holds m.scopes scope x v) : expr h scope (.name x) m = .ok v m :=
  readVariable_ok hx

theorem expr_binary {o : FlagOp} {a b : Expr} {x y : Float} (ha : expr h scope a m = .ok (.number x) m)
    (hb : expr h scope b m = .ok (.number y) m) :
    expr h scope (.binary o.operator a b) m = .ok (.number (o.apply x y)) m := by
  have hbinary : expr h scope (.binary o.operator a b) =
      expr h scope a >>= fun x => expr h scope b >>= fun y => binary h o.operator x y := by
    cases o <;> rfl
  rw [hbinary, bind_ok ha, bind_ok hb]
  cases o <;> rfl

/-- **Flags are worth what they should be**, whatever variables and objects there are. -/
theorem expr_flags {e : Flags} {x : Float} (hx : e.value? = some x) :
    expr h scope e.expr m = .ok (.number x) m := by
  induction e generalizing x with
  | number n =>
    cases hx
    rfl
  | negative n =>
    cases hx
    rfl
  | name y => cases hx
  | binary o a b iha ihb =>
    simp only [Flags.value?, Option.bind_eq_bind, Option.bind_eq_some_iff] at hx
    obtain ⟨xa, ha, xb, hb, heq⟩ := hx
    cases heq
    exact expr_binary (iha ha) (ihb hb)

/-- The run throws an error that there is no such variable. -/
def Misses {α : Type} (r : Run α) (m : Machine) : Prop :=
  ∃ (e : Nat) (m' : Machine) (o : Obj), r m = .error (.thrown (.object e)) m' ∧ m'.heap[e]? = some o ∧
    o.kind = .error .reference

namespace Misses

variable {α β : Type} {r : Run α} {f : α → Run β} {m' : Machine}

theorem bind (hr : Misses r m) : Misses (r >>= f) m := by
  obtain ⟨e, m', o, hr, ho⟩ := hr
  exact ⟨e, m', o, bind_error hr, ho⟩

theorem bind_ok {a : α} (hr : r m = .ok a m') (hf : Misses (f a) m') : Misses (r >>= f) m := by
  rwa [Misses, Run.bind_ok hr]

theorem raise (message : String) (m : Machine) : Misses (Run.raise .reference message : Run α) m :=
  ⟨m.heap.size, _, _, rfl, Array.getElem?_push_size, rfl⟩

end Misses

/-- From a scope no other variables are seen than those of these names. -/
def SeesOnly (scopes : Array Scope) (scope : Nat) (names : List String) : Prop :=
  ∀ x ∉ names, findVariable x scopes (scope + 1) scope = none

theorem expr_name_misses {names : List String} {x : String} (hs : SeesOnly m.scopes scope names) (hx : x ∉ names) :
    Misses (expr h scope (.name x)) m := by
  have hlookup : lookup? scope x m = .ok none m := by
    rw [lookup?, hs x hx]
  exact Misses.bind_ok hlookup (.raise _ m)

/-- **Flags in which a name stands throw**, where no such variable is seen. -/
theorem expr_flags_misses {names : List String} {e : Flags} (hs : SeesOnly m.scopes scope names) (hne : e.names ≠ [])
    (hnames : ∀ x ∈ e.names, x ∉ names) : Misses (expr h scope e.expr) m := by
  induction e with
  | number n => exact absurd rfl hne
  | negative n => exact absurd rfl hne
  | name x => exact expr_name_misses hs (hnames x (List.mem_singleton_self x))
  | binary o a b iha ihb =>
    have hbinary : expr h scope (Flags.binary o a b).expr =
        expr h scope a.expr >>= fun x => expr h scope b.expr >>= fun y => binary h o.operator x y := by
      cases o <;> rfl
    obtain ⟨hnames, hnames'⟩ := List.forall_mem_append.mp hnames
    rw [hbinary]
    by_cases ha : a.names = []
    · obtain ⟨x, hx⟩ := Flags.exists_value ha
      have hb : b.names ≠ [] := fun hb => hne (List.append_eq_nil_iff.mpr ⟨ha, hb⟩)
      exact .bind_ok (expr_flags hx) (ihb hb hnames').bind
    · exact (iha ha hnames).bind

/-- An object that is being filled, in a variable: members can be assigned to it. -/
structure IsFilling (m : Machine) (scope : Nat) (n : String) (ref : Nat) : Prop where
  holds : Holds m.scopes scope n (.object ref)
  isThere : ref < m.heap.size
  ne_root : ref ≠ Ref.objectProto
  root : ∃ root : Obj, m.heap[Ref.objectProto]? = some root ∧ root.IsRoot

theorem setMember_plain (hf : IsFilling m scope n ref) (ho : o.IsPlain)
    (hparent : o.parent = some Ref.objectProto) (s : Utf16) (hs : s ≠ .whole "__proto__") :
    setMember h (.object ref) (.name s) v (m.withObj ref o) =
      .ok () (m.withObj ref (o.store (.name s) (.plain v))) := by
  obtain ⟨root, hroot, hr⟩ := hf.root
  have hk : Key.name s ≠ "__proto__" := fun heq => hs (Key.name.inj heq)
  show (do
    if ← setPlain ref (.name s) v then return
    unless ← setFor h ref (.name s) v (.object ref) do typeError "cannot set property") _ = _
  rw [bind_ok (setPlain_plain hf.isThere hf.ne_root ho hparent hroot hr hk)]
  rfl

/-- `n[k] = v`, whose value is that of `v`. -/
def assignment (n : String) (k v : Expr) : Expr := .assign (.place (.member false (.name n) k)) v

theorem expr_assignment {k e : Expr} {key : Value} {s : Utf16} {o' : Obj}
    (hf : IsFilling m scope n ref) (ho' : o'.IsPlain) (hparent : o'.parent = some Ref.objectProto)
    (hk : expr h scope k (m.withObj ref o) = .ok key (m.withObj ref o'))
    (he : expr h scope e (m.withObj ref o') = .ok v (m.withObj ref o'))
    (hkey : keyOf h scope k key (m.withObj ref o') = .ok (.name s) (m.withObj ref o'))
    (hs : s ≠ .whole "__proto__") :
    expr h scope (assignment n k e) (m.withObj ref o) = .ok v (m.withObj ref (o'.store (.name s) (.plain v))) := by
  have hbase : expr h scope (.name n) (m.withObj ref o) = .ok (.object ref) (m.withObj ref o) :=
    expr_name hf.holds
  show (do
    let base ← expr h scope (.name n)
    let key ← expr h scope k
    let v ← expr h scope e
    setMember h base (← keyOf h scope k key) v
    return v) _ = _
  rw [bind_ok hbase, bind_ok hk, bind_ok he, bind_ok hkey, bind_ok (setMember_plain hf ho' hparent s hs)]
  rfl

/-- `n[k] = s;`, for a string. -/
def textStatement (n : String) (k s : Utf16) : Stmt := .expression (assignment n (.string k) (.string s))

/-- `n[n[k] = e] = k;`, for a number: it is mapped to, and mapped back. -/
def numberStatement (n : String) (k : Utf16) (e : Expr) : Stmt :=
  .expression (assignment n (assignment n (.string k) e) (.string k))

theorem stmt_text (hf : IsFilling m scope n ref) (ho : o.IsPlain) (hparent : o.parent = some Ref.objectProto)
    {k : Utf16} (hk : k ≠ .whole "__proto__") (s : Utf16) :
    stmt h scope [] (textStatement n k s) (m.withObj ref o) =
      .ok .next (m.withObj ref (o.store (.name k) (.plain (.string s)))) := by
  have hassigned : expr h scope (assignment n (.string k) (.string s)) (m.withObj ref o) = _ :=
    expr_assignment hf ho hparent rfl rfl rfl hk
  show (do
    let _ ← expr h scope (assignment n (.string k) (.string s))
    return Flow.next) _ = _
  rw [bind_ok hassigned]
  rfl

theorem stmt_number (hf : IsFilling m scope n ref) (ho : o.IsPlain) (hparent : o.parent = some Ref.objectProto)
    {k : Utf16} (hk : k ≠ .whole "__proto__") {e : Expr} {x : Float}
    (he : expr h scope e (m.withObj ref o) = .ok (.number x) (m.withObj ref o)) :
    stmt h scope [] (numberStatement n k e) (m.withObj ref o) =
      .ok .next (m.withObj ref ((o.store (.name k) (.plain (.number x))).store (.name (Numeral.text x))
        (.plain (.string k)))) := by
  have hinner : expr h scope (assignment n (.string k) e) (m.withObj ref o) = _ :=
    expr_assignment hf ho hparent rfl he rfl hk
  have hstored := ho.store (.name k) (.number x)
  have houter : expr h scope (assignment n (assignment n (.string k) e) (.string k)) (m.withObj ref o) = _ :=
    expr_assignment hf hstored ((Obj.store_parent o _ _).trans hparent) hinner rfl rfl
      fun heq => Numeral.text_ne (by decide) (by decide) rfl x (Utf16.whole.inj heq)
  show (do
    let _ ← expr h scope (assignment n (assignment n (.string k) e) (.string k))
    return Flow.next) _ = _
  rw [bind_ok houter]
  rfl

/-- A number that misses a variable is assigned to nothing. -/
theorem stmt_number_misses (hf : IsFilling m scope n ref) (k : Utf16) {e : Expr}
    (he : Misses (expr h scope e) (m.withObj ref o)) :
    Misses (stmt h scope [] (numberStatement n k e)) (m.withObj ref o) := by
  have hbase : expr h scope (.name n) (m.withObj ref o) = .ok (.object ref) (m.withObj ref o) :=
    expr_name hf.holds
  have hkey : expr h scope (.string k) (m.withObj ref o) = .ok (.string k) (m.withObj ref o) := rfl
  have hinner : Misses (expr h scope (assignment n (.string k) e)) (m.withObj ref o) :=
    .bind_ok hbase (.bind_ok hkey he.bind)
  have houter : Misses (expr h scope (assignment n (assignment n (.string k) e) (.string k))) (m.withObj ref o) :=
    .bind_ok hbase hinner.bind
  exact houter.bind

/-! ## Statements one after the other -/

/-- The statements make one object of another, whatever there is besides. -/
def Fills (n : String) (o : Obj) (ss : List Stmt) (o' : Obj) : Prop :=
  ∀ (h : Host) (m : Machine) (scope ref : Nat), IsFilling m scope n ref →
    stmts h scope ss (m.withObj ref o) = .ok .next (m.withObj ref o')

/-- While an object is filled, the expression is a number, and that is all. -/
def Counts (n : String) (o : Obj) (e : Expr) (x : Float) : Prop :=
  ∀ (h : Host) (m : Machine) (scope ref : Nat), IsFilling m scope n ref →
    expr h scope e (m.withObj ref o) = .ok (.number x) (m.withObj ref o)

theorem stmts_append {ss ss' : List Stmt} {m' : Machine} (hss : stmts h scope ss m = .ok .next m') :
    stmts h scope (ss ++ ss') m = stmts h scope ss' m' := by
  induction ss generalizing m with
  | nil =>
    cases hss
    rfl
  | cons s ss ih =>
    have hstep : ∀ rest, stmts h scope (s :: rest) = stmt h scope [] s >>= fun flow =>
        if isNext flow then stmts h scope rest else return flow := fun _ => rfl
    rw [List.cons_append, hstep]
    rw [hstep] at hss
    cases hs : stmt h scope [] s m with
    | error e m₁ =>
      rw [bind_error hs] at hss
      cases hss
    | ok flow m₁ =>
      rw [bind_ok hs] at hss ⊢
      cases flow with
      | next => exact ih hss
      | _ => cases hss

theorem Counts.flags (n : String) (o : Obj) {e : Flags} {x : Float} (hx : e.value? = some x) :
    Counts n o e.expr x :=
  fun _ _ _ _ _ => expr_flags hx

/-- One more than a member of a variable. -/
def successor (n : String) (k : Expr) : Expr :=
  .binary .add (.member false (.name n) k) (.number (Numeral.nearest 1))

theorem Counts.successor (ho : o.IsPlain) {k : Utf16} {x : Float} (hk : o.own? (.name k) = some (.plain (.number x))) :
    Counts n o (successor n (.string k)) (x + Numeral.nearest 1) := by
  intro h m scope ref hf
  have hproxy : o.isProxy = false := by rw [Obj.isProxy, ho.kind]
  have hmember : expr h scope (.member false (.name n) (.string k)) (m.withObj ref o) =
      .ok (.number x) (m.withObj ref o) := by
    have hbase : expr h scope (.name n) (m.withObj ref o) = .ok (.object ref) (m.withObj ref o) :=
      expr_name hf.holds
    exact (bind_ok hbase).trans (reads_getProp (heap_withObj hf.isThere) hproxy hk _ rfl)
  exact expr_binary (o := .add) hmember rfl

namespace Fills

theorem nil (n : String) (o : Obj) : Fills n o [] o := fun _ _ _ _ _ => rfl

theorem cons {s : Stmt} {ss : List Stmt} {o o' o'' : Obj}
    (hs : ∀ (h : Host) (m : Machine) (scope ref : Nat), IsFilling m scope n ref →
      stmt h scope [] s (m.withObj ref o) = .ok .next (m.withObj ref o'))
    (hss : Fills n o' ss o'') : Fills n o (s :: ss) o'' :=
  fun h m scope ref hf => (bind_ok (hs h m scope ref hf)).trans (hss h m scope ref hf)

end Fills

end Run

end Script
end Restyle
