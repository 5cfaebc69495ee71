import Restyle.Component.View
import Restyle.Proofs.Script.Calls

/-!
# Restyle.Proofs.Component.Surroundings

Contexts in a machine, and the providers that stand around a place in a tree of elements.

A context holds its value in a property, which a provider changes while what is inside it is
rendered. `Machine.within` is a machine with the values that are seen from a place, and `Yields` is
said of a run that has one outcome wherever these values are seen, and loses nothing of what there
was. A provider that sets a value and puts the former one back behind such a run yields what the run
yields inside it (`Yields.provided`).
-/

namespace Restyle
namespace Script

/-! ## Properties that are stored again -/

namespace Obj

variable {o : Obj} {k : Key} {s s' : Slot} {v w : Value}

theorem placed_placed (k : Key) (s s' : Slot) (props : List (Key × Slot)) :
    placed k s' (placed k s props) = placed k s' props := by
  induction props with
  | nil => simp [placed]
  | cons e props ih =>
    rw [placed_cons k s]
    cases he : e.1 == k with
    | true => simp [placed_cons, he]
    | false => simp [placed_cons, he, ih]

theorem placed_self {props : List (Key × Slot)}
    (hs : (props.find? (·.1 == k)).map (·.2) = some s) : placed k s props = props := by
  induction props with
  | nil => cases hs
  | cons e props ih =>
    rw [placed_cons]
    rw [List.find?_cons] at hs
    cases he : e.1 == k with
    | true =>
      rw [he, Option.map_some] at hs
      rw [if_pos rfl, ← eq_of_beq he, ← Option.some.inj hs]
    | false =>
      rw [he] at hs
      rw [if_neg Bool.false_ne_true, ih hs]

theorem store_eq (o : Obj) (k : Key) (s : Slot) :
    o.store k s = { o with props := (placed k s o.props.toList).toArray } := by
  rw [← props_store]
  obtain ⟨parent, kind, props, extensible, fixed⟩ := o
  simp only [store]
  split <;> rfl

theorem store_store (o : Obj) (k : Key) (s s' : Slot) : (o.store k s).store k s' = o.store k s' := by
  simp only [store_eq, placed_placed]

theorem store_self (hs : o.stored? k = some s) : o.store k s = o := by
  rw [stored?, ← Array.find?_toList] at hs
  rw [store_eq, placed_self hs]

/-! ## The value of a context -/

/-- The value that a context has, if the object is one. -/
def current? (o : Obj) : Option Value :=
  match o.kind, o.own? "currentValue" with
  | .ordinary, some ⟨.data v, true, true, true⟩ => some v
  | _, _ => none

/-- The object with another value, if it is a context. -/
def withCurrent (o : Obj) (v : Value) : Obj :=
  if o.current?.isSome then o.store "currentValue" (.plain v) else o

theorem current?_eq_some_iff :
    o.current? = some v ↔ o.kind = .ordinary ∧ o.own? "currentValue" = some (.plain v) := by
  unfold current?
  constructor
  · intro h
    split at h
    · rename_i hkind hown
      cases h
      exact ⟨hkind, hown⟩
    · cases h
  · rintro ⟨hkind, hown⟩
    rw [hkind, hown]
    rfl

theorem withCurrent_of_some (hw : o.current? = some w) (v : Value) :
    o.withCurrent v = o.store "currentValue" (.plain v) := by
  rw [withCurrent, hw, Option.isSome_some, if_pos rfl]

theorem withCurrent_of_none (hnone : o.current? = none) (v : Value) : o.withCurrent v = o := by
  rw [withCurrent, hnone, Option.isSome_none, if_neg Bool.false_ne_true]

theorem current?_withCurrent (hw : o.current? = some w) (v : Value) :
    (o.withCurrent v).current? = some v := by
  obtain ⟨hkind, -⟩ := current?_eq_some_iff.mp hw
  rw [withCurrent_of_some hw, current?_eq_some_iff, store_kind, own?_store hkind]
  exact ⟨hkind, rfl⟩

theorem withCurrent_kind (o : Obj) (v : Value) : (o.withCurrent v).kind = o.kind := by
  unfold withCurrent
  split
  · exact store_kind ..
  · rfl

theorem withCurrent_parent (o : Obj) (v : Value) : (o.withCurrent v).parent = o.parent := by
  unfold withCurrent
  split
  · exact store_parent ..
  · rfl

theorem withCurrent_isProxy (o : Obj) (v : Value) : (o.withCurrent v).isProxy = o.isProxy := by
  rw [isProxy, withCurrent_kind, isProxy]

/-- The other members stay as they are. -/
theorem own?_withCurrent (hk : ("currentValue" == k) = false) (v : Value) :
    (o.withCurrent v).own? k = o.own? k := by
  cases hw : o.current? with
  | none => rw [withCurrent_of_none hw]
  | some w =>
    rw [withCurrent_of_some hw, own?_store (current?_eq_some_iff.mp hw).1, hk, if_neg Bool.false_ne_true]

/-- Another member leaves the value of a context alone. -/
theorem current?_define (hv : o.current? = some v) (hk : (k == "currentValue") = false) (s : Slot) :
    (o.define k s).current? = some v := by
  obtain ⟨hkind, hown⟩ := current?_eq_some_iff.mp hv
  rw [define_ordinary hkind, current?_eq_some_iff, store_kind, own?_store hkind, hk,
    if_neg Bool.false_ne_true]
  exact ⟨hkind, hown⟩

theorem withCurrent_withCurrent (o : Obj) (v w : Value) :
    (o.withCurrent v).withCurrent w = o.withCurrent w := by
  cases h : o.current? with
  | none => rw [withCurrent_of_none h]
  | some u =>
    rw [withCurrent_of_some (current?_withCurrent h v), withCurrent_of_some h, withCurrent_of_some h,
      store_store]

theorem withCurrent_self (hv : o.current? = some v) : o.withCurrent v = o := by
  obtain ⟨hkind, hown⟩ := current?_eq_some_iff.mp hv
  rw [withCurrent_of_some hv, store_self]
  rwa [own?_ordinary hkind] at hown

end Obj

/-! ## Machines that lose nothing -/

namespace Machine

variable {m m' m'' : Machine} {c : Nat} {o : Obj} {v w : Value}

/-- All that a machine holds is in another machine as it was. -/
structure Kept (m m' : Machine) : Prop where
  heap : ∀ (i : Nat) o, m.heap[i]? = some o → m'.heap[i]? = some o
  scopes : ∀ (i : Nat) s, m.scopes[i]? = some s → m'.scopes[i]? = some s
  symbols : ∀ (i : Nat) v, m.symbols[i]? = some v → m'.symbols[i]? = some v
  registry : ∀ x id, m.registry.lookup x = some id → m'.registry.lookup x = some id
  names : ∀ id e, m.registry.find? (·.2 == id) = some e → m'.registry.find? (·.2 == id) = some e
  templates : ∀ site c, m.templates.lookup site = some c → m'.templates.lookup site = some c
  joining : m'.joining = m.joining
  bounds : m'.bounds = m.bounds

namespace Kept

theorem refl (m : Machine) : m.Kept m :=
  ⟨fun _ _ => id, fun _ _ => id, fun _ _ => id, fun _ _ => id, fun _ _ => id, fun _ _ => id, rfl, rfl⟩

theorem trans (h : m.Kept m') (h' : m'.Kept m'') : m.Kept m'' where
  heap i o ho := h'.heap i o (h.heap i o ho)
  scopes i s hs := h'.scopes i s (h.scopes i s hs)
  symbols i v hv := h'.symbols i v (h.symbols i v hv)
  registry x id hid := h'.registry x id (h.registry x id hid)
  names id e he := h'.names id e (h.names id e he)
  templates site c hc := h'.templates site c (h.templates site c hc)
  joining := h'.joining.trans h.joining
  bounds := h'.bounds.trans h.bounds

/-- What a frame counts is not held. -/
theorem counted (h : m.Kept m') (rounds stack rounds' stack' : Nat) :
    { m with rounds := rounds, stack := stack }.Kept { m' with rounds := rounds', stack := stack' } :=
  ⟨h.heap, h.scopes, h.symbols, h.registry, h.names, h.templates, h.joining, h.bounds⟩

/-- The same of machines with other objects. -/
theorem withHeap (h : m.Kept m') {heap heap' : Array Obj}
    (hheap : ∀ (i : Nat) o, heap[i]? = some o → heap'[i]? = some o) :
    { m with heap := heap }.Kept { m' with heap := heap' } :=
  ⟨hheap, h.scopes, h.symbols, h.registry, h.names, h.templates, h.joining, h.bounds⟩

/-- The same of machines with other scopes. -/
theorem withScopes (h : m.Kept m') {scopes scopes' : Array Scope}
    (hscopes : ∀ (i : Nat) s, scopes[i]? = some s → scopes'[i]? = some s) :
    { m with scopes := scopes }.Kept { m' with scopes := scopes' } :=
  ⟨h.heap, hscopes, h.symbols, h.registry, h.names, h.templates, h.joining, h.bounds⟩

theorem push (m : Machine) (o : Obj) : m.Kept { m with heap := m.heap.push o } :=
  (refl m).withHeap fun _ _ ho' => Run.getElem?_push_of_some ho' o

theorem size_le (h : m.Kept m') : m.heap.size ≤ m'.heap.size := by
  refine Nat.le_of_not_lt fun hlt => ?_
  have hlast := h.heap _ _ (Array.getElem?_eq_getElem hlt)
  exact Nat.lt_irrefl _ (Array.getElem?_eq_some_iff.mp hlast).1

end Kept

/-- The value that a context has, if there is one at the place. -/
def current? (m : Machine) (c : Nat) : Option Value := (m.heap[c]?).bind Obj.current?

/-- The machine whose contexts have the values that are seen. -/
def within (m : Machine) (seen : Nat → Value) : Machine :=
  { m with heap := m.heap.mapIdx fun i o => o.withCurrent (seen i) }

theorem heap_within (m : Machine) (seen : Nat → Value) (i : Nat) :
    (m.within seen).heap[i]? = (m.heap[i]?).map (·.withCurrent (seen i)) := Array.getElem?_mapIdx

theorem size_within (m : Machine) (seen : Nat → Value) : (m.within seen).heap.size = m.heap.size :=
  Array.size_mapIdx

theorem exists_of_current? (hv : m.current? c = some v) :
    ∃ o, m.heap[c]? = some o ∧ o.current? = some v := Option.bind_eq_some_iff.mp hv

theorem Kept.current? (h : m.Kept m') (hv : m.current? c = some v) : m'.current? c = some v := by
  obtain ⟨o, ho, hcurrent⟩ := exists_of_current? hv
  rw [Machine.current?, h.heap c o ho]
  exact hcurrent

end Machine

end Script

namespace Component

open Script Script.Run
open Script.Machine (Kept)

variable {α β : Type} {m m' m'' : Machine} {c : Nat} {o : Obj} {v w : Value} {h : Script.Host}

/-! ## What stands around a place -/

/-- The values of contexts where nothing provides them, and the providers around a place in a tree of
elements with their contexts and values, the nearest first. -/
structure Surroundings where
  defaults : Nat → Value
  providers : List (Nat × Value) := []

namespace Surroundings

variable {ρ : Surroundings}

/-- The value of a context that is seen: that of the nearest provider of it. -/
def value (ρ : Surroundings) (c : Nat) : Value := (ρ.providers.lookup c).getD (ρ.defaults c)

/-- What stands around a place inside another provider. -/
def inside (ρ : Surroundings) (c : Nat) (v : Value) : Surroundings :=
  { ρ with providers := (c, v) :: ρ.providers }

/-- The same in a later machine, where there are more contexts. -/
def since (ρ : Surroundings) (m m' : Machine) : Surroundings :=
  { ρ with defaults := fun c => if c < m.heap.size then ρ.defaults c else (m'.current? c).getD .undefined }

theorem value_inside (ρ : Surroundings) (c i : Nat) (v : Value) :
    (ρ.inside c v).value i = if i = c then v else ρ.value i := by
  unfold value inside
  rw [List.lookup_cons]
  by_cases hi : i = c
  · rw [if_pos hi, hi, beq_self_eq_true]
    rfl
  · rw [if_neg hi, beq_eq_false_iff_ne.mpr hi]

end Surroundings

/-- Where no provider stands around, contexts have the values that they have. -/
def outermost (m : Machine) : Surroundings := { defaults := fun c => (m.current? c).getD .undefined }

/-- A machine to which another one may come while something with these surroundings is rendered:
contexts have the values that are seen, and nothing else of it has changed. -/
structure IsLater (ρ : Surroundings) (m m' : Machine) : Prop where
  known : ∀ p ∈ ρ.providers, p.1 < m.heap.size
  kept : (m.within ρ.value).Kept m'

namespace IsLater

variable {ρ : Surroundings}

theorem trans_kept (hm : IsLater ρ m m') (hk : m'.Kept m'') : IsLater ρ m m'' :=
  ⟨hm.known, hm.kept.trans hk⟩

theorem counted (hm : IsLater ρ m m') (rounds stack : Nat) :
    IsLater ρ m { m' with rounds, stack } :=
  hm.trans_kept ((Kept.refl m').counted m'.rounds m'.stack rounds stack)

theorem heap (hm : IsLater ρ m m') {i : Nat} (ho : m.heap[i]? = some o) :
    m'.heap[i]? = some (o.withCurrent (ρ.value i)) := by
  refine hm.kept.heap i _ ?_
  rw [Machine.heap_within, ho, Option.map_some]

theorem size_le (hm : IsLater ρ m m') : m.heap.size ≤ m'.heap.size := by
  rw [← Machine.size_within m ρ.value]
  exact hm.kept.size_le

/-- In a later machine a context has the value that is seen. -/
theorem current? (hm : IsLater ρ m m') (hw : m.current? c = some w) :
    m'.current? c = some (ρ.value c) := by
  obtain ⟨o, ho, hcurrent⟩ := Machine.exists_of_current? hw
  rw [Machine.current?, hm.heap ho]
  exact Obj.current?_withCurrent hcurrent _

/-- A machine is kept as it is where contexts have the values that are seen. -/
theorem of_current? (hknown : ∀ p ∈ ρ.providers, p.1 < m.heap.size)
    (hρ : ∀ i v, m.current? i = some v → ρ.value i = v) : IsLater ρ m m := by
  refine ⟨hknown, (Kept.refl m).withHeap fun i o ho => ?_⟩
  rw [Array.getElem?_mapIdx] at ho
  obtain ⟨o', ho', rfl⟩ := Option.map_eq_some_iff.mp ho
  rw [ho']
  cases hv : o'.current? with
  | none => rw [Obj.withCurrent_of_none hv]
  | some v =>
    have hcurrent : m.current? i = some v := by rw [Machine.current?, ho', Option.bind_some, hv]
    rw [hρ i v hcurrent, Obj.withCurrent_self hv]

theorem outermost (m : Machine) : IsLater (outermost m) m m :=
  .of_current? (fun p hp => by cases hp) fun i v hv => by
    show (m.current? i).getD .undefined = v
    rw [hv, Option.getD_some]

/-- What is rendered later has the same around it. -/
theorem since (hm : IsLater ρ m m') (hk : m'.Kept m'') : IsLater (ρ.since m m'') m'' m'' := by
  have hsize := Nat.le_trans hm.size_le hk.size_le
  refine .of_current? (fun p hp => Nat.lt_of_lt_of_le (hm.known p hp) hsize) fun i v hv => ?_
  by_cases hi : i < m.heap.size
  · -- a context that there was: it has the value that is seen
    have hvalue : (ρ.since m m'').value i = ρ.value i := by
      simp only [Surroundings.value, Surroundings.since, if_pos hi]
    have ho := Array.getElem?_eq_getElem hi
    have hlater := hk.heap _ _ (hm.heap ho)
    rw [Machine.current?, hlater, Option.bind_some] at hv
    cases hcurrent : m.heap[i].current? with
    | none => rw [Obj.withCurrent_of_none hcurrent, hcurrent] at hv; cases hv
    | some w =>
      rw [Obj.current?_withCurrent hcurrent] at hv
      rw [hvalue, Option.some.inj hv]
  · -- a new context: nothing provides it
    have hnone : ρ.providers.lookup i = none := by
      rw [List.lookup_eq_none_iff]
      intro p hp
      have := hm.known p hp
      rw [bne_iff_ne]
      omega
    simp only [Surroundings.value, Surroundings.since, hnone, if_neg hi, Option.getD_none, hv,
      Option.getD_some]

end IsLater

/-! ## Runs with one outcome -/

/-- A run that ends from a machine as a script can see it, with a result or by throwing, loses nothing,
and the result, or that there is none, is as it should be. -/
def Ends (m : Machine) (good : α → Prop) (throws : Prop) : EStateM.Result Script.Stop Machine α → Prop
  | .ok a m' => m.Kept m' ∧ good a
  | .error (.thrown _) m' => m.Kept m' ∧ throws
  | .error _ _ => True

/-- With these surroundings the run gives the result, or throws if there is none. -/
def Yields (ρ : Surroundings) (m : Machine) (r : Run α) (result? : Option α) : Prop :=
  ∀ m', IsLater ρ m m' → Ends m' (fun a => result? = some a) (result? = none) (r m')

theorem Ends.after (hk : m.Kept m') {good : α → Prop} {throws : Prop}
    {result : EStateM.Result Script.Stop Machine α} (he : Ends m' good throws result) :
    Ends m good throws result := by
  unfold Ends at he ⊢
  split at he
  · exact ⟨hk.trans he.1, he.2⟩
  · exact ⟨hk.trans he.1, he.2⟩
  · exact he

/-- A run goes on from its result. -/
theorem Ends.bind {r : Run α} {f : α → Run β} {good : α → Prop} {good' : β → Prop}
    {throws throws' : Prop} (hr : Ends m good throws (r m)) (hthrows : throws → throws')
    (hf : ∀ a m', r m = .ok a m' → m.Kept m' → good a → Ends m' good' throws' (f a m')) :
    Ends m good' throws' ((r >>= f) m) := by
  cases hrun : r m with
  | ok a m' =>
    rw [hrun] at hr
    rw [bind_ok hrun]
    exact (hf a m' hrun hr.1 hr.2).after hr.1
  | error e m' =>
    rw [hrun] at hr
    rw [bind_error hrun]
    cases e with
    | thrown v => exact ⟨hr.1, hthrows hr.2⟩
    | _ => trivial

namespace Yields

variable {ρ : Surroundings} {r : Run α} {f : α → Run β} {a : α} {a? : Option α} {b? : Option β}

theorem pure (a : α) : Yields ρ m (pure a) (some a) := fun m' _ => ⟨Kept.refl m', rfl⟩

/-- A run that only looks at the objects. -/
theorem of_reads (hr : ∀ m', IsLater ρ m m' → r m' = .ok a m') : Yields ρ m r (some a) := by
  intro m' hm
  rw [hr m' hm]
  exact ⟨Kept.refl m', rfl⟩

theorem bind (hr : Yields ρ m r a?) (hnone : a? = none → b? = none)
    (hf : ∀ a, a? = some a → Yields ρ m (f a) b?) : Yields ρ m (r >>= f) b? :=
  fun m' hm => (hr m' hm).bind hnone fun a m'' _ hk ha => hf a ha m'' (hm.trans_kept hk)

theorem after (hr : Yields ρ m r (some a)) (hf : Yields ρ m (f a) b?) : Yields ρ m (r >>= f) b? :=
  hr.bind (fun h => by cases h) fun a' ha => by cases ha; exact hf

theorem throws (hr : Yields ρ m r none) : Yields ρ m (r >>= f) none :=
  hr.bind (fun _ => rfl) fun a ha => by cases ha

theorem bind_pure {g : α → β} (hr : Yields ρ m r a?) :
    Yields ρ m (r >>= fun a => Pure.pure (g a)) (a?.map g) := by
  refine hr.bind (fun h => by rw [h]; rfl) fun a ha => ?_
  rw [ha]
  exact .pure _

/-- A run that is given up, which no script sees. -/
theorem limit : Yields ρ m (throw .limit : Run α) a? := fun _ _ => trivial

theorem countRound : Yields ρ m countRound (some ()) := by
  intro m' _
  unfold Run.countRound
  split
  · trivial
  · exact ⟨(Kept.refl m').counted m'.rounds m'.stack _ _, rfl⟩

theorem framed (n : Nat) (hr : Yields ρ m r a?) : Yields ρ m (framed n r) a? := by
  intro m' hm
  unfold Run.framed
  split
  · trivial
  · have hends := hr _ (hm.counted 0 (m'.stack + n + frameSize))
    dsimp only
    cases hrun : r { m' with rounds := 0, stack := m'.stack + n + frameSize } with
    | ok a m'' =>
      rw [hrun] at hends
      exact ⟨hends.1.counted m'.rounds m'.stack m'.rounds m'.stack, hends.2⟩
    | error e m'' =>
      rw [hrun] at hends
      cases e with
      | thrown v => exact ⟨hends.1.counted m'.rounds m'.stack m'.rounds m'.stack, hends.2⟩
      | _ => trivial

/-- An error that is thrown is a new object. -/
theorem failure (message : Utf16) : Yields ρ m (View.failure message : Run α) none :=
  fun m' _ => ⟨Kept.push m' _, rfl⟩

end Yields

/-! ## Contexts -/

/-- What a context holds is its current value. -/
theorem getName_current (hv : m.current? c = some v) :
    getName h (.object c) "currentValue" m = .ok v m := by
  obtain ⟨o, ho, hcurrent⟩ := Machine.exists_of_current? hv
  obtain ⟨hkind, hown⟩ := Obj.current?_eq_some_iff.mp hcurrent
  exact reads_getProp ho (isProxy_of_ordinary hkind) hown m rfl

/-- A context takes any value. -/
theorem setProp_current (ho : m.heap[c]? = some o) (hw : o.current? = some w) (v : Value) :
    setProp h (.object c) "currentValue" v m = .ok () (m.withObj c (o.withCurrent v)) := by
  obtain ⟨hkind, hown⟩ := Obj.current?_eq_some_iff.mp hw
  have hset : setPlain c "currentValue" v m = .ok true (m.withObj c (o.withCurrent v)) := by
    have hmodify : { m with heap := m.heap.modify c (·.define "currentValue" (.plain v)) } =
        m.withObj c (o.withCurrent v) := by
      have hself := Machine.modify_withObj m c o (·.define "currentValue" (.plain v))
      rw [withObj_self ho] at hself
      rw [hself, Obj.define_ordinary hkind, Obj.withCurrent_of_some hw]
    unfold setPlain
    rw [ho]
    simp only [isProxy_of_ordinary hkind, hown, Obj.isArray, hkind]
    exact congrArg (EStateM.Result.ok true) hmodify
  show (do
    if ← setPlain c "currentValue" v then return
    unless ← setFor h c "currentValue" v (.object c) do typeError "cannot set property") m = _
  rw [bind_ok hset]
  rfl

/-- With the value that a provider sets, a later machine is one inside the provider. -/
theorem IsLater.provided {ρ : Surroundings} (hm : IsLater ρ m m') (hc : m.current? c = some w)
    (ho : m'.heap[c]? = some o) (v : Value) :
    IsLater (ρ.inside c v) m (m'.withObj c (o.withCurrent v)) := by
  have hlt : c < m.heap.size := by
    obtain ⟨o', ho', -⟩ := Machine.exists_of_current? hc
    exact (Array.getElem?_eq_some_iff.mp ho').1
  refine ⟨fun p hp => ?_, hm.kept.withHeap fun i o' ho' => ?_⟩
  · obtain rfl | hp := List.mem_cons.mp hp
    · exact hlt
    · exact hm.known p hp
  · rw [Array.getElem?_mapIdx] at ho'
    obtain ⟨o₀, ho₀, rfl⟩ := Option.map_eq_some_iff.mp ho'
    have hlater := hm.heap ho₀
    rw [Surroundings.value_inside]
    by_cases hi : i = c
    · subst hi
      obtain rfl := Option.some.inj (ho.symm.trans hlater)
      rw [if_pos rfl, Obj.withCurrent_withCurrent]
      exact Machine.heap_withObj (Array.getElem?_eq_some_iff.mp ho).1
    · rw [if_neg hi, ← hlater]
      exact Machine.heap_withObj_of_ne (Ne.symm hi)

/-- Nothing is lost when a context gets its former value back. -/
theorem kept_putBack (ho : m.heap[c]? = some o) (hw : o.current? = some w) {v : Value}
    (hk : (m.withObj c (o.withCurrent v)).Kept m') :
    ∃ m'', setProp h (.object c) "currentValue" w m' = .ok () m'' ∧ m.Kept m'' := by
  have hlt := (Array.getElem?_eq_some_iff.mp ho).1
  have ho' := hk.heap c _ (Machine.heap_withObj hlt)
  have hlt' := (Array.getElem?_eq_some_iff.mp ho').1
  refine ⟨_, setProp_current ho' (Obj.current?_withCurrent hw v) w, ?_⟩
  rw [Obj.withCurrent_withCurrent, Obj.withCurrent_self hw]
  refine hk.withHeap fun i o' hi => ?_
  by_cases hic : c = i
  · subst hic
    obtain rfl := Option.some.inj (ho.symm.trans hi)
    exact Machine.heap_withObj hlt'
  · show (m'.withObj c o).heap[i]? = some o'
    rw [Machine.heap_withObj_of_ne hic]
    refine hk.heap i o' ?_
    rw [Machine.heap_withObj_of_ne hic, hi]

/-- **What is inside a provider sees its value, and nothing else does**: when what is inside has
ended, also if it threw, the context has its former value. -/
theorem Yields.provided {ρ : Surroundings} {r : Run α} {a? : Option α} (hc : (m.current? c).isSome = true)
    (hr : Yields (ρ.inside c v) m r a?) :
    Yields ρ m (do
      setProp h (.object c) "currentValue" v
      andFinally r (setProp h (.object c) "currentValue" (ρ.value c))) a? := by
  intro m' hm
  obtain ⟨w, hw⟩ := Option.isSome_iff_exists.mp hc
  obtain ⟨o, ho, hcurrent⟩ := Machine.exists_of_current? (hm.current? hw)
  have hends := hr _ (hm.provided hw ho v)
  rw [bind_ok (setProp_current ho hcurrent v)]
  unfold andFinally
  cases hrun : r (m'.withObj c (o.withCurrent v)) with
  | ok a m₁ =>
    rw [hrun] at hends
    obtain ⟨m₂, hback, hkept⟩ := kept_putBack (h := h) ho hcurrent hends.1
    dsimp only
    rw [hback]
    exact ⟨hkept, hends.2⟩
  | error e m₁ =>
    rw [hrun] at hends
    cases e with
    | thrown x =>
      obtain ⟨m₂, hback, hkept⟩ := kept_putBack (h := h) ho hcurrent hends.1
      dsimp only
      rw [hback]
      exact ⟨hkept, hends.2⟩
    | _ => trivial

end Component
end Restyle
