import Restyle.Script.Iteration

/-!
# Restyle.Proofs.Script.Reads

Runs that only look at the objects of a machine. `Reads` is said of a run that gives a result
whatever the limits are, `Gives` of one that may be stopped by them: it gives the result unless it
runs short of something, and then it is stopped.
-/

namespace Restyle
namespace Script
namespace Run

variable {α β : Type} {H : Array Obj} {ok ok' : Prop} {n n' : Nat} {r : Run α} {f : α → Run β}
  {a : α} {b : β} {h : Host} {ref p : Nat} {o : Obj} {k : Key} {v : Value}

/-! ## Runs that change nothing -/

/-- With these objects the run gives a result and leaves the machine as it is. -/
def Reads (H : Array Obj) (r : Run α) (a : α) : Prop := ∀ m : Machine, m.heap = H → r m = .ok a m

namespace Reads

theorem pure (a : α) : Reads H (pure a) a := fun _ _ => rfl

theorem bind (hr : Reads H r a) (hf : Reads H (f a) b) : Reads H (r >>= f) b := by
  intro m hm
  show EStateM.bind r f m = _
  rw [EStateM.bind, hr m hm]
  exact hf m hm

theorem map {g : α → β} (hr : Reads H r a) : Reads H (g <$> r) (g a) := by
  rw [map_eq_pure_bind]
  exact hr.bind (.pure _)

theorem mapM {l : List α} {f : α → Run β} {g : α → β} (h : ∀ x ∈ l, Reads H (f x) (g x)) :
    Reads H (l.mapM f) (l.map g) := by
  induction l with
  | nil =>
    rw [List.mapM_nil]
    exact .pure _
  | cons x l ih =>
    rw [List.mapM_cons]
    exact (h x (List.mem_cons_self ..)).bind
      ((ih fun y hy => h y (List.mem_cons_of_mem _ hy)).bind (.pure _))

end Reads

theorem reads_obj (ho : H[ref]? = some o) : Reads H (obj ref) o := by
  rintro m rfl
  simp [obj, Array.getD_eq_getD_getElem?, ho]

/-! ## Properties -/

theorem isProxy_of_ordinary (hkind : o.kind = .ordinary) : o.isProxy = false := by
  rw [Obj.isProxy, hkind]

theorem own?_of_ordinary (hkind : o.kind = .ordinary) (name : String) :
    o.own? (.name (.whole name)) =
      (o.props.toList.find? fun e => e.1 == .name (.whole name)).map (·.2) := by
  rw [Obj.own?, hkind, Obj.stored?, Array.find?_toList]

/-- The keys of an object are its names in order, if none of them is an index. -/
theorem keys_of_names (hkind : o.kind = .ordinary) {names : List String}
    (hnames : o.props.toList.map (·.1) = names.map fun x => .name (.whole x))
    (hindex : ∀ x ∈ names, (Key.name (.whole x)).index? = none) :
    o.keys = names.map fun x => .name (.whole x) := by
  have hkey : ∀ e ∈ o.props.toList, ∃ x ∈ names, e.1 = .name (.whole x) := by
    intro e he
    have hmem : e.1 ∈ o.props.toList.map (·.1) := List.mem_map.mpr ⟨e, he, rfl⟩
    rw [hnames] at hmem
    obtain ⟨x, hx, heq⟩ := List.mem_map.mp hmem
    exact ⟨x, hx, heq.symm⟩
  have hnumbers : ∀ e ∈ o.props.toList, (e.1.index?.map fun i => (i, e.2)) = none := by
    intro e he
    obtain ⟨x, hx, heq⟩ := hkey e he
    simp [heq, hindex x hx]
  have htexts : ∀ e ∈ o.props.toList, (e.1.isText && e.1.index?.isNone) = true := by
    intro e he
    obtain ⟨x, hx, heq⟩ := hkey e he
    simp [heq, hindex x hx, Key.isText]
  have hsymbols : ∀ e ∈ o.props.toList, ¬ e.1.isSymbol = true := by
    intro e he
    obtain ⟨x, -, heq⟩ := hkey e he
    simp [heq, Key.isSymbol]
  unfold Obj.keys Obj.entries
  rw [hkind]
  dsimp only
  rw [List.filterMap_eq_nil_iff.mpr hnumbers, List.filter_eq_self.mpr htexts,
    List.filter_eq_nil_iff.mpr hsymbols]
  simp [hnames]

theorem findSlot_own (ho : H[ref]? = some o) (hproxy : o.isProxy = false) {s : Slot}
    (hs : o.own? k = some s) (fuel : Nat) : findSlot k H (fuel + 1) ref = .slot s := by
  rw [findSlot, ho]
  simp [hproxy, hs]

/-- What neither an object nor its parent has is absent, if there is no other parent. -/
theorem findSlot_absent (ho : H[ref]? = some o) (hproxy : o.isProxy = false) (hs : o.own? k = none)
    (hp : o.parent = some p) {o' : Obj} (ho' : H[p]? = some o') (hproxy' : o'.isProxy = false)
    (hs' : o'.own? k = none) (hp' : o'.parent = none) (fuel : Nat) :
    findSlot k H (fuel + 2) ref = .absent := by
  rw [findSlot, ho]
  simp only [hproxy, hs, hp, Bool.false_eq_true, if_false]
  rw [findSlot, ho']
  simp [hproxy', hs', hp']

theorem reads_find {found : Found} (hf : findSlot k H chainBound ref = found) :
    Reads H (find ref k) found := by
  rintro m rfl
  rw [find, hf]

theorem reads_getProp (ho : H[ref]? = some o) (hproxy : o.isProxy = false)
    (hs : o.own? k = some (.plain v)) : Reads H (getProp h (.object ref) k) v := by
  show Reads H (getOn h (9999 + 1) ref k (.object ref)) v
  rw [getOn]
  exact (reads_find (findSlot_own ho hproxy hs 9999)).bind (.pure v)

theorem reads_getProp_absent (ho : H[ref]? = some o) (hproxy : o.isProxy = false)
    (hs : o.own? k = none) (hp : o.parent = some p) {o' : Obj} (ho' : H[p]? = some o')
    (hproxy' : o'.isProxy = false) (hs' : o'.own? k = none) (hp' : o'.parent = none) :
    Reads H (getProp h (.object ref) k) .undefined := by
  show Reads H (getOn h (9999 + 1) ref k (.object ref)) .undefined
  rw [getOn]
  have hfind := findSlot_absent ho hproxy hs hp ho' hproxy' hs' hp' 9998
  exact (reads_find hfind).bind (.pure _)

theorem reads_ownSlot? (ho : H[ref]? = some o) (hproxy : o.isProxy = false) :
    Reads H (ownSlot? h ref k) (o.own? k) := by
  show Reads H (ownSlotOn h (9999 + 1) ref k) _
  rw [ownSlotOn]
  refine (reads_obj ho).bind ?_
  simp only [hproxy, Bool.not_false, if_true]
  exact .pure _

theorem reads_hasOwn (ho : H[ref]? = some o) (hproxy : o.isProxy = false) :
    Reads H (hasOwn h ref k) (o.own? k).isSome :=
  (reads_ownSlot? ho hproxy).bind (.pure _)

theorem reads_ownKeys (ho : H[ref]? = some o) (hproxy : o.isProxy = false) :
    Reads H (ownKeys h ref) o.keys := by
  show Reads H (ownKeysOn h (9999 + 1) ref) _
  rw [ownKeysOn]
  refine (reads_obj ho).bind ?_
  simp only [hproxy, Bool.not_false, if_true]
  exact .pure _

/-! ## What objects are -/

theorem reads_isCallable_ordinary (ho : H[ref]? = some o) (hkind : o.kind = .ordinary) :
    Reads H (isCallable (.object ref)) false := by
  refine (reads_obj ho).bind ?_
  rw [hkind]
  exact .pure _

theorem reads_isArray_ordinary (ho : H[ref]? = some o) (hkind : o.kind = .ordinary) :
    Reads H (isArray (.object ref)) false := by
  show Reads H (isArrayWithin (9999 + 1) (.object ref)) _
  rw [isArrayWithin]
  refine (reads_obj ho).bind ?_
  rw [hkind]
  exact .pure _

theorem reads_isArray {items : Array (Option Value)} {length : Nat} (ho : H[ref]? = some o)
    (hkind : o.kind = .array items length) : Reads H (isArray (.object ref)) true := by
  show Reads H (isArrayWithin (9999 + 1) (.object ref)) _
  rw [isArrayWithin]
  refine (reads_obj ho).bind ?_
  rw [hkind]
  exact .pure _

/-! ## Runs that limits may stop -/

/-- With these objects the run gives a result and leaves the machine as it is but for the count of
rounds. Only if it has not enough to go on, or less than `n` rounds or slots of the stack are left,
it may be stopped instead. -/
def Gives (H : Array Obj) (ok : Prop) (n : Nat) (r : Run α) (a : α) : Prop :=
  ∀ m : Machine, m.heap = H →
    (∃ k ≤ n, r m = .ok a { m with rounds := m.rounds + k }) ∨
      (ok → m.bounds.iterations < m.rounds + n ∨ m.bounds.stack < m.stack + n) ∧
        ∃ e m', r m = .error e m'

theorem Reads.gives (hr : Reads H r a) : Gives H ok 0 r a :=
  fun m hm => .inl ⟨0, Nat.le_refl _, hr m hm⟩

namespace Gives

theorem bind (hr : Gives H ok n r a) (hf : Gives H ok n' (f a) b) :
    Gives H ok (n + n') (r >>= f) b := by
  intro m hm
  show (∃ k ≤ n + n', EStateM.bind r f m = _) ∨ _ ∧ ∃ e m', EStateM.bind r f m = _
  rw [EStateM.bind]
  obtain ⟨k, hk, hok⟩ | ⟨hshort, e, m', herr⟩ := hr m hm
  · rw [hok]
    obtain ⟨k', hk', hok'⟩ | ⟨hshort, e, m', herr⟩ := hf { m with rounds := m.rounds + k } hm
    · left
      refine ⟨k + k', by omega, ?_⟩
      dsimp only
      rw [hok', Nat.add_assoc]
    · right
      refine ⟨fun h => ?_, e, m', herr⟩
      have := hshort h
      dsimp only at this
      omega
  · right
    rw [herr]
    exact ⟨fun h => by have := hshort h; omega, e, m', rfl⟩

theorem mono (hr : Gives H ok n r a) (hok : ok' → ok) (hn : n ≤ n') : Gives H ok' n' r a := by
  intro m hm
  obtain ⟨k, hk, h⟩ | ⟨hshort, herr⟩ := hr m hm
  · exact .inl ⟨k, by omega, h⟩
  · exact .inr ⟨fun h => by have := hshort (hok h); omega, herr⟩

theorem imp (hr : Gives H ok n r a) (hok : ok' → ok) : Gives H ok' n r a :=
  hr.mono hok (Nat.le_refl n)

theorem of_le (hr : Gives H ok n r a) (hn : n ≤ n') : Gives H ok n' r a := hr.mono id hn

theorem pure (a : α) : Gives H ok 0 (pure a) a := (Reads.pure a).gives

theorem bind_reads (hr : Gives H ok n r a) (hf : Reads H (f a) b) : Gives H ok n (r >>= f) b :=
  hr.bind hf.gives

/-- After a step that takes nothing. -/
theorem after (hr : Gives H ok 0 r a) (hf : Gives H ok n (f a) b) : Gives H ok n (r >>= f) b :=
  (hr.bind hf).of_le (by omega)

theorem after_reads (hr : Reads H r a) (hf : Gives H ok n (f a) b) : Gives H ok n (r >>= f) b :=
  after hr.gives hf

theorem stopped (h : ¬ ok) (hr : ∀ m, ∃ e m', r m = .error e m') : Gives H ok n r a :=
  fun m _ => .inr ⟨fun hok => absurd hok h, hr m⟩

theorem framed (args : Nat) (hr : Gives H ok n r a) :
    Gives H ok (n + args + frameSize) (framed args r) a := by
  intro m hm
  unfold Run.framed
  by_cases hfull : m.bounds.stack ≤ m.stack + args + 2
  · right
    rw [if_pos hfull]
    exact ⟨fun _ => by unfold frameSize; omega, _, _, rfl⟩
  · rw [if_neg hfull]
    obtain ⟨k, hk, h⟩ | ⟨hshort, e, m', herr⟩ :=
      hr { m with rounds := 0, stack := m.stack + args + frameSize } hm
    · -- rounds in the frame are not counted outside
      left
      refine ⟨0, Nat.zero_le _, ?_⟩
      dsimp only
      rw [h]
      rfl
    · right
      dsimp only
      rw [herr]
      refine ⟨fun h => ?_, e, _, rfl⟩
      have := hshort h
      dsimp only at this
      omega

theorem countRound : Gives H ok 1 countRound () := by
  intro m _
  unfold Run.countRound
  by_cases hmany : m.rounds > m.bounds.iterations
  · right
    rw [if_pos hmany]
    exact ⟨fun _ => by omega, _, _, rfl⟩
  · left
    rw [if_neg hmany]
    exact ⟨1, Nat.le_refl _, rfl⟩

/-- What comes out, if anything does. -/
theorem eq_of_ok {c : α} (hr : Gives H ok n r a) {m m' : Machine} (hm : m.heap = H)
    (h : r m = .ok c m') : c = a := by
  obtain ⟨k, -, hok⟩ | ⟨-, e, m'', herr⟩ := hr m hm
  · rw [h] at hok
    cases hok
    rfl
  · rw [h] at herr
    cases herr

/-- Something comes out if the limits leave enough. -/
theorem exists_ok (hr : Gives H ok n r a) (hok : ok) {m : Machine} (hm : m.heap = H)
    (hrounds : m.rounds + n ≤ m.bounds.iterations) (hstack : m.stack + n ≤ m.bounds.stack) :
    ∃ m', r m = .ok a m' := by
  obtain ⟨k, -, h⟩ | ⟨hshort, -⟩ := hr m hm
  · exact ⟨_, h⟩
  · have := hshort hok
    omega

end Gives

/-! ## Lists and keys -/

theorem reads_lengthOf {items : Array (Option Value)} {length : Nat} (ho : H[ref]? = some o)
    (hkind : o.kind = .array items length) : Reads H (lengthOf h (.object ref)) length := by
  have hitems : o.items? = some (items, length) := by rw [Obj.items?, hkind]
  refine (reads_obj ho).bind ?_
  rw [hitems]
  exact .pure _

/-- The items of a list, one after the other. -/
theorem reads_itemsAt {vs : List Value} (ho : H[ref]? = some o)
    (hkind : o.kind = .array (vs.map some).toArray vs.length) :
    Reads H ((List.range vs.length).mapM (itemAt h (.object ref))) vs := by
  have hitems : o.items? = some ((vs.map some).toArray, vs.length) := by rw [Obj.items?, hkind]
  have hitem : ∀ i ∈ List.range vs.length,
      Reads H (itemAt h (.object ref) i) (vs[i]?.getD .undefined) := by
    intro i hi
    have hlt := List.mem_range.mp hi
    have hplain : Reads H (plainItem? (.object ref) i) vs[i]? := by
      rintro m rfl
      simp [plainItem?, ho, hitems, hlt]
    refine hplain.bind ?_
    rw [List.getElem?_eq_getElem hlt]
    exact .pure _
  have hall : (List.range vs.length).map (fun i => vs[i]?.getD .undefined) = vs := by
    refine List.ext_getElem (by simp) fun i h₁ h₂ => ?_
    simp [h₂]
  have hmapped := Reads.mapM hitem
  rwa [hall] at hmapped

/-- A list may have that many items. -/
theorem gives_listItems {vs : List Value} (ho : H[ref]? = some o)
    (hkind : o.kind = .array (vs.map some).toArray vs.length) :
    Gives H (vs.length ≤ 100000000) 0 (listItems h (.object ref)) vs := by
  refine .after_reads (reads_lengthOf ho hkind) ?_
  split
  · exact .stopped (by omega) fun m => ⟨_, _, rfl⟩
  · exact (reads_itemsAt ho hkind).gives

theorem reads_listItems {vs : List Value} (ho : H[ref]? = some o)
    (hkind : o.kind = .array (vs.map some).toArray vs.length) (hlength : vs.length ≤ 100000000) :
    Reads H (listItems h (.object ref)) vs := by
  refine (reads_lengthOf ho hkind).bind ?_
  rw [if_neg (by omega)]
  exact reads_itemsAt ho hkind

/-! ## Walks over keys -/

/-- An object without a parent of which a walk visits nothing. -/
structure IsQuiet (o : Obj) : Prop where
  isProxy : o.isProxy = false
  parent : o.parent = none
  enumerable : ∀ k s, o.own? k = some s → k.isText = true → s.enumerable = false

theorem next?_quiet (ho : H[ref]? = some o) (hq : IsQuiet o) {ks met before : List Key}
    (hks : ∀ k ∈ ks, k.isText = true) (fuel : Nat) :
    Gives H (ks.length + 1 ≤ fuel) 0
      (KeyWalk.next? h fuel { holder := ref, coming := some ks, met, before }) none := by
  induction ks generalizing fuel met with
  | nil =>
    cases fuel with
    | zero => exact .stopped (by omega) fun m => ⟨_, _, rfl⟩
    | succ fuel =>
      rw [KeyWalk.next?]
      refine .after_reads (reads_obj ho) ?_
      rw [hq.parent]
      exact .pure _
  | cons k ks ih =>
    cases fuel with
    | zero => exact .stopped (by omega) fun m => ⟨_, _, rfl⟩
    | succ fuel =>
      have hrest : ∀ met, Gives H ((k :: ks).length + 1 ≤ fuel + 1) 0
          (KeyWalk.next? h fuel { holder := ref, coming := some ks, met, before }) none :=
        fun met => (ih (fun k hk => hks k (List.mem_cons_of_mem _ hk)) fuel).imp
          (by simp only [List.length_cons]; omega)
      rw [KeyWalk.next?]
      dsimp only
      split
      · exact hrest met
      · refine .after_reads (reads_ownSlot? ho hq.isProxy) ?_
        cases hs : o.own? k with
        | none => exact hrest met
        | some s =>
          have hhidden := hq.enumerable k s hs (hks k (List.mem_cons_self ..))
          dsimp only
          rw [if_neg (by simp [hhidden])]
          exact hrest (k :: met)

/-- An object all of whose own properties a walk visits. -/
structure IsListed (o : Obj) (ks : List Key) : Prop where
  isProxy : o.isProxy = false
  keys : o.keys = ks
  isText : ∀ k ∈ ks, k.isText = true
  enumerable : ∀ k ∈ ks, ∃ s, o.own? k = some s ∧ s.enumerable = true

section

variable {q : Nat} {o' : Obj} {ks : List Key}

/-- The fuel that is left at the end of a walk over an object below a quiet one. -/
def walkEnd (o : Obj) : Nat := (o.keys.filter Key.isText).length + 4

theorem next?_end (ho : H[ref]? = some o) (hp : o.parent = some q) (ho' : H[q]? = some o')
    (hq : IsQuiet o') (met before : List Key) (fuel : Nat) :
    Gives H (walkEnd o' ≤ fuel + 1) 0
      (KeyWalk.next? h fuel { holder := ref, coming := some [], met, before }) none := by
  cases fuel with
  | zero => exact .stopped (by unfold walkEnd; omega) fun m => ⟨_, _, rfl⟩
  | succ fuel =>
    rw [KeyWalk.next?]
    refine .after_reads (reads_obj ho) ?_
    rw [hp]
    cases fuel with
    | zero => exact .stopped (by unfold walkEnd; omega) fun m => ⟨_, _, rfl⟩
    | succ fuel =>
      dsimp only
      rw [KeyWalk.next?]
      refine .after_reads (reads_ownKeys ho' hq.isProxy) ?_
      exact (next?_quiet ho' hq (fun k hk => (List.mem_filter.mp hk).2) fuel).imp
        fun hlt => by unfold walkEnd at hlt; exact Nat.le_of_lt_succ (by omega)

theorem reads_next? (ho : H[ref]? = some o) (hl : o.isProxy = false) {s : Slot}
    (hs : o.own? k = some s) (hlisted : s.enumerable = true) (met : List Key) (fuel : Nat) :
    Reads H (KeyWalk.next? h (fuel + 1) { holder := ref, coming := some (k :: ks), met })
      (some (k, { holder := ref, coming := some ks, met := k :: met })) := by
  rw [KeyWalk.next?]
  refine (reads_ownSlot? ho hl).bind ?_
  rw [hs]
  dsimp only
  rw [if_pos hlisted]
  exact .pure _

/-- What a walk does with a key. -/
def goOn (h : Host) (fuel : Nat) : Option (Key × KeyWalk) → Run (List Key)
  | none => return []
  | some (k, w) => do return k :: (← KeyWalk.all h fuel w)

theorem all_succ (fuel : Nat) (w : KeyWalk) :
    KeyWalk.all h (fuel + 1) w = KeyWalk.next? h fuel w >>= goOn h fuel := by
  rw [KeyWalk.all]
  rfl

theorem gives_goOn (ho : H[ref]? = some o) (hl : o.isProxy = false) (hp : o.parent = some q)
    (ho' : H[q]? = some o') (hq : IsQuiet o')
    (hks : ∀ k ∈ ks, ∃ s, o.own? k = some s ∧ s.enumerable = true) (met : List Key)
    (fuel fuel' : Nat) :
    Gives H (ks.length + walkEnd o' ≤ fuel + 1 ∧ ks.length + walkEnd o' ≤ fuel' + 1) 0
      (KeyWalk.next? h fuel { holder := ref, coming := some ks, met } >>= goOn h fuel') ks := by
  -- looking for the next key and going on have fuel of their own
  induction ks generalizing fuel fuel' met with
  | nil =>
    refine ((next?_end ho hp ho' hq met [] fuel).imp ?_).bind_reads (.pure _)
    simp only [List.length_nil]
    omega
  | cons k ks ih =>
    obtain ⟨s, hs, hlisted⟩ := hks k (List.mem_cons_self ..)
    cases fuel with
    | zero => exact .stopped (by unfold walkEnd; rw [List.length_cons]; omega) fun m => ⟨_, _, rfl⟩
    | succ fuel =>
      refine .after_reads (reads_next? ho hl hs hlisted met fuel) ?_
      cases fuel' with
      | zero => exact .stopped (by unfold walkEnd; rw [List.length_cons]; omega) fun m => ⟨_, _, rfl⟩
      | succ fuel' =>
        have hrest := ih (fun k hk => hks k (List.mem_cons_of_mem _ hk)) (k :: met) fuel' fuel'
        rw [← all_succ] at hrest
        refine (hrest.imp ?_).bind_reads (.pure _)
        simp only [List.length_cons]
        omega

/-- **A walk over an object below a quiet one visits the keys of the object.** -/
theorem gives_keysAlong (ho : H[ref]? = some o) (hl : IsListed o ks) (hp : o.parent = some q)
    (ho' : H[q]? = some o') (hq : IsQuiet o') :
    Gives H (ks.length + walkEnd o' < itemBound) 0 (keysAlong h (.object ref)) ks := by
  have htext : o.keys.filter (·.isText) = ks := by
    rw [hl.keys, List.filter_eq_self.mpr hl.isText]
  unfold keysAlong
  refine .after_reads (.pure ref) ?_
  generalize itemBound = fuel
  rcases fuel with _ | _ | fuel
  · exact .stopped (by omega) fun m => ⟨_, _, rfl⟩
  · exact .stopped (by unfold walkEnd; omega) fun m => ⟨_, _, rfl⟩
  · rw [all_succ, KeyWalk.next?]
    dsimp only
    rw [bind_assoc]
    refine .after_reads (reads_ownKeys ho hl.isProxy) ?_
    rw [htext]
    exact (gives_goOn ho hl.isProxy hp ho' hq hl.enumerable [] fuel (fuel + 1)).mono
      (by omega) (Nat.le_refl _)

end

end Run
end Script
end Restyle
