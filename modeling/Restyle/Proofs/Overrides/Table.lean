import Restyle.Overrides

/-!
# Restyle.Proofs.Overrides.Table

The table of edits as a map: an edit at a path is found at that path, and at no other.

The entries of a table stand in the order of their paths (`Ordered`), so that a path has one entry
and an edit changes one value of the table and no other (`recorded_set`).
-/

namespace Restyle

/-! ## Writes in turn -/

section

variable {σ ω α : Type} {write : σ → ω → σ} {isFor : ω → Bool} {value : ω → α} {Inv : σ → Prop} {s : σ}

/-- When a write leaves its own value at its place and every other place as it was, the last write to a
place decides what stands there. -/
theorem read_foldl_write (read : σ → α) (hinv : ∀ s w, Inv s → Inv (write s w))
    (hread : ∀ s w, Inv s → read (write s w) = if isFor w then value w else read s)
    (hs : Inv s) (ws : List ω) :
    read (ws.foldl write s) = ((ws.filter isFor).getLast?.map value).getD (read s) := by
  induction ws generalizing s with
  | nil => rfl
  | cons w ws ih =>
    rw [List.foldl_cons, ih (hinv s w hs), hread s w hs]
    by_cases hw : isFor w = true
    · rw [if_pos hw, List.filter_cons_of_pos hw, List.getLast?_cons]
      cases (ws.filter isFor).getLast? <;> rfl
    · rw [if_neg hw, List.filter_cons_of_neg hw]

end

/-! ## The order of paths -/

theorem Step.compare_eq_iff {a b : Step} : a.compare b = .eq ↔ a = b := by
  obtain ⟨tag, index⟩ := a
  obtain ⟨tag', index'⟩ := b
  simp [Step.compare, Ordering.then_eq_eq]

theorem Path.compareSteps_eq_iff (as bs : List Step) : compareSteps as bs = .eq ↔ as = bs := by
  induction as generalizing bs with
  | nil => cases bs <;> simp [compareSteps]
  | cons a as ih =>
    cases bs with
    | nil => simp [compareSteps]
    | cons b bs => simp [compareSteps, Ordering.then_eq_eq, Step.compare_eq_iff, ih]

theorem Path.compare_eq_iff {p q : Path} : p.compare q = .eq ↔ p = q := by
  obtain ⟨as⟩ := p
  obtain ⟨bs⟩ := q
  simp [Path.compare, compareSteps_eq_iff]

namespace Overrides

variable {p q : Path} {f : Styles → Styles}

/-- The keys of a changed table are those from before, and the path of the change. -/
theorem key_of_mem_alter {entries : List (Path × Styles)} {e : Path × Styles}
    (h : e ∈ alter p f entries) : e.1 = p ∨ ∃ s, (e.1, s) ∈ entries := by
  induction entries with
  | nil => exact .inl (by rw [List.mem_singleton.mp h])
  | cons entry entries ih =>
    obtain ⟨r, s⟩ := entry
    unfold alter at h
    split at h
    · rcases List.mem_cons.mp h with rfl | h
      · exact .inl rfl
      · exact .inr ⟨e.2, h⟩
    · rcases List.mem_cons.mp h with rfl | h
      · exact .inr ⟨s, List.mem_cons_self ..⟩
      · exact .inr ⟨e.2, List.mem_cons_of_mem _ h⟩
    · rcases List.mem_cons.mp h with rfl | h
      · exact .inr ⟨s, List.mem_cons_self ..⟩
      · obtain h | ⟨s', h⟩ := ih h
        · exact .inl h
        · exact .inr ⟨s', List.mem_cons_of_mem _ h⟩

/-- What stands at another path does not change. -/
theorem find?_alter_of_ne (h : p ≠ q) (entries : List (Path × Styles)) :
    (alter p f entries).find? (·.1 == q) = entries.find? (·.1 == q) := by
  induction entries with
  | nil => simp [alter, h]
  | cons entry entries ih =>
    obtain ⟨r, s⟩ := entry
    unfold alter
    split
    · rw [List.find?_cons_of_neg (by simpa using h)]
    · rename_i hr
      obtain rfl := Path.compare_eq_iff.mp hr
      rw [List.find?_cons_of_neg (by simpa using h), List.find?_cons_of_neg (by simpa using h)]
    · rw [List.find?_cons, List.find?_cons, ih]

theorem isSome_find?_alter (entries : List (Path × Styles)) :
    ((alter p f entries).find? (·.1 == p)).isSome = true := by
  induction entries with
  | nil => simp [alter]
  | cons entry entries ih =>
    obtain ⟨r, s⟩ := entry
    unfold alter
    split
    · simp
    · rename_i hr
      obtain rfl := Path.compare_eq_iff.mp hr
      simp
    · rw [List.find?_cons]
      split
      · rfl
      · exact ih

theorem get?_set_of_ne (o : Overrides) (h : p ≠ q) (property : Property) (v : String) :
    (o.set p property v).get? q = o.get? q := by
  unfold get? set
  rw [find?_alter_of_ne h]

theorem isSome_get?_set (o : Overrides) (p : Path) (property : Property) (v : String) :
    ((o.set p property v).get? p).isSome = true := by
  unfold get? set
  rw [Option.isSome_map]
  exact isSome_find?_alter o.entries

/-- What is recorded stays so. -/
theorem isSome_get?_set_of_isSome {o : Overrides} (h : (o.get? q).isSome = true) (p : Path)
    (property : Property) (v : String) : ((o.set p property v).get? q).isSome = true := by
  by_cases hq : p = q
  · subst hq; exact isSome_get?_set ..
  · rw [get?_set_of_ne o hq]; exact h

theorem isEmpty_eq_false_of_get? {o : Overrides} {s : Styles} (h : o.get? p = some s) :
    o.isEmpty = false := by
  obtain ⟨entries⟩ := o
  cases entries with
  | nil => cases h
  | cons _ _ => rfl

theorem eq_empty_of_isEmpty {o : Overrides} (h : o.isEmpty = true) : o = {} := by
  obtain ⟨entries⟩ := o
  rw [isEmpty, List.isEmpty_iff] at h
  rw [show entries = [] from h]

theorem isEmpty_set (o : Overrides) (p : Path) (property : Property) (v : String) :
    (o.set p property v).isEmpty = false := by
  obtain ⟨s, hs⟩ := Option.isSome_iff_exists.mp (isSome_get?_set o p property v)
  exact isEmpty_eq_false_of_get? hs

end Overrides

/-! ## Order of the entries -/

instance : Std.TransCmp Step.compare :=
  inferInstanceAs (Std.TransCmp (compareLex (compareOn Step.tag) (compareOn Step.index)))

theorem Path.compareSteps_eq (as bs : List Step) :
    compareSteps as bs = List.compareLex Step.compare as bs := by
  induction as generalizing bs with
  | nil => cases bs <;> simp [compareSteps, List.compareLex]
  | cons a as ih =>
    cases bs with
    | nil => simp [compareSteps, List.compareLex]
    | cons b bs =>
      simp only [compareSteps, List.compareLex, ih]
      cases a.compare b <;> rfl

instance : Std.TransCmp Path.compare where
  eq_swap := by
    intro p q
    simp only [Path.compare, Path.compareSteps_eq]
    exact Std.OrientedCmp.eq_swap
  isLE_trans := by
    intro p q r
    simp only [Path.compare, Path.compareSteps_eq]
    exact Std.TransCmp.isLE_trans

namespace Overrides

variable {o : Overrides} {p q : Path} {f : Styles → Styles} {entries : List (Path × Styles)}
  {e : Path × Styles} {s : Styles}

/-- Each path comes before the paths of later entries. -/
def Sorted (entries : List (Path × Styles)) : Prop :=
  entries.Pairwise fun a b => a.1.compare b.1 = .lt

def Ordered (o : Overrides) : Prop := Sorted o.entries

theorem Sorted.find?_of_lt (hs : Sorted ((q, s) :: entries)) (h : p.compare q = .lt) :
    ((q, s) :: entries).find? (·.1 == p) = none := by
  rw [List.find?_eq_none]
  intro e he heq
  have hep : e.1 = p := beq_iff_eq.mp heq
  have hlt : p.compare e.1 = .lt := by
    rcases List.mem_cons.mp he with rfl | he
    · exact h
    · exact Std.TransCmp.lt_trans h ((List.pairwise_cons.mp hs).1 e he)
  rw [hep, Path.compare_eq_iff.mpr rfl] at hlt
  cases hlt

/-- A changed entry stands where its path belongs. -/
theorem Sorted.alter (hs : Sorted entries) : Sorted (alter p f entries) := by
  induction entries with
  | nil => exact List.pairwise_singleton _ _
  | cons entry entries ih =>
    obtain ⟨q, s⟩ := entry
    obtain ⟨hhead, htail⟩ := List.pairwise_cons.mp hs
    unfold Overrides.alter
    split
    · rename_i hlt
      refine List.pairwise_cons.mpr ⟨?_, hs⟩
      intro e he
      rcases List.mem_cons.mp he with rfl | he
      · exact hlt
      · exact Std.TransCmp.lt_trans hlt (hhead e he)
    · exact List.pairwise_cons.mpr ⟨hhead, htail⟩
    · rename_i hgt
      refine List.pairwise_cons.mpr ⟨?_, ih htail⟩
      intro e he
      obtain h | ⟨s', h⟩ := key_of_mem_alter he
      · exact h ▸ Std.OrientedCmp.gt_iff_lt.mp hgt
      · exact hhead (e.1, s') h

/-- At its path a change is made to what stood there. -/
theorem Sorted.find?_alter (hs : Sorted entries) :
    (Overrides.alter p f entries).find? (·.1 == p) =
      some (p, f (((entries.find? (·.1 == p)).map (·.2)).getD {})) := by
  induction entries with
  | nil => simp [Overrides.alter]
  | cons entry entries ih =>
    obtain ⟨q, s⟩ := entry
    unfold Overrides.alter
    split
    · rename_i hlt
      rw [hs.find?_of_lt hlt]
      simp
    · rename_i heq
      obtain rfl := Path.compare_eq_iff.mp heq
      simp
    · rename_i hgt
      have hne : q ≠ p := by
        rintro rfl
        rw [Path.compare_eq_iff.mpr rfl] at hgt
        cases hgt
      rw [List.find?_cons_of_neg (by simpa using hne), List.find?_cons_of_neg (by simpa using hne)]
      exact ih (List.pairwise_cons.mp hs).2

theorem Sorted.find?_eq_some_iff (hs : Sorted entries) :
    entries.find? (·.1 == p) = some e ↔ e ∈ entries ∧ e.1 = p := by
  induction entries with
  | nil => simp
  | cons entry entries ih =>
    obtain ⟨hhead, htail⟩ := List.pairwise_cons.mp hs
    by_cases hp : entry.1 = p
    · rw [List.find?_cons_of_pos (by simpa using hp), Option.some.injEq]
      constructor
      · rintro rfl
        exact ⟨List.mem_cons_self .., hp⟩
      · rintro ⟨he, heq⟩
        rcases List.mem_cons.mp he with rfl | he
        · rfl
        · have hlt := hhead e he
          rw [heq, hp, Path.compare_eq_iff.mpr rfl] at hlt
          cases hlt
    · rw [List.find?_cons_of_neg (by simpa using hp), ih htail, List.mem_cons]
      refine and_congr_left fun heq => ⟨.inr, fun h => h.resolve_left ?_⟩
      rintro rfl
      exact hp heq

theorem Ordered.empty : ({} : Overrides).Ordered := List.Pairwise.nil

theorem Ordered.set (ho : o.Ordered) (p : Path) (property : Property) (v : String) :
    (o.set p property v).Ordered :=
  Sorted.alter ho

theorem Ordered.get?_set (ho : o.Ordered) (p : Path) (property : Property) (v : String) :
    (o.set p property v).get? p = some (((o.get? p).getD {}).set property (Text.trim v)) := by
  unfold get? Overrides.set
  rw [Sorted.find?_alter ho]
  rfl

theorem Ordered.get?_eq_some_iff (ho : o.Ordered) : o.get? p = some s ↔ (p, s) ∈ o.entries := by
  unfold get?
  rw [Option.map_eq_some_iff]
  constructor
  · rintro ⟨e, he, rfl⟩
    obtain ⟨hmem, rfl⟩ := (Sorted.find?_eq_some_iff ho).mp he
    exact hmem
  · intro h
    exact ⟨(p, s), (Sorted.find?_eq_some_iff ho).mpr ⟨h, rfl⟩, rfl⟩

theorem Ordered.nodup_paths (ho : o.Ordered) : (o.entries.map (·.1)).Nodup := by
  refine List.pairwise_map.mpr (List.Pairwise.imp ?_ ho)
  intro a b hlt heq
  rw [heq, Path.compare_eq_iff.mpr rfl] at hlt
  cases hlt

/-- The value recorded for a property of the element at a path. -/
def recorded (o : Overrides) (path : Path) (p : Property) : Option String :=
  (o.get? path).bind (·.get? p)

@[simp] theorem recorded_empty (path : Path) (p : Property) :
    ({} : Overrides).recorded path p = none := rfl

/-- An edit records its trimmed value, and leaves every other value as it was. -/
theorem Ordered.recorded_set (ho : o.Ordered) (path path' : Path) (p p' : Property) (v : String) :
    (o.set path p v).recorded path' p' =
      if path = path' ∧ p = p' then some (Text.trim v) else o.recorded path' p' := by
  unfold recorded
  by_cases hpath : path = path'
  · subst hpath
    rw [ho.get?_set, Option.bind_some, Styles.set, Styles.get?_put]
    by_cases hp : p = p'
    · simp [hp]
    · rw [if_neg hp, if_neg fun h => hp h.2]
      cases o.get? path with
      | none => cases p' <;> rfl
      | some styles => rfl
  · rw [get?_set_of_ne o hpath, if_neg fun h => hpath h.1]

/-! ## Tables of edits -/

/-- The table in which edits are recorded one after the other. -/
def ofEdits (edits : List (Path × Property × String)) : Overrides :=
  edits.foldl (fun o e => o.set e.1 e.2.1 e.2.2) {}

theorem ordered_ofEdits (edits : List (Path × Property × String)) : (ofEdits edits).Ordered :=
  List.foldlRecOn (motive := Ordered) _ _ .empty fun _ ho e _ => ho.set e.1 e.2.1 e.2.2

/-- Values are recorded trimmed. -/
theorem exists_trim_recorded_ofEdits {edits : List (Path × Property × String)} {path : Path}
    {p : Property} {v : String} (h : (ofEdits edits).recorded path p = some v) :
    ∃ w, v = Text.trim w := by
  suffices hall : (ofEdits edits).Ordered ∧
      ∀ v, (ofEdits edits).recorded path p = some v → ∃ w, v = Text.trim w from hall.2 v h
  unfold ofEdits
  refine List.foldlRecOn (motive := fun o : Overrides => o.Ordered ∧
    ∀ v, o.recorded path p = some v → ∃ w, v = Text.trim w) _ _ ⟨.empty, fun v h => by cases h⟩ ?_
  rintro o ⟨ho, htrim⟩ e -
  refine ⟨ho.set e.1 e.2.1 e.2.2, fun v h => ?_⟩
  rw [ho.recorded_set] at h
  split at h
  · cases h
    exact ⟨e.2.2, rfl⟩
  · exact htrim v h

end Overrides
end Restyle
