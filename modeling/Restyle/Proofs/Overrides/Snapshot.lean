import Mathlib.Data.List.Sort
import Restyle.Proofs.Document.Identified
import Restyle.Proofs.Overrides.Table

/-!
# Restyle.Proofs.Overrides.Snapshot

The snapshot of a table of edits tells the table, when all its paths are named
(`snapshot_injective`); values may contain anything. The paths of nodes of documents read from
markup are named.

The table itself is told by the last value of each property at each path. So edits in another order
have the same snapshot, as long as their last values are the same (`snapshot_eq_iff_eq`).
-/

namespace Restyle

open Text (Delimited)

theorem Property.name_injective {p q : Property} (h : p.name = q.name) : p = q := by
  cases p <;> cases q <;> first | rfl | exact absurd h (by decide)

namespace Styles

/-- The list of recorded values tells every value. -/
theorem get?_eq_some_iff {s : Styles} {p : Property} {v : String} :
    s.get? p = some v ↔ (p, v) ∈ s.toList := by
  have hall : p ∈ Property.all := by cases p <;> simp [Property.all]
  simp [toList, hall]

theorem ext_get? {s s' : Styles} (h : ∀ p, s.get? p = s'.get? p) : s = s' := by
  obtain ⟨padding, margin, background, fontSize, fontWeight, fontFamily⟩ := s
  obtain rfl : padding = _ := h .padding
  obtain rfl : margin = _ := h .margin
  obtain rfl : background = _ := h .background
  obtain rfl : fontSize = _ := h .fontSize
  obtain rfl : fontWeight = _ := h .fontWeight
  obtain rfl : fontFamily = _ := h .fontFamily
  rfl

theorem toList_injective {s s' : Styles} (h : s.toList = s'.toList) : s = s' := by
  refine ext_get? fun p => Option.ext fun v => ?_
  rw [get?_eq_some_iff, get?_eq_some_iff, h]

theorem delimited_member : Delimited (fun _ => True) fun m : Property × String =>
    (Json.quote m.1.name).toList ++ ([':'] ++ (Json.quote m.2).toList) := by
  have hname : Delimited (fun _ => True) fun p : Property => (Json.quote p.name).toList :=
    Json.delimited_quote.comap (fun _ _ => trivial) fun _ _ _ _ h => Property.name_injective h
  have hpair := hname.pair Json.delimited_quote [':']
  intro m m' rest rest' _ _ heq
  exact hpair m m' rest rest' ⟨trivial, trivial⟩ ⟨trivial, trivial⟩ heq

theorem delimited_json : Delimited (fun _ => True) fun s : Styles => s.json.toList := by
  have hlist := (delimited_member.list (by decide : ',' ≠ '}') fun m _ =>
    ⟨'"', _, by rw [Json.toList_quote]; rfl, by decide⟩).cons '{'
  intro s s' rest rest' _ _ heq
  have hjson : ∀ s : Styles, s.json.toList = '{' :: ([','].intercalate (s.toList.map fun m =>
      (Json.quote m.1.name).toList ++ ([':'] ++ (Json.quote m.2).toList)) ++ ['}']) := by
    intro s
    simp [json, String.toList_intercalate, Function.comp_def]
  dsimp only at heq
  rw [hjson, hjson] at heq
  obtain ⟨h, rfl⟩ := hlist s.toList s'.toList rest rest' (fun _ _ => trivial)
    (fun _ _ => trivial) heq
  exact ⟨toList_injective h, rfl⟩

end Styles

namespace Overrides

/-- All paths of the table are named. -/
def IsNamed (o : Overrides) : Prop := ∀ e ∈ o.entries, e.1.IsNamed

theorem IsNamed.empty : ({} : Overrides).IsNamed := fun _ h => by cases h

theorem IsNamed.set {o : Overrides} {p : Path} (ho : o.IsNamed) (hp : p.IsNamed)
    (property : Property) (v : String) : (o.set p property v).IsNamed := by
  intro e he
  obtain h | ⟨s, h⟩ := key_of_mem_alter he
  · rw [h]; exact hp
  · exact ho (e.1, s) h

theorem delimited_entry : Delimited (fun e : Path × Styles => e.1.IsNamed ∧ True) fun e =>
    (Json.quote e.1.text).toList ++ ([':'] ++ e.2.json.toList) := by
  have hpath : Delimited Path.IsNamed fun p => (Json.quote p.text).toList :=
    Json.delimited_quote.comap (fun _ _ => trivial) fun _ _ hp hq h => Path.text_injective hp hq h
  exact hpath.pair Styles.delimited_json [':']

/-- **Tables with the same snapshot are the same.** -/
theorem snapshot_injective {o o' : Overrides} (ho : o.IsNamed) (ho' : o'.IsNamed)
    (h : o.snapshot = o'.snapshot) : o = o' := by
  have hlist := (delimited_entry.list (by decide : ',' ≠ '}') fun e _ =>
    ⟨'"', _, by rw [Json.toList_quote]; rfl, by decide⟩).cons '{'
  have hsnapshot : ∀ o : Overrides, o.snapshot.toList =
      '{' :: ([','].intercalate (o.entries.map fun e =>
        (Json.quote e.1.text).toList ++ ([':'] ++ e.2.json.toList)) ++ ['}']) := by
    intro o
    simp [snapshot, String.toList_intercalate, Function.comp_def]
  have heq : o.snapshot.toList ++ [] = o'.snapshot.toList ++ [] := by rw [h]
  rw [hsnapshot, hsnapshot] at heq
  obtain ⟨hentries, -⟩ := hlist o.entries o'.entries [] [] (fun e he => ⟨ho e he, trivial⟩)
    (fun e he => ⟨ho' e he, trivial⟩) heq
  obtain ⟨entries⟩ := o
  cases hentries
  rfl

end Overrides

/-! ## Paths of documents read from markup -/

namespace Document

variable {d : Document}

/-- Documents read from markup: below the root, and then perhaps below other nodes. -/
inductive Described : Document → Prop where
  | withRoot (cls : String) : Described (withRoot "div" cls)
  | readMarkup {d : Document} (parent : Handle) (markup : String) : Described d →
      Described (d.readMarkup parent markup)

theorem Described.ofMarkup (markup cls : String) : Described (ofMarkup markup cls) :=
  .readMarkup 0 markup (.withRoot cls)

theorem Described.isNamed (h : Described d) : d.IsNamed := by
  induction h with
  | withRoot cls => exact (building_withRoot cls).isNamed
  | readMarkup parent markup _ ih =>
    exact Markup.readInto_tags (P := Markup.Tag.IsName)
      (fun hnext => Markup.Tag.isName_element (Markup.Tag.isName_next hnext)) ih

end Document

/-- The path was found for a node of a document read from markup. -/
def Path.IsIdentified (p : Path) : Prop :=
  ∃ d h root, Document.Described d ∧ p = d.identify h root

theorem Path.IsIdentified.isNamed {p : Path} (hp : p.IsIdentified) : p.IsNamed := by
  obtain ⟨d, h, root, hd, rfl⟩ := hp
  exact hd.isNamed.identify h root

namespace Overrides

variable {o o' : Overrides} {edits edits' : List (Path × Property × String)}

/-- All paths of the table are identified. -/
def IsIdentified (o : Overrides) : Prop := ∀ e ∈ o.entries, e.1.IsIdentified

theorem IsIdentified.isNamed (ho : o.IsIdentified) : o.IsNamed :=
  fun e he => (ho e he).isNamed

theorem isIdentified_ofEdits (h : ∀ e ∈ edits, e.1.IsIdentified) : (ofEdits edits).IsIdentified := by
  unfold ofEdits
  refine List.foldlRecOn (motive := IsIdentified) _ _ (fun _ h => by cases h) ?_
  intro o ho edit hedit e he
  obtain hkey | ⟨s, hkey⟩ := key_of_mem_alter he
  · rw [hkey]
    exact h edit hedit
  · exact ho (e.1, s) hkey

/-- The last of the values that are set for a property at a path, without blanks at its ends. -/
def lastValue (edits : List (Path × Property × String)) (path : Path) (p : Property) :
    Option String :=
  (edits.filter fun e => e.1 = path ∧ e.2.1 = p).getLast?.map fun e => Text.trim e.2.2

theorem recorded_ofEdits (edits : List (Path × Property × String)) (path : Path) (p : Property) :
    (ofEdits edits).recorded path p = lastValue edits path p := by
  have hordered : ∀ (o : Overrides) (e : Path × Property × String), o.Ordered →
      (o.set e.1 e.2.1 e.2.2).Ordered := fun o e ho => ho.set e.1 e.2.1 e.2.2
  have hset : ∀ (o : Overrides) (e : Path × Property × String), o.Ordered →
      (o.set e.1 e.2.1 e.2.2).recorded path p =
        if decide (e.1 = path ∧ e.2.1 = p) then some (Text.trim e.2.2) else o.recorded path p := by
    intro o e ho
    rw [ho.recorded_set]
    simp
  unfold ofEdits lastValue
  rw [read_foldl_write (·.recorded path p) hordered hset .empty]
  cases (edits.filter fun e => e.1 = path ∧ e.2.1 = p).getLast? <;> rfl

/-! ## Tables are told by their values -/

instance : Std.Irrefl fun a b : Path × Styles => a.1.compare b.1 = .lt where
  irrefl a h := by
    rw [Path.compare_eq_iff.mpr rfl] at h
    cases h

instance : Std.Antisymm fun a b : Path × Styles => a.1.compare b.1 = .lt where
  antisymm a b hab hba := by
    have hself := Std.TransCmp.lt_trans hab hba
    rw [Path.compare_eq_iff.mpr rfl] at hself
    cases hself

theorem Ordered.ext_get? (ho : o.Ordered) (ho' : o'.Ordered)
    (h : ∀ path, o.get? path = o'.get? path) : o = o' := by
  have hentries : o.entries = o'.entries := by
    refine List.Pairwise.eq_of_mem_iff ho ho' fun e => ?_
    rw [← ho.get?_eq_some_iff, ← ho'.get?_eq_some_iff, h]
  obtain ⟨entries⟩ := o
  cases hentries
  rfl

/-- At each path of the table a value is recorded. -/
def Filled (o : Overrides) : Prop :=
  ∀ path, (o.get? path).isSome = true → ∃ p, (o.recorded path p).isSome = true

theorem Filled.set (hf : o.Filled) (ho : o.Ordered) (path : Path) (p : Property) (v : String) :
    (o.set path p v).Filled := by
  intro path' hpath'
  by_cases hpath : path = path'
  · exact ⟨p, by rw [ho.recorded_set, if_pos ⟨hpath, rfl⟩]; rfl⟩
  · rw [get?_set_of_ne o hpath] at hpath'
    obtain ⟨q, hq⟩ := hf path' hpath'
    exact ⟨q, by rwa [ho.recorded_set, if_neg fun h => hpath h.1]⟩

theorem filled_ofEdits (edits : List (Path × Property × String)) : (ofEdits edits).Filled := by
  unfold ofEdits
  refine (List.foldlRecOn (motive := fun o : Overrides => o.Ordered ∧ o.Filled) _ _
    ⟨.empty, fun _ h => by cases h⟩ ?_).2
  rintro o ⟨ho, hf⟩ e -
  exact ⟨ho.set e.1 e.2.1 e.2.2, hf.set ho e.1 e.2.1 e.2.2⟩

theorem Filled.isSome_get?_iff (hf : o.Filled) {path : Path} :
    (o.get? path).isSome = true ↔ ∃ p, (o.recorded path p).isSome = true := by
  refine ⟨hf path, fun ⟨p, h⟩ => ?_⟩
  obtain ⟨v, hv⟩ := Option.isSome_iff_exists.mp h
  obtain ⟨s, hs, -⟩ := Option.bind_eq_some_iff.mp hv
  rw [hs]
  rfl

/-- Tables in which the same values are recorded are the same. -/
theorem Filled.ext_recorded (hf : o.Filled) (hf' : o'.Filled) (ho : o.Ordered) (ho' : o'.Ordered)
    (h : ∀ path p, o.recorded path p = o'.recorded path p) : o = o' := by
  refine ho.ext_get? ho' fun path => ?_
  have hsome : (o.get? path).isSome = (o'.get? path).isSome := by
    rw [Bool.eq_iff_iff, hf.isSome_get?_iff, hf'.isSome_get?_iff]
    simp only [h]
  cases hget : o.get? path with
  | none =>
    cases hget' : o'.get? path with
    | none => rfl
    | some s' => rw [hget, hget'] at hsome; cases hsome
  | some s =>
    cases hget' : o'.get? path with
    | none => rw [hget, hget'] at hsome; cases hsome
    | some s' =>
      have hvalues : ∀ p, s.get? p = s'.get? p := by
        intro p
        have hp := h path p
        rwa [recorded, recorded, hget, hget'] at hp
      rw [Styles.ext_get? hvalues]

theorem ofEdits_eq_of_lastValue (h : ∀ path p, lastValue edits path p = lastValue edits' path p) :
    ofEdits edits = ofEdits edits' := by
  refine (filled_ofEdits edits).ext_recorded (filled_ofEdits edits') (ordered_ofEdits edits)
    (ordered_ofEdits edits') fun path p => ?_
  rw [recorded_ofEdits, recorded_ofEdits, h]

/-- **Snapshots of edits.** Tables whose paths are those of nodes in documents read from markup have
the same snapshot exactly if they are the same. Edits with the same last values, in whatever order
they were made, have the same snapshot. -/
theorem snapshot_eq_iff_eq :
    (∀ o o' : Overrides, o.IsIdentified → o'.IsIdentified →
      (o.snapshot = o'.snapshot ↔ o = o')) ∧
    ∀ edits edits' : List (Path × Property × String),
      (∀ path p, lastValue edits path p = lastValue edits' path p) →
        (ofEdits edits).snapshot = (ofEdits edits').snapshot := by
  constructor
  · intro o o' ho ho'
    exact ⟨snapshot_injective ho.isNamed ho'.isNamed, fun h => h ▸ rfl⟩
  · intro edits edits' h
    rw [ofEdits_eq_of_lastValue h]

/-- The padding of one paragraph and the margin of another, set in two orders, and then the margin
cleared. -/
theorem snapshot_eq_iff_eq_paragraphs :
    let d := Document.ofMarkup "<p>a</p><p>b</p>" "preview"
    let edits := [(d.identify 1 0, Property.padding, "4px"), (d.identify 3 0, .margin, "1px ")]
    let edits' := [(d.identify 3 0, Property.margin, "2px"), (d.identify 1 0, .padding, " 4px"),
      (d.identify 3 0, .margin, "1px")]
    let cleared := edits ++ [(d.identify 3 0, .margin, "")]
    (ofEdits edits).snapshot = (ofEdits edits').snapshot ∧
      (ofEdits edits).snapshot ≠ (ofEdits cleared).snapshot := by
  intro d edits edits' cleared
  obtain ⟨htells, hlast⟩ := snapshot_eq_iff_eq
  constructor
  · refine hlast edits edits' fun path p => ?_
    have htrim : Text.trim " 4px" = Text.trim "4px" ∧ Text.trim "1px " = Text.trim "1px" := by decide
    simp only [lastValue, edits, edits']
    generalize d.identify 1 0 = first, d.identify 3 0 = second
    by_cases hfirst : first = path <;> by_cases hsecond : second = path <;> cases p <;>
      simp [hfirst, hsecond, htrim]
  · have hidentified : ∀ h, (d.identify h 0).IsIdentified :=
      fun h => ⟨d, h, 0, .ofMarkup _ _, rfl⟩
    rw [ne_eq, htells]
    · decide +kernel
    · exact isIdentified_ofEdits (by simp [edits, hidentified])
    · exact isIdentified_ofEdits (by simp [cleared, edits, hidentified])

end Overrides
end Restyle
