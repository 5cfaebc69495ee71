import Restyle.Session.Operation
import Restyle.Proofs.Overrides.Table

/-!
# Restyle.Proofs.Session.Sync

Runs of a session. An `Action` is one call, and `Reachable` holds of the states that calls lead
to from the start. The tools are arbitrary: compiling is told the number of the attempt, and
rendering changes the component, so that every call may give another result. Where a run is
written out, it is one of `Session.paragraph`.

What a call does to the source and to the edits.

* `SameEdits`: the steps of selecting and rendering leave alone what patching is about.
* `source_runPatch`, `sameEdits_runPatch`: a patch changes the source to what the patcher gave,
  engages the guard, and changes nothing else of it.
* `syncPoint`: the state in which a call looks at the edits, if it does. All that a call does to
  the source on its own is done from there (`act_of_syncPoint`).
-/

namespace Restyle

/-- One call of a session. -/
inductive Action where
  | setSource (source : String)
  | click (c : Click)
  | press (k : KeyPress)
  | closePopover
  | updateStyle (p : Property) (value : String) (now : Nat)
  | clearOverrides
  | unmount
  | tick (now : Nat)

namespace Session

variable {γ : Type}

/-- What a call does. -/
def act (t : Tools γ) (s : Session γ) : Action → Change γ
  | .setSource source => s.setSource t source
  | .click c => s.click t c
  | .press k => s.press k
  | .closePopover => s.clearSelection
  | .updateStyle p value now => s.updateStyle t p value now
  | .clearOverrides => s.clearOverrides t
  | .unmount => s.unmount
  | .tick now => s.tick t now

/-- The states of a session whose guard has some window. -/
inductive Reachable (t : Tools γ) (window : Nat) : Session γ → Prop where
  | start (source : String) : Reachable t window (start t window source)
  | act {s : Session γ} (a : Action) : Reachable t window s →
      Reachable t window (s.act t a).session

/-- The state after some calls. -/
def run (t : Tools γ) (s : Session γ) (as : List Action) : Session γ :=
  as.foldl (fun s a => (s.act t a).session) s

theorem Reachable.run {t : Tools γ} {window : Nat} {s : Session γ} (hr : Reachable t window s)
    (as : List Action) : Reachable t window (s.run t as) := by
  induction as generalizing s with
  | nil => exact hr
  | cons a as ih => exact ih (hr.act a)

end Session

/-- Tools under which every source compiles to a component that always renders one paragraph. -/
def Tools.paragraph : Tools Unit where
  compile _ _ := .ok ("App", ())
  render c := (.ok "<p>a</p>", c)
  patch := Source.patchPath
  rootClass := "preview"
  sheet := ⟨[]⟩
  popoverOffset := 10

/-- A session with these tools, begun with the component that they stand for. -/
def Session.paragraph : Session Unit :=
  start .paragraph 100 "export default function App() { return <p>a</p>; }"

/-- A click that selects an element. -/
def Action.pick (element : Handle) : Action :=
  .click { target := some element, x := 0, y := 0, alt := true }

/-! ## What a call does -/

namespace Session

variable {γ : Type} {t : Tools γ} {s s' s'' : Session γ} {a : Action} {now : Nat}

/-! ## Steps that leave the edits alone -/

/-- Source, edits, guard and the last snapshot are the same, and no patch has begun to wait. -/
structure SameEdits (s s' : Session γ) : Prop where
  source : s'.source = s.source
  overrides : s'.overrides = s.overrides
  lastPatched : s'.lastPatched = s.lastPatched
  guard : s'.guard = s.guard
  pending : s'.pending = true → s.pending = true

namespace SameEdits

theorem refl (s : Session γ) : SameEdits s s := ⟨rfl, rfl, rfl, rfl, id⟩

theorem trans (h : SameEdits s s') (h' : SameEdits s' s'') : SameEdits s s'' where
  source := h'.source.trans h.source
  overrides := h'.overrides.trans h.overrides
  lastPatched := h'.lastPatched.trans h.lastPatched
  guard := h'.guard.trans h.guard
  pending hp := h.pending (h'.pending hp)

theorem clearSelection (s : Session γ) : SameEdits s s.clearSelection.session := by
  unfold Session.clearSelection
  split
  · exact refl s
  · exact ⟨rfl, rfl, rfl, rfl, fun h => by cases h⟩

theorem refreshSelection (s : Session γ) : SameEdits s s.refreshSelection.session := by
  unfold Session.refreshSelection
  split
  · exact refl s
  · split
    · exact ⟨rfl, rfl, rfl, rfl, id⟩
    · exact clearSelection s

theorem select (s : Session γ) (element : Handle) (x y : Float32) :
    SameEdits s (s.select t element x y).session := by
  unfold Session.select
  split
  · exact refl s
  · dsimp only
    split
    · exact refl s
    · exact ⟨rfl, rfl, rfl, rfl, id⟩

/-- A step after a change. -/
theorem andThen {c : Change γ} {step : Session γ → Change γ} (h : SameEdits s c.session)
    (hstep : ∀ s, SameEdits s (step s).session) : SameEdits s (c.andThen step).session :=
  h.trans (hstep c.session)

theorem renderPreview (s : Session γ) : SameEdits s (s.renderPreview t).session := by
  unfold Session.renderPreview
  split
  · exact refl s
  · split
    · exact andThen ⟨rfl, rfl, rfl, rfl, id⟩ refreshSelection
    · exact andThen ⟨rfl, rfl, rfl, rfl, id⟩ clearSelection

theorem recompile (s : Session γ) : SameEdits s (s.recompile t).session := by
  unfold Session.recompile
  dsimp only
  split
  · exact andThen ⟨rfl, rfl, rfl, rfl, id⟩ renderPreview
  · exact andThen ⟨rfl, rfl, rfl, rfl, id⟩ clearSelection

theorem replaceSource (s : Session γ) (source : String) (origin : Origin) :
    SameEdits { s with source } (s.replaceSource t source origin).session :=
  recompile { s with source }

end SameEdits

/-! ## Patching -/

theorem source_runPatch (s : Session γ) (path : Path) (styles : Styles) :
    (s.runPatch t now path styles).session.source =
      match t.patch s.source path styles with
      | .ok source => source
      | .error _ => s.source := by
  unfold runPatch
  dsimp only
  cases t.patch s.source path styles with
  | error e => rfl
  | ok source =>
    dsimp only
    split
    · rename_i h; exact (beq_iff_eq.mp h).symm
    · exact (SameEdits.replaceSource _ source .patch).source

theorem sameEdits_runPatch (s : Session γ) (path : Path) (styles : Styles) :
    ∃ source, SameEdits { s with guard := s.guard.engage now, source }
      (s.runPatch t now path styles).session := by
  unfold runPatch
  dsimp only
  split
  · split
    · exact ⟨s.source, .refl _⟩
    · rename_i source _ _
      exact ⟨source, .replaceSource { s with guard := s.guard.engage now } source .patch⟩
  · exact ⟨s.source, .refl _⟩

theorem overrides_syncSource (s : Session γ) :
    (s.syncSource t now).session.overrides = s.overrides := by
  unfold syncSource
  split
  · rfl
  · rfl
  · rfl
  · rfl
  · obtain ⟨_, h⟩ := sameEdits_runPatch _ _ _
    exact h.overrides

/-- What each plan is made for. -/
inductive Planned (s : Session γ) (now : Nat) : SyncPlan → Prop where
  | unselected : s.selection = none → Planned s now .nothing
  | unedited : s.overrides.isEmpty = true → Planned s now .nothing
  | postpone {selected : Selection} : s.selection = some selected →
      s.overrides.isEmpty = false → s.guard.isEngaged now = true → Planned s now .postpone
  | redundant {selected : Selection} : s.selection = some selected →
      s.overrides.isEmpty = false → s.guard.isEngaged now = false →
      s.overrides.snapshot = s.lastPatched → Planned s now .redundant
  | unrecorded {selected : Selection} : s.selection = some selected →
      s.overrides.isEmpty = false → s.guard.isEngaged now = false →
      s.overrides.snapshot ≠ s.lastPatched → s.overrides.get? selected.path = none →
      Planned s now .unrecorded
  | patch {selected : Selection} {styles : Styles} : s.selection = some selected →
      s.overrides.isEmpty = false → s.guard.isEngaged now = false →
      s.overrides.snapshot ≠ s.lastPatched → s.overrides.get? selected.path = some styles →
      Planned s now (.patch selected.path styles)

theorem planned (s : Session γ) (now : Nat) : Planned s now (s.syncPlan now) := by
  unfold syncPlan
  split
  · rename_i hs; exact .unselected hs
  · rename_i selected hs
    split
    · rename_i hempty; exact .unedited hempty
    · rename_i hempty
      rw [Bool.not_eq_true] at hempty
      split
      · rename_i hengaged; exact .postpone hs hempty hengaged
      · rename_i hfree
        rw [Bool.not_eq_true] at hfree
        split
        · rename_i hsame; exact .redundant hs hempty hfree (beq_iff_eq.mp hsame)
        · rename_i hchanged
          have hne : s.overrides.snapshot ≠ s.lastPatched := fun h => hchanged (beq_iff_eq.mpr h)
          split
          · rename_i hnone; exact .unrecorded hs hempty hfree hne hnone
          · rename_i hsome; exact .patch hs hempty hfree hne hsome

theorem syncPlan_of_same {selected : Selection} (hs : s.selection = some selected)
    (hedits : s.overrides.isEmpty = false) (hfree : s.guard.isEngaged now = false)
    (hsame : s.overrides.snapshot = s.lastPatched) : s.syncPlan now = .redundant := by
  unfold syncPlan
  rw [hs]
  simp [hedits, hfree, hsame]

theorem syncPlan_of_recorded {selected : Selection} {styles : Styles}
    (hs : s.selection = some selected) (hst : s.overrides.get? selected.path = some styles)
    (hfree : s.guard.isEngaged now = false) (hchanged : s.overrides.snapshot ≠ s.lastPatched) :
    s.syncPlan now = .patch selected.path styles := by
  unfold syncPlan
  rw [hs]
  simp [Overrides.isEmpty_eq_false_of_get? hst, hfree, hst, hchanged]

/-- A patch is planned for the path that is selected, and for other edits than those of the last
snapshot. -/
theorem of_syncPlan_patch {path : Path} {styles : Styles} (h : s.syncPlan now = .patch path styles) :
    ∃ selected, s.selection = some selected ∧ selected.path = path ∧
      s.overrides.snapshot ≠ s.lastPatched := by
  have hplanned := s.planned now
  generalize s.syncPlan now = plan at h hplanned
  cases hplanned with
  | patch hs _ _ hchanged _ =>
    cases h
    exact ⟨_, hs, rfl, hchanged⟩
  | unselected | unedited | postpone | redundant | unrecorded => cases h

/-- The edits of the last snapshot are passed over. -/
theorem syncSource_of_same {selected : Selection} (hs : s.selection = some selected)
    (hedits : s.overrides.isEmpty = false) (hfree : s.guard.isEngaged now = false)
    (hsame : s.overrides.snapshot = s.lastPatched) :
    s.syncSource t now =
      { session := { s with pending := false }, events := [.patchSkipped .redundant] } := by
  unfold syncSource
  rw [syncPlan_of_same hs hedits hfree hsame]

/-- The snapshot is taken of other edits, and then they are patched. -/
theorem syncSource_of_recorded {selected : Selection} {styles : Styles}
    (hs : s.selection = some selected) (hst : s.overrides.get? selected.path = some styles)
    (hfree : s.guard.isEngaged now = false) (hchanged : s.overrides.snapshot ≠ s.lastPatched) :
    s.syncSource t now =
      runPatch t { s with pending := false, lastPatched := s.overrides.snapshot } now selected.path
        styles := by
  unfold syncSource
  rw [syncPlan_of_recorded hs hst hfree hchanged]

/-! ## Where a call looks at the edits -/

/-- The state in which a call looks at the edits, and the time, if it does. -/
def syncPoint (s : Session γ) : Action → Option (Session γ × Nat)
  | .updateStyle p value now =>
    s.selection.map fun selected => ((s.recordEdit selected.path p value).session, now)
  | .tick now =>
    let s := { s with guard := s.guard.release now }
    if !s.pending || s.guard.isEngaged now then none else some (s, now)
  | _ => none

/-- An edit is looked at once it is recorded, a patch that waits once the guard lets go. -/
theorem syncPoint_cases (h : s.syncPoint a = some (s', now)) :
    (∃ selected p value, a = .updateStyle p value now ∧ s.selection = some selected ∧
      s' = (s.recordEdit selected.path p value).session) ∨
    (a = .tick now ∧ s' = { s with guard := s.guard.release now } ∧
      (!s.pending || (s.guard.release now).isEngaged now) = false) := by
  cases a with
  | updateStyle p value now' =>
    obtain ⟨selected, hs, heq⟩ := Option.map_eq_some_iff.mp h
    cases heq
    exact .inl ⟨selected, p, value, rfl, hs, rfl⟩
  | tick now' =>
    unfold syncPoint at h
    dsimp only at h
    split at h
    · cases h
    · rename_i hcond
      cases h
      exact .inr ⟨rfl, rfl, Bool.not_eq_true _ ▸ hcond⟩
  | setSource | click | press | closePopover | clearOverrides | unmount => cases h

/-- What a call that looks at the edits does is done from there. Before that it only tells of an
edit. -/
theorem act_of_syncPoint (h : s.syncPoint a = some (s', now)) :
    (s.act t a).session = (s'.syncSource t now).session ∧
      ∃ before, (s.act t a).events = before ++ (s'.syncSource t now).events ∧
        ∀ e ∈ before, ∃ path, e = .overridesChanged path := by
  obtain ⟨selected, p, value, rfl, hs, rfl⟩ | ⟨rfl, rfl, hcond⟩ := syncPoint_cases h
  · unfold act updateStyle
    rw [hs]
    exact ⟨rfl, [.overridesChanged (some selected.path)], rfl, fun e he =>
      ⟨_, List.mem_singleton.mp he⟩⟩
  · unfold act tick
    dsimp only
    rw [hcond]
    exact ⟨rfl, [], rfl, nofun⟩

theorem lastPatched_syncPoint (h : s.syncPoint a = some (s', now)) :
    s'.lastPatched = s.lastPatched := by
  obtain ⟨_, _, _, -, -, rfl⟩ | ⟨-, rfl, -⟩ := syncPoint_cases h <;> rfl

theorem source_syncPoint (h : s.syncPoint a = some (s', now)) : s'.source = s.source := by
  obtain ⟨_, _, _, -, -, rfl⟩ | ⟨-, rfl, -⟩ := syncPoint_cases h <;> rfl

/-- What a call that does not look at the edits does with all that patching is about: it may only
change the source, forget the edits, or take a deadline away. -/
inductive Idle (s : Session γ) : Action → Session γ → Prop where
  | steady {a : Action} {s' : Session γ} (source : String) : (∀ now, a ≠ .tick now) →
      a ≠ .unmount → SameEdits { s with source } s' → Idle s a s'
  | clear {s' : Session γ} : SameEdits { s with overrides := {}, pending := false } s' →
      Idle s .clearOverrides s'
  | unmount {s' : Session γ} : SameEdits { s with guard := s.guard.reset, pending := false } s' →
      Idle s .unmount s'
  | tick {s' : Session γ} (now : Nat) : s' = { s with guard := s.guard.release now } →
      Idle s (.tick now) s'

theorem idle_act (h : s.syncPoint a = none) : Idle s a (s.act t a).session := by
  have steady : ∀ {s' : Session γ} {a : Action}, (∀ now, a ≠ .tick now) → a ≠ .unmount →
      SameEdits s s' → Idle s a s' := fun ht hu hs => .steady s.source ht hu hs
  cases a with
  | setSource source =>
    unfold act setSource
    dsimp only
    split
    · exact steady nofun nofun (.refl s)
    · exact .steady source nofun nofun (.replaceSource s source .user)
  | click c =>
    unfold act click
    dsimp only
    split
    · exact steady nofun nofun (.refl s)
    · split
      · exact steady nofun nofun (.select s _ _ _)
      · exact steady nofun nofun (.clearSelection s)
  | press k =>
    cases k with
    | escape => exact steady nofun nofun (.clearSelection s)
    | other => exact steady nofun nofun (.refl s)
  | closePopover => exact steady nofun nofun (.clearSelection s)
  | updateStyle p value now =>
    unfold act updateStyle
    rw [Option.map_eq_none_iff.mp h]
    exact steady nofun nofun (.refl s)
  | clearOverrides =>
    unfold act clearOverrides
    dsimp only
    split
    · exact steady nofun nofun (.refl s)
    · exact .clear (.renderPreview { s with overrides := {}, pending := false })
  | unmount =>
    have hs := SameEdits.clearSelection s
    refine .unmount ⟨hs.source, hs.overrides, hs.lastPatched, ?_, fun h => by cases h⟩
    exact congrArg Guard.reset hs.guard
  | tick now =>
    unfold syncPoint at h
    dsimp only at h
    split at h
    · rename_i hcond
      unfold act tick
      dsimp only
      rw [if_pos hcond]
      exact .tick now rfl
    · cases h

/-- A call that does not look at the edits keeps the last snapshot; and it keeps the edits, unless
it clears them all, and then nothing waits. -/
theorem act_of_syncPoint_eq_none (h : s.syncPoint a = none) :
    (s.act t a).session.lastPatched = s.lastPatched ∧
      ((s.act t a).session.overrides = s.overrides ∨ (s.act t a).session.pending = false) := by
  cases idle_act (t := t) h with
  | steady source _ _ hs => exact ⟨hs.lastPatched, .inl hs.overrides⟩
  | clear hs =>
    exact ⟨hs.lastPatched, .inr (Bool.eq_false_iff.mpr fun hp => Bool.noConfusion (hs.pending hp))⟩
  | unmount hs => exact ⟨hs.lastPatched, .inl hs.overrides⟩
  | tick now hs => rw [hs]; exact ⟨rfl, .inl rfl⟩

end Session
end Restyle
