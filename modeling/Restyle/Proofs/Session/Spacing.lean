import Restyle.Proofs.Session.Sync

/-!
# Restyle.Proofs.Session.Spacing

Patches keep their distance. As long as time does not go back, any two runs of the patcher in a
session are a guard window apart, a deadline stays where it is until it has passed, and an edit
made before that leaves the source alone (`patches_apart`).

* `patchTime?`: when a call runs the patcher. A call without such a time does the same with every
  patcher (`act_of_patchTime?_eq_none`).
* `guard_act`: a call engages the guard when it runs the patcher, and at no other time; and a tick
  drops a deadline that has passed.
* `FreeFrom`: from when on the guard lets go. Each patch moves that time on by the window.
-/

namespace Restyle

/-- The time that a call carries. -/
def Action.time? : Action → Option Nat
  | .updateStyle _ _ now | .tick now => some now
  | .setSource _ | .click _ | .press _ | .closePopover | .clearOverrides | .unmount => none

/-- What the time of a call does to the guard: a tick drops a deadline that has passed. -/
def Action.ease (a : Action) (g : Guard) : Guard :=
  match a with
  | .tick now => g.release now
  | _ => g

namespace Guard

variable {g : Guard} {now : Nat}

theorem release_of_isEngaged (h : g.isEngaged now = true) : g.release now = g := by
  obtain ⟨window, deadline⟩ := g
  cases deadline with
  | none => rfl
  | some d =>
    have hlt : now < d := by simpa [isEngaged] using h
    simp [release, isExpired, Nat.not_le_of_lt hlt]

@[simp] theorem window_release : (g.release now).window = g.window := by
  unfold release
  split <;> rfl

@[simp] theorem engage_release : (g.release now).engage now = g.engage now := by
  unfold release
  split <;> rfl

end Guard

namespace Session

variable {γ : Type} {t : Tools γ} {s s₁ : Session γ} {a : Action} {now window : Nat}

/-! ## When the patcher runs -/

/-- The time at which a call runs the patcher, if it does. -/
def patchTime? (s : Session γ) (a : Action) : Option Nat :=
  (s.syncPoint a).bind fun (s₁, now) =>
    match s₁.syncPlan now with
    | .patch .. => some now
    | .nothing | .postpone | .redundant | .unrecorded => none

/-- The times at which some calls run the patcher, one after the other. -/
def patchTimes (t : Tools γ) : Session γ → List Action → List Nat
  | _, [] => []
  | s, a :: as => (s.patchTime? a).toList ++ patchTimes t (s.act t a).session as

/-- A call runs the patcher at the time that it carries, once the guard has let go. -/
theorem patchTime?_cases (h : s.patchTime? a = some now) :
    ∃ s₁ path styles, s.syncPoint a = some (s₁, now) ∧ s₁.syncPlan now = .patch path styles ∧
      a.time? = some now ∧ s.guard.isEngaged now = false := by
  obtain ⟨⟨s₁, now'⟩, hpoint, hplan⟩ := Option.bind_eq_some_iff.mp h
  dsimp only at hplan
  split at hplan <;> cases hplan
  · rename_i path styles hpatch
    refine ⟨s₁, path, styles, hpoint, hpatch, ?_⟩
    have hplanned := s₁.planned now
    rw [hpatch] at hplanned
    obtain _ | _ | _ | _ | _ | ⟨_, _, hfree, _, _⟩ := hplanned
    obtain ⟨_, _, _, rfl, -, rfl⟩ | ⟨rfl, rfl, -⟩ := syncPoint_cases hpoint
    · exact ⟨rfl, hfree⟩
    · refine ⟨rfl, Bool.eq_false_iff.mpr fun hengaged => ?_⟩
      rw [show (s.guard.release now).isEngaged now = true by
        rw [Guard.release_of_isEngaged hengaged]; exact hengaged] at hfree
      cases hfree

/-- Without a patch the guard and the source are those that the call looked at. -/
theorem syncSource_of_not_patch (hplan : ∀ path styles, s.syncPlan now ≠ .patch path styles) :
    (s.syncSource t now).session.guard = s.guard ∧
      (s.syncSource t now).session.source = s.source := by
  unfold syncSource
  split
  · exact ⟨rfl, rfl⟩
  · exact ⟨rfl, rfl⟩
  · exact ⟨rfl, rfl⟩
  · exact ⟨rfl, rfl⟩
  · rename_i path styles h
    exact absurd h (hplan path styles)

theorem not_patch_of_patchTime?_eq_none (hpoint : s.syncPoint a = some (s₁, now))
    (h : s.patchTime? a = none) (path : Path) (styles : Styles) :
    s₁.syncPlan now ≠ .patch path styles := by
  intro hplan
  simp [patchTime?, hpoint, hplan] at h

theorem guard_runPatch (s : Session γ) (path : Path) (styles : Styles) :
    (s.runPatch t now path styles).session.guard = s.guard.engage now := by
  have hsame : ∃ source, SameEdits { s with guard := s.guard.engage now, source }
      (s.runPatch t now path styles).session := sameEdits_runPatch s path styles
  obtain ⟨_, h⟩ := hsame
  exact h.guard

/-- A call that does not look at the edits leaves the guard alone, but for a deadline that a tick
finds to have passed. -/
theorem guard_act_of_syncPoint_eq_none (h : s.syncPoint a = none) (hm : a ≠ .unmount) :
    (s.act t a).session.guard = a.ease s.guard := by
  cases idle_act (t := t) h with
  | steady source ht _ hs =>
    rw [hs.guard]
    cases a with
    | tick now => exact absurd rfl (ht now)
    | setSource | click | press | closePopover | updateStyle | clearOverrides | unmount => rfl
  | clear hs => exact hs.guard
  | unmount _ => exact absurd rfl hm
  | tick now hs => rw [hs]; rfl

/-- **What a call does to the guard.** It is engaged when the patcher runs; a tick drops a deadline
that has passed; nothing else but unmounting touches it. -/
theorem guard_act (hm : a ≠ .unmount) :
    (s.act t a).session.guard =
      match s.patchTime? a with
      | some now => s.guard.engage now
      | none => a.ease s.guard := by
  cases hpoint : s.syncPoint a with
  | none =>
    have hpatch : s.patchTime? a = none := by simp [patchTime?, hpoint]
    rw [hpatch, guard_act_of_syncPoint_eq_none hpoint hm]
  | some point =>
    obtain ⟨s₁, now⟩ := point
    rw [(act_of_syncPoint hpoint).1]
    cases hpatch : s.patchTime? a with
    | some now' =>
      obtain ⟨s₂, path, styles, hpoint', hplan, -, -⟩ := patchTime?_cases hpatch
      cases hpoint.symm.trans hpoint'
      unfold syncSource
      rw [hplan]
      refine (guard_runPatch _ path styles).trans ?_
      obtain ⟨_, _, _, rfl, -, rfl⟩ | ⟨rfl, rfl, -⟩ := syncPoint_cases hpoint
      · rfl
      · exact Guard.engage_release
    | none =>
      rw [(syncSource_of_not_patch (not_patch_of_patchTime?_eq_none hpoint hpatch)).1]
      obtain ⟨_, _, _, rfl, -, rfl⟩ | ⟨rfl, rfl, -⟩ := syncPoint_cases hpoint <;> rfl

/-- A call that does not run the patcher does the same with every patcher. -/
theorem act_of_patchTime?_eq_none (patch : String → Path → Styles → Except Source.PatchError String)
    (h : s.patchTime? a = none) : s.act { t with patch } a = s.act t a := by
  have hsync : ∀ {s₁ : Session γ} {now : Nat}, s.syncPoint a = some (s₁, now) →
      s₁.syncSource { t with patch } now = s₁.syncSource t now := by
    intro s₁ now hpoint
    unfold syncSource
    split
    · rfl
    · rfl
    · rfl
    · rfl
    · rename_i path styles hplan
      exact absurd hplan (not_patch_of_patchTime?_eq_none hpoint h path styles)
  cases a with
  | setSource | click | press | closePopover | clearOverrides | unmount => rfl
  | updateStyle p value now =>
    unfold act updateStyle
    cases hs : s.selection with
    | none => rfl
    | some selected =>
      have hpoint : s.syncPoint (.updateStyle p value now) =
          some ((s.recordEdit selected.path p value).session, now) := by
        simp [syncPoint, hs]
      simp only [Change.andThen, hsync hpoint]
  | tick now =>
    unfold act tick
    dsimp only
    split
    · rfl
    · rename_i hcond
      have hpoint : s.syncPoint (.tick now) =
          some ({ s with guard := s.guard.release now }, now) := if_neg hcond
      rw [hsync hpoint]

/-- A call that runs the patcher leaves what it gives. -/
theorem source_act_of_patchTime? (h : s.patchTime? a = some now) : ∃ path styles,
    (s.act t a).session.source =
      match t.patch s.source path styles with
      | .ok source => source
      | .error _ => s.source := by
  obtain ⟨s₁, path, styles, hpoint, hplan, -, -⟩ := patchTime?_cases h
  refine ⟨path, styles, ?_⟩
  rw [(act_of_syncPoint hpoint).1]
  unfold syncSource
  rw [hplan]
  refine (source_runPatch _ path styles).trans ?_
  exact source_syncPoint hpoint ▸ rfl

/-! ## What does not move while the guard holds -/

theorem patchTime?_of_isEngaged (hnow : a.time? = none ∨ a.time? = some now)
    (hengaged : s.guard.isEngaged now = true) : s.patchTime? a = none := by
  cases hpatch : s.patchTime? a with
  | none => rfl
  | some now' =>
    obtain ⟨_, _, _, -, -, htime, hfree⟩ := patchTime?_cases hpatch
    obtain h | h := hnow
    · cases h.symm.trans htime
    · cases h.symm.trans htime
      exact absurd hengaged (by rw [hfree]; decide)

theorem guard_act_of_isEngaged (hm : a ≠ .unmount) (hnow : a.time? = none ∨ a.time? = some now)
    (hengaged : s.guard.isEngaged now = true) : (s.act t a).session.guard = s.guard := by
  rw [guard_act hm, patchTime?_of_isEngaged hnow hengaged]
  cases a with
  | tick now' =>
    obtain h | h := hnow
    · cases h
    · cases h
      exact Guard.release_of_isEngaged hengaged
  | setSource | click | press | closePopover | updateStyle | clearOverrides | unmount => rfl

theorem source_updateStyle_of_isEngaged (p : Property) (value : String)
    (hengaged : s.guard.isEngaged now = true) :
    (s.act t (.updateStyle p value now)).session.source = s.source := by
  have hpatch : s.patchTime? (.updateStyle p value now) = none :=
    patchTime?_of_isEngaged (.inr rfl) hengaged
  cases hpoint : s.syncPoint (.updateStyle p value now) with
  | none =>
    unfold act updateStyle
    rw [Option.map_eq_none_iff.mp hpoint]
  | some point =>
    obtain ⟨s₁, now'⟩ := point
    rw [(act_of_syncPoint hpoint).1, ← source_syncPoint hpoint]
    exact (syncSource_of_not_patch (not_patch_of_patchTime?_eq_none hpoint hpatch)).2

/-! ## Runs -/

/-- From a time on, the guard does not let go before another time. -/
def FreeFrom (s : Session γ) (clock earliest : Nat) : Prop :=
  ∀ now, clock ≤ now → s.guard.isEngaged now = false → earliest ≤ now

/-- The guard of a session keeps the window that it was given. -/
theorem window_act (hm : a ≠ .unmount) : (s.act t a).session.guard.window = s.guard.window := by
  rw [guard_act hm]
  cases s.patchTime? a with
  | some now => rfl
  | none =>
    cases a with
    | tick now => exact Guard.window_release
    | setSource | click | press | closePopover | updateStyle | clearOverrides | unmount => rfl

theorem window_start (t : Tools γ) (window : Nat) (source : String) :
    (start t window source).guard.window = window :=
  congrArg Guard.window (SameEdits.recompile (t := t) { source, guard := { window } }).guard

/-- A call that runs no patcher does not make the guard let go earlier, as long as its time is not
earlier than the clock. -/
theorem FreeFrom.act_of_not_patch {clock earliest : Nat} (hf : FreeFrom s clock earliest)
    (hm : a ≠ .unmount) (hpatch : s.patchTime? a = none)
    (htime : ∀ now, a.time? = some now → clock ≤ now) :
    FreeFrom (s.act t a).session ((a.time?).getD clock) earliest := by
  intro now hnow hfree
  rw [guard_act hm, hpatch] at hfree
  cases a with
  | tick at' =>
    have hclock : clock ≤ at' := htime at' rfl
    replace hnow : at' ≤ now := hnow
    replace hfree : (s.guard.release at').isEngaged now = false := hfree
    cases hengaged : s.guard.isEngaged at' with
    | false => exact Nat.le_trans (hf at' hclock hengaged) hnow
    | true =>
      rw [Guard.release_of_isEngaged hengaged] at hfree
      exact hf now (Nat.le_trans hclock hnow) hfree
  | updateStyle p value at' => exact hf now (Nat.le_trans (htime at' rfl) hnow) hfree
  | setSource | click | press | closePopover | clearOverrides | unmount => exact hf now hnow hfree

/-- After a patch the guard holds for its window. -/
theorem FreeFrom.act_of_patch {clock : Nat} (hm : a ≠ .unmount)
    (hpatch : s.patchTime? a = some now) :
    FreeFrom (s.act t a).session clock (now + s.guard.window) := by
  intro later _ hfree
  rw [guard_act hm, hpatch] at hfree
  simpa [Guard.isEngaged, Guard.engage] using hfree

/-- **A run from a state in which the guard lets go from some time on.** No patch is made before
that time, and any two patches are a window apart. -/
theorem patchTimes_of_freeFrom {as : List Action} {clock earliest : Nat}
    (hf : FreeFrom s clock earliest) (hm : Action.unmount ∉ as)
    (hsorted : (clock :: as.filterMap Action.time?).Pairwise (· ≤ ·)) :
    (∀ now ∈ s.patchTimes t as, earliest ≤ now) ∧
      (s.patchTimes t as).Pairwise fun before after => before + s.guard.window ≤ after := by
  induction as generalizing s clock earliest with
  | nil => exact ⟨fun _ h => (by cases h), .nil⟩
  | cons a as ih =>
    have hne : a ≠ .unmount := fun h => hm (h ▸ List.mem_cons_self)
    have hm' : Action.unmount ∉ as := fun h => hm (List.mem_cons_of_mem _ h)
    have htime : ∀ now, a.time? = some now → clock ≤ now := by
      intro now h
      rw [List.filterMap_cons_some h] at hsorted
      exact List.rel_of_pairwise_cons hsorted List.mem_cons_self
    have hsorted' : (a.time?.getD clock :: as.filterMap Action.time?).Pairwise (· ≤ ·) := by
      cases h : a.time? with
      | none => rwa [List.filterMap_cons_none h] at hsorted
      | some now =>
        rw [List.filterMap_cons_some h] at hsorted
        exact hsorted.of_cons
    have hwindow := window_act (t := t) (s := s) hne
    unfold patchTimes
    cases hpatch : s.patchTime? a with
    | none =>
      have h := ih (hf.act_of_not_patch (t := t) hne hpatch htime) hm' hsorted'
      rw [hwindow] at h
      exact h
    | some now =>
      obtain ⟨_, _, _, -, -, hnow, hfree⟩ := patchTime?_cases hpatch
      obtain ⟨hlater, hapart⟩ := ih (FreeFrom.act_of_patch (t := t) hne hpatch) hm' hsorted'
      rw [hwindow] at hapart
      have hearliest : earliest ≤ now := hf now (htime now hnow) hfree
      refine ⟨?_, List.pairwise_cons.mpr ⟨hlater, hapart⟩⟩
      intro now' h
      obtain rfl | h := List.mem_cons.mp h
      · exact hearliest
      · exact Nat.le_trans hearliest (Nat.le_trans (Nat.le_add_right _ _) (hlater now' h))

/-- **Patches are a window apart.** In a run without unmounting whose times do not go back, between
any two runs of the patcher there is the window of the guard. While the guard holds, a call does
not move its deadline, and an edit leaves the source alone. The times are those of all runs of the
patcher: at a call without one any patcher would do, and a call with one leaves what it gives. -/
theorem patches_apart (t : Tools γ) (window : Nat) (source : String) (as : List Action)
    (hm : Action.unmount ∉ as) (hsorted : (as.filterMap Action.time?).Pairwise (· ≤ ·)) :
    ((start t window source).patchTimes t as).Pairwise
        (fun before after => before + window ≤ after) ∧
      ∀ done a rest, as = done ++ a :: rest →
        let s := (start t window source).run t done
        (∀ now, a.time? = none ∨ a.time? = some now → s.guard.isEngaged now = true →
          (s.act t a).session.guard.deadline = s.guard.deadline) ∧
        (∀ p value now, a = .updateStyle p value now → s.guard.isEngaged now = true →
          (s.act t a).session.source = s.source) ∧
        (s.patchTime? a = none → ∀ patch, s.act { t with patch } a = s.act t a) ∧
        (∀ now, s.patchTime? a = some now → a.time? = some now ∧ ∃ path styles,
          (s.act t a).session.source =
            match t.patch s.source path styles with
            | .ok source => source
            | .error _ => s.source) := by
  have hfree : FreeFrom (start t window source) 0 0 := fun _ _ _ => Nat.zero_le _
  have hclock : (0 :: as.filterMap Action.time?).Pairwise (· ≤ ·) :=
    List.pairwise_cons.mpr ⟨fun _ _ => Nat.zero_le _, hsorted⟩
  obtain ⟨-, hapart⟩ := patchTimes_of_freeFrom (t := t) hfree hm hclock
  rw [window_start] at hapart
  refine ⟨hapart, fun done a rest has => ?_⟩
  have hne : a ≠ .unmount := by
    rintro rfl
    exact hm (has ▸ List.mem_append_right _ List.mem_cons_self)
  intro s
  refine ⟨fun now hnow hengaged => ?_, ?_, fun h patch => act_of_patchTime?_eq_none patch h,
    fun now h => ?_⟩
  · exact congrArg Guard.deadline (guard_act_of_isEngaged hne hnow hengaged)
  · rintro p value now rfl hengaged
    exact source_updateStyle_of_isEngaged p value hengaged
  · obtain ⟨_, _, _, -, -, htime, -⟩ := patchTime?_cases h
    exact ⟨htime, source_act_of_patchTime? h⟩

/-- An edit, a second one that waits, and the tick that makes it up: two patches, 200 apart. -/
theorem patches_apart_waiting :
    let as := [.pick 1, .updateStyle .padding "1px" 0, .updateStyle .padding "2px" 10, .tick 200]
    paragraph.patchTimes .paragraph as = [0, 200] ∧
      (paragraph.patchTimes .paragraph as).Pairwise fun before after => before + 100 ≤ after := by
  intro as
  refine ⟨by decide +kernel, ?_⟩
  exact (patches_apart .paragraph 100 _ as (by simp [as, Action.pick]) (by decide +kernel)).1

end Session
end Restyle
