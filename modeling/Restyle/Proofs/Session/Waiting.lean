import Restyle.Proofs.Session.Consistency
import Restyle.Proofs.Session.Sync

/-!
# Restyle.Proofs.Session.Waiting

What becomes of an edit that waits for the guard.

The session remembers that a patch waits, but not for which element. While it waits, the edit stays
recorded (`Waiting.isSome_get?`), since only clearing all edits removes one, and that ends the
waiting. The tick after the guard's deadline patches the element that is selected then. It does so
for the edit that waited just if that is the element it was made for, and the edits are not the ones
that were patched last (`patchesAt_deferred_iff`). Where nothing is recorded for the element that is
selected, the tick patches nothing and yet takes the snapshot, and the edit is lost
(`reselection_drops_deferred`).
-/

namespace Restyle
namespace Session

variable {γ : Type} {t : Tools γ} {s s' : Session γ} {a : Action} {now window : Nat} {q : Path}

/-! ## What waits stays recorded -/

/-- Only clearing all edits removes one, and then nothing waits any longer. -/
theorem isSome_get?_act (hq : (s.overrides.get? q).isSome = true)
    (hp : (s.act t a).session.pending = true) :
    ((s.act t a).session.overrides.get? q).isSome = true := by
  cases hpoint : s.syncPoint a with
  | none =>
    obtain ⟨-, hsame | hdone⟩ := act_of_syncPoint_eq_none (t := t) hpoint
    · rw [hsame]; exact hq
    · rw [hdone] at hp; cases hp
  | some point =>
    obtain ⟨s₁, now⟩ := point
    rw [(act_of_syncPoint hpoint).1, overrides_syncSource]
    obtain ⟨selected, p, value, -, -, rfl⟩ | ⟨-, rfl, -⟩ := syncPoint_cases hpoint
    · exact Overrides.isSome_get?_set_of_isSome hq selected.path p value
    · exact hq

/-- Runs in which a patch waits after every call. -/
inductive Waiting (t : Tools γ) (s : Session γ) : Session γ → Prop where
  | refl : Waiting t s s
  | act {s' : Session γ} (a : Action) : Waiting t s s' → (s'.act t a).session.pending = true →
      Waiting t s (s'.act t a).session

theorem Waiting.pending (hw : Waiting t s s') (hp : s.pending = true) : s'.pending = true := by
  cases hw with
  | refl => exact hp
  | act _ _ hp' => exact hp'

theorem Waiting.reachable (hw : Waiting t s s') (hr : Reachable t window s) :
    Reachable t window s' := by
  induction hw with
  | refl => exact hr
  | act a _ _ ih => exact .act a ih

theorem Waiting.isSome_get? (hw : Waiting t s s') (hq : (s.overrides.get? q).isSome = true) :
    (s'.overrides.get? q).isSome = true := by
  induction hw with
  | refl => exact hq
  | act a _ hp ih => exact isSome_get?_act ih hp

/-! ## The edit that waits -/

/-- An edit while the guard holds is recorded and waits. -/
theorem updateStyle_deferred {selected : Selection} {p : Property} {value : String}
    (hs : s.selection = some selected) (hengaged : s.guard.isEngaged now = true) :
    (s.act t (.updateStyle p value now)).session =
      { (s.recordEdit selected.path p value).session with pending := true } := by
  let s₁ := (s.recordEdit selected.path p value).session
  have hplan : s₁.syncPlan now = .postpone := by
    have hs₁ : s₁.selection = some selected := hs
    have hedits : s₁.overrides.isEmpty = false := Overrides.isEmpty_set ..
    have hguard : s₁.guard.isEngaged now = true := hengaged
    unfold syncPlan
    rw [hs₁]
    simp [hedits, hguard]
  unfold act updateStyle
  rw [hs]
  show (syncSource t s₁ now).session = _
  unfold syncSource
  rw [hplan]

/-- The tick that finds a patch waiting and the guard let go makes it. -/
theorem tick_of_pending (hp : s.pending = true)
    (hfree : (s.guard.release now).isEngaged now = false) :
    s.tick t now = (syncSource t { s with guard := s.guard.release now } now).as true := by
  unfold tick
  simp [hp, hfree]

/-- The session at a tick that has let the guard go and taken the snapshot, so that nothing waits. -/
def flushed (s : Session γ) (now : Nat) : Session γ :=
  { s with
    guard := s.guard.release now
    lastPatched := s.overrides.snapshot
    pending := false }

/-- A tick at which the patcher is run, for this path and with these styles. -/
def PatchesAt (t : Tools γ) (s : Session γ) (now : Nat) (path : Path) (styles : Styles) : Prop :=
  syncPlan { s with guard := s.guard.release now } now = .patch path styles ∧
    s.tick t now = (runPatch t (s.flushed now) now path styles).as true

section

variable {current : Selection} (hp : s.pending = true)
  (hfree : (s.guard.release now).isEngaged now = false) (hs : s.selection = some current)

include hp hfree hs

theorem tick_of_same (hedits : s.overrides.isEmpty = false)
    (hsame : s.overrides.snapshot = s.lastPatched) :
    s.tick t now =
      { session := { s with guard := s.guard.release now, pending := false }
        events := [.patchSkipped .redundant] } := by
  rw [tick_of_pending hp hfree]
  let s₁ : Session γ := { s with guard := s.guard.release now }
  show (syncSource t s₁ now).as true = _
  rw [syncSource_of_same (s := s₁) hs hedits hfree hsame]
  rfl

/-- The styles of the path that is selected at the tick are patched, whichever path waited. -/
theorem patchesAt_of_recorded {styles : Styles} (hst : s.overrides.get? current.path = some styles)
    (hchanged : s.overrides.snapshot ≠ s.lastPatched) : s.PatchesAt t now current.path styles := by
  let s₁ : Session γ := { s with guard := s.guard.release now }
  refine ⟨syncPlan_of_recorded (s := s₁) hs hst hfree hchanged, ?_⟩
  rw [tick_of_pending hp hfree]
  show (syncSource t s₁ now).as true = _
  rw [syncSource_of_recorded (s := s₁) hs hst hfree hchanged]
  rfl

/-- Where nothing is recorded for that path, nothing is patched, and yet the snapshot is taken. -/
theorem tick_of_unrecorded (hedits : s.overrides.isEmpty = false)
    (hnone : s.overrides.get? current.path = none)
    (hchanged : s.overrides.snapshot ≠ s.lastPatched) :
    s.tick t now = { session := s.flushed now } := by
  let s₁ : Session γ := { s with guard := s.guard.release now }
  have hplan : s₁.syncPlan now = .unrecorded := by
    have hs₁ : s₁.selection = some current := hs
    have hedits₁ : s₁.overrides.isEmpty = false := hedits
    have hfree₁ : s₁.guard.isEngaged now = false := hfree
    have hnone₁ : s₁.overrides.get? current.path = none := hnone
    have hchanged₁ : s₁.overrides.snapshot ≠ s₁.lastPatched := hchanged
    unfold syncPlan
    rw [hs₁]
    simp [hedits₁, hfree₁, hnone₁, hchanged₁]
  rw [tick_of_pending hp hfree]
  show (syncSource t s₁ now).as true = _
  unfold syncSource
  rw [hplan]
  rfl

end

/-- What a tick without a patch has taken the snapshot of is not patched later either: until the edits
change, every call that looks at them passes them over, whatever is selected. -/
theorem redundant_of_flushed {s' : Session γ} {later : Nat} {current : Selection}
    (hs : SameEdits (s.flushed now) s') (hselected : s'.selection = some current)
    (hedits : s.overrides.isEmpty = false) (hfree : s'.guard.isEngaged later = false) :
    s'.syncSource t later =
      { session := { s' with pending := false }, events := [.patchSkipped .redundant] } := by
  refine syncSource_of_same hselected (by rw [hs.overrides]; exact hedits) hfree ?_
  rw [hs.overrides, hs.lastPatched]
  rfl

/-- **A deferred edit.** Let an edit of the selected element be put off by the guard, and let a
patch wait ever since. At a tick that finds the guard let go, styles are still recorded for the
path of that edit, and some element is selected. The tick patches the path of the edit with these
styles just if that path is selected then and the edits are not those of the last snapshot.

If they are, the tick says so and leaves the source alone. Otherwise it patches what is recorded for
the path that is selected; and where nothing is recorded for it, the tick patches nothing, takes the
snapshot all the same, and nothing waits any longer. -/
theorem patchesAt_deferred_iff {selected : Selection} {p : Property} {value : String}
    {before : Nat} (hr : Reachable t window s) (hs : s.selection = some selected)
    (hengaged : s.guard.isEngaged before = true)
    (hw : Waiting t (s.act t (.updateStyle p value before)).session s')
    (hfree : (s'.guard.release now).isEngaged now = false) :
    s'.pending = true ∧ ∃ styles current, s'.overrides.get? selected.path = some styles ∧
      s'.selection = some current ∧
      (s'.PatchesAt t now selected.path styles ↔
        s'.overrides.snapshot ≠ s'.lastPatched ∧ current.path = selected.path) ∧
      (s'.overrides.snapshot = s'.lastPatched →
        s'.tick t now =
          { session := { s' with guard := s'.guard.release now, pending := false }
            events := [.patchSkipped .redundant] }) ∧
      (s'.overrides.snapshot ≠ s'.lastPatched →
        (∀ found, s'.overrides.get? current.path = some found →
          s'.PatchesAt t now current.path found) ∧
        (s'.overrides.get? current.path = none →
          s'.tick t now = { session := s'.flushed now })) := by
  have hc := (hw.reachable (hr.act _)).consistent
  rw [updateStyle_deferred hs hengaged] at hw
  have hp : s'.pending = true := hw.pending rfl
  have hrecorded := hw.isSome_get? (q := selected.path) (Overrides.isSome_get?_set ..)
  obtain ⟨styles, hst⟩ := Option.isSome_iff_exists.mp hrecorded
  obtain ⟨current, hcurrent⟩ := Option.isSome_iff_exists.mp (hc.pending hp).1
  have hedits := Overrides.isEmpty_eq_false_of_get? hst
  refine ⟨hp, styles, current, hst, hcurrent, ⟨fun hpatch => ?_, ?_⟩,
    tick_of_same hp hfree hcurrent hedits, fun hchanged => ⟨fun found hfound => ?_, fun hnone => ?_⟩⟩
  · obtain ⟨current', hs', hpath, hchanged⟩ := of_syncPlan_patch hpatch.1
    obtain rfl : current = current' := Option.some.inj (hcurrent.symm.trans hs')
    exact ⟨hchanged, hpath⟩
  · rintro ⟨hchanged, hpath⟩
    rw [← hpath] at hst ⊢
    exact patchesAt_of_recorded hp hfree hcurrent hst hchanged
  · exact patchesAt_of_recorded hp hfree hcurrent hfound hchanged
  · exact tick_of_unrecorded hp hfree hcurrent hedits hnone hchanged

/-- An edit that waited alone is patched. -/
theorem patchesAt_deferred_alone :
    let s := run .paragraph paragraph
      [.pick 1, .updateStyle .padding "1px" 0, .updateStyle .padding "2px" 10]
    s.PatchesAt .paragraph 200 ⟨[⟨"p", 0⟩]⟩ { padding := some "2px" } := by
  intro s
  let path : Path := ⟨[⟨"p", 0⟩]⟩
  let s₀ := run .paragraph paragraph [.pick 1, .updateStyle .padding "1px" 0]
  obtain ⟨⟨hpicked, hengaged⟩, hfree, hstyles, hkept, hchanged⟩ :
      (s₀.selection.map (·.path) = some path ∧ s₀.guard.isEngaged 10 = true) ∧
      (s.guard.release 200).isEngaged 200 = false ∧
      s.overrides.get? path = some { padding := some "2px" } ∧
      s.selection.map (·.path) = some path ∧
      s.overrides.snapshot ≠ s.lastPatched := by decide +kernel
  obtain ⟨selected, hs, hpath⟩ := Option.map_eq_some_iff.mp hpicked
  have hr : Reachable .paragraph 100 s₀ := .run (.start _) _
  have hw : Waiting .paragraph (s₀.act .paragraph (.updateStyle .padding "2px" 10)).session s :=
    .refl
  obtain ⟨-, styles, current, hst, hcurrent, hiff, -⟩ :=
    patchesAt_deferred_iff hr hs hengaged hw hfree
  rw [hpath] at hst hiff
  cases hst.symm.trans hstyles
  rw [hcurrent] at hkept
  exact hiff.mpr ⟨hchanged, Option.some.inj hkept⟩

end Session

/-- Tools under which every source compiles to a paragraph and a heading behind it. -/
def Tools.headed : Tools Unit :=
  { Tools.paragraph with render := fun c => (.ok "<p>a</p><h1>b</h1>", c) }

namespace Session

/-- A session with these tools, begun with the component that they stand for. -/
def headed : Session Unit :=
  start .headed 100 "export default function App() { return <><p>a</p><h1>b</h1></>; }"

/-- An edit that waits is lost where another element is selected at the tick: the source is left as it
was, nobody is told, nothing waits any longer, and when the paragraph is selected again and its edit
made once more, it is passed over as redundant. -/
theorem reselection_drops_deferred :
    let path : Path := ⟨[⟨"p", 0⟩]⟩
    let s₀ := run .headed headed [.pick 1, .updateStyle .padding "1px" 0]
    let s₁ := (s₀.act .headed (.updateStyle .padding "2px" 10)).session
    let s₂ := (s₁.act .headed (.pick 3)).session
    let after := s₂.tick .headed 200
    let again := (after.session.act .headed (.pick 1)).session.act .headed
      (.updateStyle .padding "2px" 400)
    Reachable .headed 100 s₀ ∧ s₀.selection.map (·.path) = some path ∧
      s₀.guard.isEngaged 10 = true ∧ Waiting .headed s₁ s₂ ∧
      (s₂.guard.release 200).isEngaged 200 = false ∧
      s₂.overrides.get? path = some { padding := some "2px" } ∧
      ¬ s₂.PatchesAt .headed 200 path { padding := some "2px" } ∧
      (after.events = [] ∧ after.session.pending = false ∧ after.session.source = s₂.source) ∧
      again.events = [.overridesChanged (some path), .patchSkipped .redundant] ∧
      again.session.source = s₂.source ∧
      (Source.patchPath s₂.source path { padding := some "2px" }).toOption.any (· != s₂.source) =
        true := by
  intro path s₀ s₁ s₂ after again
  -- the run is gone through once
  obtain ⟨⟨hpath, hengaged⟩, ⟨hpending, hfree, hst, hpicked⟩, hafter, hagain, hleft, hpatched⟩ :
      (s₀.selection.map (·.path) = some path ∧ s₀.guard.isEngaged 10 = true) ∧
      (s₂.pending = true ∧ (s₂.guard.release 200).isEngaged 200 = false ∧
        s₂.overrides.get? path = some { padding := some "2px" } ∧
        s₂.selection.map (·.path) = some ⟨[⟨"h1", 0⟩]⟩) ∧
      (after.events = [] ∧ after.session.pending = false ∧ after.session.source = s₂.source) ∧
      again.events = [.overridesChanged (some path), .patchSkipped .redundant] ∧
      again.session.source = s₂.source ∧
      (Source.patchPath s₂.source path { padding := some "2px" }).toOption.any (· != s₂.source) =
        true := by decide +kernel
  have hw : Waiting .headed s₁ s₂ := .act _ .refl hpending
  refine ⟨.run (.start _) _, hpath, hengaged, hw, hfree, hst, fun hpatch => ?_, hafter, hagain, hleft, hpatched⟩
  -- it is the heading that is selected
  obtain ⟨current, hcurrent, hpath, -⟩ := of_syncPlan_patch hpatch.1
  replace hcurrent : s₂.selection = some current := hcurrent
  rw [hcurrent, Option.map_some, hpath] at hpicked
  exact absurd hpicked (by decide)

end Session
end Restyle
