import Restyle.Proofs.Session.Told
import Restyle.Proofs.Source.Repatch

/-!
# Restyle.Proofs.Session.Redundant

What it means that a patch is passed over as redundant.

The session remembers no more than the snapshot of the edits at the last patch. `Memory` says what
that snapshot stands for: the path that was patched, and the sources before and after it. The
snapshot tells the edits (`Overrides.snapshot_injective`), but neither the path nor the source; so
edits that are passed over are in the source as long as these two have not changed since, and may be
missing from it otherwise. Edits that are patched are in the source as the patcher left it, and it
would leave them there again if the attributes of the tag are well written (`sync_writes`).
-/

namespace Restyle

/-- What a patch makes of a source: its result, or the source itself where it fails. -/
def Tools.patched {γ : Type} (t : Tools γ) (source : String) (path : Path) (styles : Styles) :
    String :=
  match t.patch source path styles with
  | .ok source => source
  | .error _ => source

namespace Session

variable {γ : Type} {t : Tools γ} {s s₁ : Session γ} {a : Action} {now window : Nat}
  {source : String} {path : Path} {styles : Styles}

/-- When the last snapshot was taken: the path that was selected, the edits, and the source before
the call and after it. -/
structure Memory where
  path : Path
  edits : Overrides
  before : String
  source : String

/-- Does this plan take a snapshot? -/
def SyncPlan.takesSnapshot : SyncPlan → Bool
  | .unrecorded | .patch .. => true
  | .nothing | .postpone | .redundant => false

/-- The memory after a call. -/
def remember (t : Tools γ) (s : Session γ) (a : Action) (m : Option Memory) : Option Memory :=
  match s.syncPoint a with
  | none => m
  | some (s₁, now) =>
    if (s₁.syncPlan now).takesSnapshot then
      s₁.selection.map fun selected =>
        { path := selected.path, edits := s₁.overrides, before := s.source
          source := (s.act t a).session.source }
    else m

/-- The states of a session, with what their last snapshot stands for. -/
inductive Remembered (t : Tools γ) (window : Nat) : Session γ → Option Memory → Prop where
  | start (source : String) : Remembered t window (start t window source) none
  | act {s : Session γ} {m : Option Memory} (a : Action) : Remembered t window s m →
      Remembered t window (s.act t a).session (s.remember t a m)

theorem Remembered.reachable {m : Option Memory} (hr : Remembered t window s m) :
    Reachable t window s := by
  induction hr with
  | start source => exact .start source
  | act a _ ih => exact .act a ih

/-- The last snapshot is the one remembered, and the source was patched then. -/
structure Faithful (t : Tools γ) (s : Session γ) (m : Option Memory) : Prop where
  lastPatched : s.lastPatched = (m.map (·.edits.snapshot)).getD ""
  isNamed : ∀ mem, m = some mem → mem.edits.IsNamed
  patched : ∀ mem styles, m = some mem → mem.edits.get? mem.path = some styles →
    mem.source = t.patched mem.before mem.path styles

/-- Edits are named where a call looks at them. -/
theorem Consistent.isNamed_syncPoint (hc : Consistent s) (ha : s.syncPoint a = some (s₁, now)) :
    s₁.overrides.IsNamed := by
  obtain ⟨selected, p, value, -, hs, rfl⟩ | ⟨-, rfl, -⟩ := syncPoint_cases ha
  · exact hc.isNamed_overrides.set (hc.isNamed_path selected hs) p value
  · exact hc.isNamed_overrides

/-- One call keeps the memory faithful: a snapshot is taken of the edits that are then patched,
and where none is taken nothing is forgotten. -/
theorem Faithful.act {m : Option Memory} (hc : Consistent s) (hf : Faithful t s m) (a : Action) :
    Faithful t (s.act t a).session (s.remember t a m) := by
  unfold remember
  split
  · rename_i hpoint
    obtain ⟨hlast, -⟩ := act_of_syncPoint_eq_none (t := t) hpoint
    exact ⟨hlast.trans hf.lastPatched, hf.isNamed, hf.patched⟩
  · rename_i s₁ now hpoint
    obtain ⟨hact, -⟩ := act_of_syncPoint (t := t) hpoint
    have hnamed := hc.isNamed_syncPoint hpoint
    have hlast := lastPatched_syncPoint hpoint
    rw [hact]
    have hplanned := s₁.planned now
    unfold syncSource
    split
    · rename_i hplan
      rw [hplan]
      exact ⟨hlast.trans hf.lastPatched, hf.isNamed, hf.patched⟩
    · rename_i hplan
      rw [hplan]
      exact ⟨hlast.trans hf.lastPatched, hf.isNamed, hf.patched⟩
    · rename_i hplan
      rw [hplan]
      exact ⟨hlast.trans hf.lastPatched, hf.isNamed, hf.patched⟩
    · rename_i hplan
      rw [hplan] at hplanned ⊢
      obtain _ | _ | _ | _ | ⟨hs, _, _, _, hnone⟩ := hplanned
      rw [hs]
      refine ⟨rfl, fun _ h => ?_, fun _ styles h hst => ?_⟩
      · cases h; exact hnamed
      · cases h
        rw [hnone] at hst
        cases hst
    · rename_i path styles hplan
      rw [hplan] at hplanned ⊢
      obtain _ | _ | _ | _ | _ | ⟨hs, _, _, _, hsome⟩ := hplanned
      rw [hs]
      refine ⟨?_, fun _ h => ?_, fun _ styles' h hst => ?_⟩
      · obtain ⟨_, h⟩ := sameEdits_runPatch _ _ _
        exact h.lastPatched
      · cases h; exact hnamed
      · cases h
        rw [hsome] at hst
        cases hst
        rw [← source_syncPoint hpoint]
        exact source_runPatch _ _ _

end Session
end Restyle
