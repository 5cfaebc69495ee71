import Restyle.Proofs.Document.Tree
import Restyle.Proofs.Markup.Tree
import Restyle.Proofs.Overrides.Snapshot
import Restyle.Proofs.Session.Sync

/-!
# Restyle.Proofs.Session.Consistency

What holds of a session whenever no call is under way, whatever compiling and rendering give
(`Reachable.consistent`, written out in `reachable_law`).

* `Outcome`: there is one of a compile error, a runtime error and a frame, and what was compiled
  or rendered carries the number of the last attempt.
* `Marked`: selection and popover come together, and a patch waits only for a selection, with
  edits, behind a deadline. The paths selected and edited are named.
* `Anchored`: the selected path leads to the selected element of the frame.

Compiling and rendering break the last of these: they begin with a selection in a frame that is
gone. They keep `Marked` on the way and bring back the others at each exit.
-/

namespace Restyle
namespace Session

variable {γ : Type} {t : Tools γ} {s : Session γ} {now : Nat}

/-! ## The parts -/

structure Outcome (s : Session γ) : Prop where
  one : [s.compileError.isSome, s.runtimeError.isSome, s.frame.isSome].count true = 1
  isNone_component : s.component.isNone = s.compileError.isSome
  component_key : ∀ c, s.component = some c → c.key = s.attempts
  frame_key : ∀ f, s.frame = some f → f.key = s.attempts
  frame_isTree : ∀ f, s.frame = some f → f.document.IsTree
  frame_isNamed : ∀ f, s.frame = some f → f.document.IsNamed

structure Marked (s : Session γ) : Prop where
  isSome_popover : s.popover.isSome = s.selection.isSome
  not_isRoot : ∀ selected, s.selection = some selected → selected.path.isRoot = false
  isNamed_path : ∀ selected, s.selection = some selected → selected.path.IsNamed
  isNamed_overrides : s.overrides.IsNamed
  pending : s.pending = true →
    s.selection.isSome = true ∧ s.overrides.isEmpty = false ∧ s.guard.deadline.isSome = true

def Anchored (s : Session γ) : Prop :=
  ∀ selected, s.selection = some selected →
    ∃ f, s.frame = some f ∧ f.locate selected.path = some selected.element

structure Consistent (s : Session γ) : Prop extends Outcome s, Marked s where
  anchored : s.Anchored

/-- The last compilation succeeded. -/
def Compiled (s : Session γ) : Prop :=
  s.compileError = none ∧ ∃ c, s.component = some c ∧ c.key = s.attempts

/-- The fields that only patching is about may change, as long as a patch that waits has what
it waits for. -/
theorem Consistent.withSync (hc : Consistent s) (guard : Guard) (lastPatched : String)
    (pending : Bool) (h : pending = true →
      s.selection.isSome = true ∧ s.overrides.isEmpty = false ∧ guard.deadline.isSome = true) :
    Consistent { s with guard, lastPatched, pending } :=
  { hc with pending := h }

/-! ## Selection -/

/-- Clearing clears the three marks, also where it does nothing. -/
theorem session_clearSelection (hm : Marked s) : s.clearSelection.session =
    { s with selection := none, popover := none, pending := false } := by
  unfold clearSelection
  split
  · rename_i h
    simp only [Bool.and_eq_true, Option.isNone_iff_eq_none] at h
    have hp : s.pending = false := by
      cases hp : s.pending with
      | false => rfl
      | true => have := (hm.pending hp).1; rw [h.1] at this; cases this
    obtain ⟨_, _, _, sel, pop, _, _, _, _, _, _, pend⟩ := s
    obtain ⟨rfl, rfl⟩ : sel = none ∧ pop = none := h
    obtain rfl : pend = false := hp
    rfl
  · rfl

theorem Consistent.clearSelection (ho : Outcome s) (hm : Marked s) :
    Consistent s.clearSelection.session := by
  rw [session_clearSelection hm]
  exact { ho, hm with
    isSome_popover := rfl
    not_isRoot := fun _ h => by cases h
    isNamed_path := fun _ h => by cases h
    pending := fun h => by cases h
    anchored := fun _ h => by cases h }

theorem Consistent.refreshSelection {f : Frame} (ho : Outcome s) (hm : Marked s)
    (hf : s.frame = some f) : Consistent s.refreshSelection.session := by
  unfold Session.refreshSelection
  split
  · rename_i hs
    exact ⟨ho, hm, fun _ h => by rw [hs] at h; cases h⟩
  · rename_i selected hs
    split
    · rename_i element hloc
      rw [hf, Option.bind_some] at hloc
      refine ⟨{ ho with }, ⟨?_, ?_, ?_, hm.isNamed_overrides, ?_⟩, ?_⟩
      · rw [hm.isSome_popover, hs]; rfl
      · intro _ h; cases h; exact hm.not_isRoot selected hs
      · intro _ h; cases h; exact hm.isNamed_path selected hs
      · intro h; exact ⟨rfl, (hm.pending h).2⟩
      · intro _ h; cases h; exact ⟨f, hf, hloc⟩
    · exact .clearSelection ho hm

theorem Consistent.select (hc : Consistent s) (element : Handle) (x y : Float32) :
    Consistent (s.select t element x y).session := by
  unfold Session.select
  split
  · exact hc
  · rename_i f hf
    dsimp only
    split
    · exact hc
    · rename_i hcond
      simp only [Bool.or_eq_true, not_or, Bool.not_eq_true, Bool.not_eq_false'] at hcond
      obtain ⟨⟨-, he⟩, hroot⟩ := hcond
      refine ⟨{ hc with }, ⟨rfl, ?_, ?_, hc.isNamed_overrides, ?_⟩, ?_⟩
      · intro _ h; cases h; exact hroot
      · intro _ h; cases h; exact (hc.frame_isNamed f hf).identify _ _
      · intro h; exact ⟨rfl, (hc.pending h).2⟩
      · intro _ h; cases h
        exact ⟨f, hf, (hc.frame_isTree f hf).locate_identify he⟩

/-! ## Compiling and rendering -/

theorem Consistent.showMarkup (hm : Marked s) (hcomp : Compiled s) (markup : String) :
    Consistent (s.showMarkup t s.attempts markup).session := by
  obtain ⟨herr, c, hcs, hkey⟩ := hcomp
  let frame : Frame := { document := Document.ofMarkup markup t.rootClass, key := s.attempts }
  let s' : Session γ := { s with frame := some (frame.edited s.overrides), runtimeError := none }
  have ho : Outcome s' := by
    refine ⟨?_, ?_, ?_, ?_, ?_, ?_⟩
    · simp [s', herr]
    · simp [s', herr, hcs]
    · intro _ h
      rw [show s'.component = some c from hcs] at h
      cases h; exact hkey
    · intro _ h; cases h; rfl
    · intro _ h; cases h
      exact (Document.isTree_ofMarkup markup t.rootClass).of_sameShape
        (Document.sameShape_applyOverrides _ _ _)
    · intro _ h; cases h
      exact (Document.isNamed_ofMarkup markup t.rootClass).of_sameShape
        (Document.sameShape_applyOverrides _ _ _)
  have hm' : Marked s' := { hm with }
  exact .refreshSelection ho hm' rfl

theorem Consistent.showFailure (hm : Marked s) (hcomp : Compiled s) (key : Nat)
    (e : EditorError) : Consistent (s.showFailure key e).session := by
  obtain ⟨herr, c, hcs, hkey⟩ := hcomp
  let s' : Session γ := { s with frame := none, runtimeError := some e }
  have ho : Outcome s' := by
    refine ⟨?_, ?_, ?_, ?_, ?_, ?_⟩
    · simp [s', herr]
    · simp [s', herr, hcs]
    · intro _ h
      rw [show s'.component = some c from hcs] at h
      cases h; exact hkey
    · intro _ h; cases h
    · intro _ h; cases h
    · intro _ h; cases h
  have hm' : Marked s' := { hm with }
  exact .clearSelection ho hm'

theorem Consistent.renderPreview (hm : Marked s) (hcomp : Compiled s) :
    Consistent (s.renderPreview t).session := by
  obtain ⟨herr, c, hcs, hkey⟩ := hcomp
  unfold Session.renderPreview
  rw [hcs]
  dsimp only
  split
  · rename_i markup value _
    let s' : Session γ := { s with component := some { c with value } }
    have hm' : Marked s' := { hm with }
    have h := showMarkup (t := t) hm' ⟨herr, _, rfl, hkey⟩ markup
    rwa [show s'.attempts = c.key from hkey.symm] at h
  · rename_i e value _
    let s' : Session γ := { s with component := some { c with value } }
    have hm' : Marked s' := { hm with }
    exact showFailure hm' ⟨herr, _, rfl, hkey⟩ c.key e

theorem Consistent.recompile (hm : Marked s) : Consistent (s.recompile t).session := by
  unfold Session.recompile
  dsimp only
  split
  · rename_i name value _
    exact renderPreview { hm with } ⟨rfl, _, rfl, rfl⟩
  · rename_i e _
    refine clearSelection ⟨rfl, rfl, ?_, ?_, ?_, ?_⟩ { hm with } <;>
      · intro _ h; cases h

theorem Consistent.replaceSource (hm : Marked s) (source : String) (origin : Origin) :
    Consistent (s.replaceSource t source origin).session :=
  recompile (s := { s with source }) { hm with }

/-! ## Patching -/

theorem Consistent.runPatch (hc : Consistent s) (hp : s.pending = false) (path : Path)
    (styles : Styles) : Consistent (s.runPatch t now path styles).session := by
  have hc' : Consistent { s with guard := s.guard.engage now } :=
    hc.withSync _ _ _ fun h => absurd (hp.symm.trans h) (by decide)
  unfold Session.runPatch
  dsimp only
  split
  · split
    · exact hc'
    · exact .replaceSource hc'.toMarked _ _
  · exact hc'

theorem isSome_deadline_of_isEngaged {g : Guard} (h : g.isEngaged now = true) :
    g.deadline.isSome = true := by
  cases hd : g.deadline with
  | none => simp [Guard.isEngaged, hd] at h
  | some _ => rfl

/-- What waits is dropped before anything else is done, so that nothing is asked of it. -/
theorem Consistent.syncSource (hc : Consistent { s with pending := false })
    (hp : s.pending = true → s.selection.isSome = true ∧ s.overrides.isEmpty = false) :
    Consistent (s.syncSource t now).session := by
  have hplanned := s.planned now
  unfold Session.syncSource
  split
  · rename_i hplan
    have hpend : s.pending = false := by
      cases hpend : s.pending with
      | false => rfl
      | true =>
        obtain ⟨hsel, hedits⟩ := hp hpend
        rw [hplan] at hplanned
        cases hplanned with
        | unselected hs => rw [hs] at hsel; cases hsel
        | unedited hempty => rw [hempty] at hedits; cases hedits
    rw [show s = { s with pending := false } by rw [← hpend]]
    exact hc
  · rename_i hplan
    rw [hplan] at hplanned
    cases hplanned with
    | postpone hs hedits hengaged =>
      have hsel : s.selection.isSome = true := by rw [hs]; rfl
      exact hc.withSync _ _ true fun _ => ⟨hsel, hedits, isSome_deadline_of_isEngaged hengaged⟩
  · exact hc
  · exact hc.withSync s.guard s.overrides.snapshot false fun h => by cases h
  · rename_i path styles _
    have hc' := hc.withSync s.guard s.overrides.snapshot false fun h => by cases h
    exact hc'.runPatch rfl path styles

/-! ## Calls -/

/-- Edits shown in the frame leave every element where it was. -/
theorem Consistent.recordEdit (hc : Consistent s) {path : Path} (hpath : path.IsNamed)
    (p : Property) (value : String) : Consistent (s.recordEdit path p value).session := by
  have hshape : ∀ (f : Frame) o, Document.SameShape f.document (f.edited o).document := fun f o =>
    Document.sameShape_applyOverrides f.document f.root o
  refine ⟨⟨?_, hc.isNone_component, hc.component_key, ?_, ?_, ?_⟩, ⟨hc.isSome_popover,
    hc.not_isRoot, hc.isNamed_path, hc.isNamed_overrides.set hpath p value, ?_⟩, ?_⟩
  · have := hc.one
    simpa [Session.recordEdit, Option.isSome_map] using this
  · intro _ h
    obtain ⟨f, hf, rfl⟩ := Option.map_eq_some_iff.mp h
    exact hc.frame_key f hf
  · intro _ h
    obtain ⟨f, hf, rfl⟩ := Option.map_eq_some_iff.mp h
    exact (hc.frame_isTree f hf).of_sameShape (hshape f _)
  · intro _ h
    obtain ⟨f, hf, rfl⟩ := Option.map_eq_some_iff.mp h
    exact (hc.frame_isNamed f hf).of_sameShape (hshape f _)
  · intro h
    obtain ⟨hsel, -, hdeadline⟩ := hc.pending h
    exact ⟨hsel, Overrides.isEmpty_set .., hdeadline⟩
  · intro selected hs
    obtain ⟨f, hf, hloc⟩ := hc.anchored selected hs
    refine ⟨f.edited (s.overrides.set path p value), ?_, ?_⟩
    · simp [Session.recordEdit, hf]
    · exact ((hshape f _).locate selected.path).trans hloc

theorem Consistent.updateStyle (hc : Consistent s) (p : Property) (value : String) :
    Consistent (s.updateStyle t p value now).session := by
  unfold Session.updateStyle
  split
  · exact hc
  · rename_i selected hs
    have hc' := hc.recordEdit (hc.isNamed_path selected hs) p value
    refine syncSource (hc'.withSync _ _ false fun h => by cases h) fun hp => ?_
    obtain ⟨hsel, hedits, -⟩ := hc'.pending hp
    exact ⟨hsel, hedits⟩

theorem Consistent.rerender (hc : Consistent s) : Consistent (s.renderPreview t).session := by
  cases hcomp : s.component with
  | none =>
    unfold Session.renderPreview
    rw [hcomp]
    exact hc
  | some c =>
    refine renderPreview hc.toMarked ⟨?_, c, hcomp, hc.component_key c hcomp⟩
    have herr := hc.isNone_component
    rw [hcomp] at herr
    simpa using herr

theorem Consistent.clearOverrides (hc : Consistent s) :
    Consistent (s.clearOverrides t).session := by
  unfold Session.clearOverrides
  split
  · exact hc
  · have hc' : Consistent { s with overrides := {}, pending := false } :=
      { hc with isNamed_overrides := .empty, pending := fun h => by cases h }
    exact hc'.rerender

theorem Consistent.unmount (hc : Consistent s) : Consistent s.unmount.session := by
  have hc' := clearSelection hc.toOutcome hc.toMarked
  exact hc'.withSync _ _ false fun h => by cases h

/-- Time only takes a deadline away, and then what waited for it is done. -/
theorem Consistent.tick (hc : Consistent s) : Consistent (s.tick t now).session := by
  unfold Session.tick
  dsimp only
  split
  · rename_i hcond
    refine hc.withSync _ _ _ fun hp => ?_
    obtain ⟨hsel, hedits, -⟩ := hc.pending hp
    rw [hp] at hcond
    have hengaged : (s.guard.release now).isEngaged now = true := by simpa using hcond
    exact ⟨hsel, hedits, isSome_deadline_of_isEngaged hengaged⟩
  · refine syncSource (hc.withSync _ _ false fun h => by cases h) fun hp => ?_
    obtain ⟨hsel, hedits, -⟩ := hc.pending hp
    exact ⟨hsel, hedits⟩

theorem Consistent.act (hc : Consistent s) (a : Action) : Consistent (s.act t a).session := by
  cases a with
  | setSource source =>
    show Consistent (s.setSource t source).session
    unfold Session.setSource
    split
    · exact hc
    · exact .replaceSource hc.toMarked source .user
  | click c =>
    show Consistent (s.click t c).session
    unfold Session.click
    split
    · exact hc
    · split
      · exact hc.select _ _ _
      · exact .clearSelection hc.toOutcome hc.toMarked
  | press k =>
    cases k with
    | escape => exact .clearSelection hc.toOutcome hc.toMarked
    | other => exact hc
  | closePopover => exact .clearSelection hc.toOutcome hc.toMarked
  | updateStyle p value now => exact hc.updateStyle p value
  | clearOverrides => exact hc.clearOverrides
  | unmount => exact hc.unmount
  | tick now => exact hc.tick

theorem Consistent.start (window : Nat) (source : String) :
    Consistent (Session.start t window source) :=
  recompile (s := { source, guard := { window } })
    ⟨rfl, fun _ h => (by cases h), fun _ h => (by cases h), .empty, fun h => by cases h⟩

/-- **Every state between calls is consistent.** -/
theorem Reachable.consistent {window : Nat} (hr : Reachable t window s) : Consistent s := by
  induction hr with
  | start source => exact .start window source
  | act a _ ih => exact ih.act a

/-- **Reachable states.** One of the two errors or a frame is there, a component unless compiling
failed, both of the last attempt; a selection comes with a popover, below the root, and its path
leads to its element in the frame; a patch waits only for a selection with edits behind a
deadline. -/
theorem reachable_law {window : Nat} (hr : Reachable t window s) :
    ([s.compileError.isSome, s.runtimeError.isSome, s.frame.isSome].count true = 1 ∧
      (s.component = none ↔ s.compileError.isSome = true) ∧
      (∀ c, s.component = some c → c.key = s.attempts) ∧
      (∀ f, s.frame = some f → f.key = s.attempts)) ∧
    ((s.selection.isSome = true ↔ s.popover.isSome = true) ∧
      ∀ selected, s.selection = some selected → selected.path.steps ≠ [] ∧
        ∃ f, s.frame = some f ∧
          f.document.locate f.document.root selected.path = some selected.element) ∧
    (s.pending = true →
      s.selection.isSome = true ∧ s.overrides.entries ≠ [] ∧ s.guard.deadline.isSome = true) := by
  have hc := hr.consistent
  refine ⟨⟨hc.one, ?_, hc.component_key, hc.frame_key⟩, ⟨?_, ?_⟩, ?_⟩
  · rw [← hc.isNone_component, Option.isNone_iff_eq_none]
  · rw [hc.isSome_popover]
  · intro selected hs
    refine ⟨?_, hc.anchored selected hs⟩
    simpa [Path.isRoot] using hc.not_isRoot selected hs
  · intro hp
    obtain ⟨hsel, hedits, hdeadline⟩ := hc.pending hp
    exact ⟨hsel, by simpa [Overrides.isEmpty] using hedits, hdeadline⟩

/-- In a session that waits the law gives what it waits for. -/
theorem reachable_law_waiting :
    let s := run .paragraph paragraph
      [.pick 1, .updateStyle .padding "1px" 0, .updateStyle .padding "2px" 10]
    s.pending = true ∧
      s.selection.isSome = true ∧ s.overrides.entries ≠ [] ∧ s.guard.deadline.isSome = true := by
  intro s
  have hr : Reachable .paragraph 100 s := .run (.start _) _
  have hp : s.pending = true := by decide +kernel
  exact ⟨hp, (reachable_law hr).2.2 hp⟩

end Session
end Restyle
