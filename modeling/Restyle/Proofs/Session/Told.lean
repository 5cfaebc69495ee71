import Restyle.Proofs.Session.Consistency

/-!
# Restyle.Proofs.Session.Told

What listeners are told is what happens. A `View` is what a listener can know of a session, and
`View.hear` what an event changes of it; the view after a call is the one before it, changed by the
events of the call (`act_tells`), and so over every run (`run_tells`).

* `Change.Tells`: the events of a step say what it does to the view. Steps that follow each other
  tell together what they tell one by one.
* `Rebuild`: compiling, rendering and selecting say nothing of the source and of the edits, so that
  the place of a change of the source among the events of a call is known.
-/

namespace Restyle

/-! ## The view -/

/-- What can be known of a session by its events: the selected path, name and number of the
component, the number of attempts to compile, the number of the preview, and the texts of the two
errors. -/
structure View where
  selected : Option Path
  component : Option (String × Nat)
  attempts : Nat
  frame : Option Nat
  compileError : Option (String × String)
  runtimeError : Option String
  deriving DecidableEq

namespace View

/-- The view after an event. -/
def hear (v : View) : Event → View
  | .compiled name key =>
    { v with
      component := some (name, key), attempts := key
      frame := none, compileError := none, runtimeError := none }
  | .compileFailed code message =>
    { v with
      component := none, attempts := v.attempts + 1
      frame := none, compileError := some (code, message), runtimeError := none }
  | .previewRendered key =>
    { v with frame := some key, compileError := none, runtimeError := none }
  | .renderFailed _ message =>
    { v with frame := none, compileError := none, runtimeError := some message }
  | .selectionChanged path => { v with selected := path }
  | .sourceChanged _ | .overridesChanged _ | .patchApplied _ | .patchSkipped _ => v

/-- The view after some events. -/
def hearAll (v : View) (events : List Event) : View := events.foldl hear v

@[simp] theorem hearAll_nil (v : View) : v.hearAll [] = v := rfl

@[simp] theorem hearAll_cons (v : View) (e : Event) (events : List Event) :
    v.hearAll (e :: events) = (v.hear e).hearAll events := rfl

@[simp] theorem hearAll_append (v : View) (before after : List Event) :
    v.hearAll (before ++ after) = (v.hearAll before).hearAll after := List.foldl_append

/-- Which of a preview and the two errors is there, with what is known of each. -/
def shown (v : View) : Option Nat × Option (String × String) × Option String :=
  (v.frame, v.compileError, v.runtimeError)

end View

namespace Event

/-- The path that is selected from this event on. -/
def selected? : Event → Option (Option Path)
  | .selectionChanged path => some path
  | _ => none

/-- The component that is there from this event on, if any. -/
def component? : Event → Option (Option (String × Nat))
  | .compiled name key => some (some (name, key))
  | .compileFailed .. => some none
  | _ => none

/-- What is shown from this event on; while a component has yet to be rendered, nothing. -/
def shown? : Event → Option (Option Nat × Option (String × String) × Option String)
  | .compiled .. => some (none, none, none)
  | .compileFailed code message => some (none, some (code, message), none)
  | .previewRendered key => some (some key, none, none)
  | .renderFailed _ message => some (none, none, some message)
  | _ => none

/-- What the last of some events that tell of a part tells of it. -/
def last? {α : Type} (part? : Event → Option α) (events : List Event) : Option α :=
  events.reverse.findSome? part?

end Event

namespace View

/-- A part of the view that is set by some events is as the last of them has set it. -/
theorem part_hearAll {α : Type} (part : View → α) (part? : Event → Option α)
    (h : ∀ v e, part (hear v e) = (part? e).getD (part v)) (v : View) (events : List Event) :
    part (v.hearAll events) = (Event.last? part? events).getD (part v) := by
  induction events generalizing v with
  | nil => rfl
  | cons e events ih =>
    rw [hearAll_cons, ih, h, Event.last?, Event.last?, List.reverse_cons, List.findSome?_append]
    cases List.findSome? part? events.reverse with
    | some _ => rfl
    | none => cases hs : part? e <;> simp [hs]

theorem selected_hearAll (v : View) (events : List Event) :
    (v.hearAll events).selected = (Event.last? Event.selected? events).getD v.selected :=
  part_hearAll selected Event.selected? (fun _ e => by cases e <;> rfl) v events

theorem component_hearAll (v : View) (events : List Event) :
    (v.hearAll events).component = (Event.last? Event.component? events).getD v.component :=
  part_hearAll component Event.component? (fun _ e => by cases e <;> rfl) v events

theorem shown_hearAll (v : View) (events : List Event) :
    (v.hearAll events).shown = (Event.last? Event.shown? events).getD v.shown :=
  part_hearAll shown Event.shown? (fun _ e => by cases e <;> rfl) v events

end View

namespace Session

def view {γ : Type} (s : Session γ) : View where
  selected := s.selection.map (·.path)
  component := s.component.map fun c => (c.name, c.key)
  attempts := s.attempts
  frame := s.frame.map (·.key)
  compileError := s.compileError.map fun e => (e.code, e.text)
  runtimeError := s.runtimeError.map (·.text)

end Session

namespace Change

variable {γ : Type} {s : Session γ} {c : Change γ} {step : Session γ → Change γ}

/-- The events of a step from a state say what it does to the view. -/
def Tells (s : Session γ) (c : Change γ) : Prop := c.session.view = s.view.hearAll c.events

/-- Only the view of the state before counts. -/
theorem Tells.of_view {s' : Session γ} (h : Tells s' c) (hview : s'.view = s.view) : Tells s c :=
  Eq.trans h (congrArg (View.hearAll · c.events) hview)

theorem Tells.andThen (h : Tells s c) (hstep : Tells c.session (step c.session)) :
    Tells s (c.andThen step) := by
  unfold Tells at h hstep ⊢
  unfold Change.andThen
  rw [View.hearAll_append, ← h]
  exact hstep

end Change

namespace Session

open Change (Tells)

variable {γ : Type} {t : Tools γ} {s : Session γ} {now window : Nat}

/-! ## Steps -/

theorem tells_clearSelection (s : Session γ) : Tells s s.clearSelection := by
  unfold clearSelection
  split
  · rfl
  · rfl

theorem tells_refreshSelection (s : Session γ) : Tells s s.refreshSelection := by
  unfold refreshSelection
  split
  · rfl
  · rename_i selected hs
    split
    · simp [Tells, view, hs]
    · exact tells_clearSelection s

theorem tells_select (s : Session γ) (element : Handle) (x y : Float32) :
    Tells s (s.select t element x y) := by
  unfold select
  split
  · rfl
  · dsimp only
    split <;> rfl

/-- Rendering is told, as long as there is no component with a compile error. -/
theorem tells_renderPreview (h : s.component.isSome = true → s.compileError = none) :
    Tells s (s.renderPreview t) := by
  unfold renderPreview
  split
  · rfl
  · rename_i c hc
    have herr : s.compileError = none := h (by rw [hc]; rfl)
    split
    · refine Tells.andThen ?_ (tells_refreshSelection _)
      simp [Tells, view, View.hear, hc, herr, Frame.edited]
    · refine Tells.andThen ?_ (tells_clearSelection _)
      simp [Tells, view, View.hear, hc, herr]

theorem tells_recompile (s : Session γ) : Tells s (s.recompile t) := by
  unfold recompile
  dsimp only
  split
  · exact Tells.andThen rfl (tells_renderPreview fun _ => rfl)
  · exact Tells.andThen rfl (tells_clearSelection _)

theorem tells_replaceSource (s : Session γ) (source : String) (origin : Origin) :
    Tells s (s.replaceSource t source origin) :=
  Tells.andThen rfl (tells_recompile _)

theorem tells_runPatch (s : Session γ) (path : Path) (styles : Styles) :
    Tells s (s.runPatch t now path styles) := by
  unfold runPatch
  dsimp only
  split
  · split
    · rfl
    · exact Tells.andThen rfl (tells_replaceSource _ _ .patch)
  · rfl

theorem tells_syncSource (s : Session γ) : Tells s (s.syncSource t now) := by
  unfold syncSource
  split
  · rfl
  · rfl
  · rfl
  · rfl
  · rename_i path styles _
    let s' : Session γ := { s with pending := false, lastPatched := s.overrides.snapshot }
    exact (tells_runPatch s' path styles).of_view rfl

/-- An edit is shown in the preview that is there. -/
theorem tells_recordEdit (s : Session γ) (path : Path) (p : Property) (value : String) :
    Tells s (s.recordEdit path p value) := by
  simp [Tells, recordEdit, view, View.hear, Frame.edited, Function.comp_def]

/-- **One call.** What it does to the view is what its events say. -/
theorem Consistent.tells (hc : Consistent s) (a : Action) : Tells s (s.act t a) := by
  cases a with
  | setSource source =>
    show Tells s (s.setSource t source)
    unfold Session.setSource
    split
    · rfl
    · exact tells_replaceSource s source .user
  | click c =>
    show Tells s (s.click t c)
    unfold Session.click
    split
    · rfl
    · split
      · exact tells_select s _ _ _
      · exact tells_clearSelection s
  | press k =>
    cases k with
    | escape => exact tells_clearSelection s
    | other => rfl
  | closePopover => exact tells_clearSelection s
  | updateStyle p value now =>
    show Tells s (s.updateStyle t p value now)
    unfold Session.updateStyle
    split
    · rfl
    · exact (tells_recordEdit s _ p value).andThen (tells_syncSource _)
  | clearOverrides =>
    show Tells s (s.clearOverrides t)
    unfold Session.clearOverrides
    split
    · rfl
    · refine Tells.andThen rfl (tells_renderPreview fun hcomp => ?_)
      have herr := hc.isNone_component
      rw [Option.isNone_eq_false_iff.mpr hcomp] at herr
      simpa using herr.symm
  | unmount => exact (tells_clearSelection s).andThen rfl
  | tick now =>
    show Tells s (s.tick t now)
    unfold Session.tick
    dsimp only
    split
    · rfl
    · exact (tells_syncSource { s with guard := s.guard.release now }).of_view rfl

/-- The events of some calls. -/
def log (t : Tools γ) : Session γ → List Action → List Event
  | _, [] => []
  | s, a :: as => (s.act t a).events ++ log t (s.act t a).session as

/-- **A run.** A listener that knows the view at its beginning knows it at its end. -/
theorem run_tells (hr : Reachable t window s) (as : List Action) :
    (s.run t as).view = s.view.hearAll (s.log t as) := by
  induction as generalizing s with
  | nil => rfl
  | cons a as ih =>
    unfold log
    rw [View.hearAll_append, ← hr.consistent.tells a]
    exact ih (hr.act a)

end Session

/-! ## Where the source changes -/

namespace Event

/-- Is this about compiling, rendering or selecting? -/
def isRebuild : Event → Bool
  | .compiled .. | .compileFailed .. | .previewRendered _ | .renderFailed .. | .selectionChanged _ =>
    true
  | .sourceChanged _ | .overridesChanged _ | .patchApplied _ | .patchSkipped _ => false

/-- Is this a change of the source, or the patch that is about to change it? -/
def isSource : Event → Bool
  | .sourceChanged _ | .patchApplied _ => true
  | _ => false

theorem isSource_of_isRebuild {e : Event} (h : e.isRebuild = true) : e.isSource = false := by
  cases e <;> first | rfl | cases h

end Event

namespace Session

variable {γ : Type} {t : Tools γ} {s : Session γ} {now window : Nat} {e : Event}

theorem isRebuild_clearSelection (h : e ∈ s.clearSelection.events) : e.isRebuild = true := by
  unfold clearSelection at h
  split at h
  · cases h
  · obtain rfl := List.mem_singleton.mp h
    rfl

theorem isRebuild_refreshSelection (h : e ∈ s.refreshSelection.events) : e.isRebuild = true := by
  unfold refreshSelection at h
  split at h
  · cases h
  · split at h
    · cases h
    · exact isRebuild_clearSelection h

theorem isRebuild_select {element : Handle} {x y : Float32}
    (h : e ∈ (s.select t element x y).events) : e.isRebuild = true := by
  unfold select at h
  split at h
  · cases h
  · dsimp only at h
    split at h
    · cases h
    · obtain rfl := List.mem_singleton.mp h
      rfl

theorem isRebuild_renderPreview (h : e ∈ (s.renderPreview t).events) : e.isRebuild = true := by
  unfold renderPreview at h
  split at h
  · cases h
  · split at h
    · obtain rfl | h := List.mem_cons.mp h
      · rfl
      · exact isRebuild_refreshSelection h
    · obtain rfl | h := List.mem_cons.mp h
      · rfl
      · exact isRebuild_clearSelection h

theorem isRebuild_recompile (h : e ∈ (s.recompile t).events) : e.isRebuild = true := by
  unfold recompile at h
  dsimp only at h
  split at h
  · obtain rfl | h := List.mem_cons.mp h
    · rfl
    · exact isRebuild_renderPreview h
  · obtain rfl | h := List.mem_cons.mp h
    · rfl
    · exact isRebuild_clearSelection h

/-- What stands before a change of the source among the events of a call: for a patch the patch,
last of all, and nothing else about the source. -/
inductive Announced : Origin → List Event → Prop where
  | user {before : List Event} : (∀ e ∈ before, e.isSource = false) → Announced .user before
  | patch {before : List Event} (path : Path) : (∀ e ∈ before, e.isSource = false) →
      Announced .patch (before ++ [.patchApplied path])

theorem Announced.unannounced : Announced .user [] := .user fun _ h => by cases h

theorem Announced.applied (path : Path) : Announced .patch [.patchApplied path] :=
  have hquiet : ∀ e ∈ ([] : List Event), e.isSource = false := fun _ h => by cases h
  Announced.patch path hquiet

theorem Announced.append {origin : Origin} {before events : List Event}
    (h : Announced origin before) (hq : ∀ e ∈ events, e.isSource = false) :
    Announced origin (events ++ before) := by
  have quiet : ∀ {before : List Event}, (∀ e ∈ before, e.isSource = false) →
      ∀ e ∈ events ++ before, e.isSource = false := by
    intro before hb e he
    obtain he | he := List.mem_append.mp he
    · exact hq e he
    · exact hb e he
  cases h with
  | user hb => exact .user (quiet hb)
  | patch path hb =>
    rw [← List.append_assoc]
    exact .patch path (quiet hb)

theorem Announced.getLast? {origin : Origin} {before : List Event} (h : Announced origin before) :
    origin = .patch ↔ ∃ path, before.getLast? = some (.patchApplied path) := by
  cases h with
  | user hb =>
    refine ⟨fun h => (by cases h), fun ⟨path, h⟩ => ?_⟩
    cases hb _ (List.mem_of_getLast? h)
  | patch path hb => exact ⟨fun _ => ⟨path, by simp⟩, fun _ => rfl⟩

theorem Announced.not_mem {origin other : Origin} {before : List Event}
    (h : Announced origin before) : .sourceChanged other ∉ before := by
  intro hmem
  cases h with
  | user hb => cases hb _ hmem
  | patch path hb =>
    obtain hmem | hmem := List.mem_append.mp hmem
    · cases hb _ hmem
    · cases List.mem_singleton.mp hmem

/-- What the events of a step say of the source: nothing, and it stays; or once that it has
changed, and by what. -/
inductive SourceTold (s : Session γ) (c : Change γ) : Prop where
  | same : c.session.source = s.source → (∀ e ∈ c.events, e.isSource = false) → SourceTold s c
  | changed {before after : List Event} {origin : Origin} : c.session.source ≠ s.source →
      c.events = before ++ .sourceChanged origin :: after → Announced origin before →
      (∀ e ∈ after, e.isSource = false) → SourceTold s c

namespace SourceTold

variable {c : Change γ} {step : Session γ → Change γ}

theorem of_isRebuild (hs : SameEdits s c.session) (h : ∀ e ∈ c.events, e.isRebuild = true) :
    SourceTold s c :=
  .same hs.source fun e he => Event.isSource_of_isRebuild (h e he)

/-- A step after one that leaves the source alone and says nothing of it. -/
theorem after_quiet (hsource : c.session.source = s.source)
    (hquiet : ∀ e ∈ c.events, e.isSource = false) (h : SourceTold c.session (step c.session)) :
    SourceTold s (c.andThen step) := by
  cases h with
  | same hs he =>
    refine .same (hs.trans hsource) fun e h => ?_
    obtain h | h := List.mem_append.mp h
    · exact hquiet e h
    · exact he e h
  | changed hs he hb ha =>
    refine .changed (hsource ▸ hs) ?_ (hb.append hquiet) ha
    show c.events ++ _ = _
    rw [he, List.append_assoc]

theorem replaceSource {source : String} {origin : Origin} {before : List Event} {s' : Session γ}
    (hne : source ≠ s.source) (hb : Announced origin before) :
    SourceTold s (Change.andThen { session := s', events := before }
      (Session.replaceSource t · source origin)) := by
  have hevents : (Change.andThen { session := s', events := before }
      (Session.replaceSource t · source origin)).events =
        before ++ .sourceChanged origin :: (recompile t { s' with source }).events := rfl
  refine .changed ?_ hevents hb fun e he => Event.isSource_of_isRebuild (isRebuild_recompile he)
  have hsource := (SameEdits.replaceSource (t := t) s' source origin).source
  exact fun h => hne (hsource.symm.trans h)

theorem runPatch (s : Session γ) (path : Path) (styles : Styles) :
    SourceTold s (s.runPatch t now path styles) := by
  unfold Session.runPatch
  dsimp only
  split
  · split
    · exact .same rfl fun e he => by rw [List.mem_singleton.mp he]; rfl
    · rename_i source _ hne
      exact replaceSource (fun h => hne (beq_iff_eq.mpr h)) (.applied path)
  · exact .same rfl fun e he => by rw [List.mem_singleton.mp he]; rfl

theorem syncSource (s : Session γ) : SourceTold s (s.syncSource t now) := by
  have one : ∀ {e e' : Event}, e.isSource = false → e' ∈ [e] → e'.isSource = false := by
    intro e e' h he
    rwa [List.mem_singleton.mp he]
  unfold Session.syncSource
  split
  · exact .same rfl fun e he => by cases he
  · exact .same rfl fun e he => one rfl he
  · exact .same rfl fun e he => one rfl he
  · exact .same rfl fun e he => by cases he
  · rename_i path styles _
    let s' : Session γ := { s with pending := false, lastPatched := s.overrides.snapshot }
    have htold : SourceTold s' (s'.runPatch t now path styles) := runPatch s' path styles
    cases htold with
    | same hs he => exact .same hs he
    | changed hs he hb ha => exact .changed hs he hb ha

end SourceTold

/-- **The source.** A call tells of a change of it where there is one. -/
theorem sourceTold_act (s : Session γ) (a : Action) : SourceTold s (s.act t a) := by
  cases a with
  | setSource source =>
    show SourceTold s (s.setSource t source)
    unfold setSource
    split
    · exact .same rfl fun e he => by cases he
    · rename_i hne
      have h : SourceTold s (Change.andThen { session := s, events := [] }
          (Session.replaceSource t · source .user)) :=
        .replaceSource (fun h => hne (beq_iff_eq.mpr h)) .unannounced
      cases h with
      | same hs he => exact .same hs he
      | changed hs he hb ha => exact .changed hs he hb ha
  | click c =>
    show SourceTold s (s.click t c)
    unfold click
    split
    · exact .same rfl fun e he => by cases he
    · split
      · exact .of_isRebuild (.select s _ _ _) fun _ => isRebuild_select
      · exact .of_isRebuild (.clearSelection s) fun _ => isRebuild_clearSelection
  | press k =>
    cases k with
    | escape => exact .of_isRebuild (.clearSelection s) fun _ => isRebuild_clearSelection
    | other => exact .same rfl fun e he => by cases he
  | closePopover => exact .of_isRebuild (.clearSelection s) fun _ => isRebuild_clearSelection
  | updateStyle p value now =>
    show SourceTold s (s.updateStyle t p value now)
    unfold updateStyle
    split
    · exact .same rfl fun e he => by cases he
    · exact .after_quiet rfl (fun e he => by rw [List.mem_singleton.mp he]; rfl) (.syncSource _)
  | clearOverrides =>
    show SourceTold s (s.clearOverrides t)
    unfold clearOverrides
    split
    · exact .same rfl fun e he => by cases he
    · refine .after_quiet rfl (fun e he => by rw [List.mem_singleton.mp he]; rfl) ?_
      exact .of_isRebuild (.renderPreview _) fun _ => isRebuild_renderPreview
  | unmount =>
    show SourceTold s s.unmount
    unfold unmount
    refine .after_quiet (SameEdits.clearSelection s).source
      (fun e he => Event.isSource_of_isRebuild (isRebuild_clearSelection he)) ?_
    exact .same rfl fun e he => by cases he
  | tick now =>
    show SourceTold s (s.tick t now)
    unfold tick
    dsimp only
    split
    · exact .same rfl fun e he => by cases he
    · let s' : Session γ := { s with guard := s.guard.release now }
      have htold : SourceTold s' (s'.syncSource t now) := .syncSource s'
      cases htold with
      | same hs he => exact .same hs he
      | changed hs he hb ha => exact .changed hs he hb ha

/-- **The edits.** They change only where that is told. -/
theorem overridesChanged_of_ne {a : Action} (h : (s.act t a).session.overrides ≠ s.overrides) :
    ∃ path, .overridesChanged path ∈ (s.act t a).events := by
  cases hpoint : s.syncPoint a with
  | some point =>
    obtain ⟨s₁, now⟩ := point
    rw [(act_of_syncPoint hpoint).1, overrides_syncSource] at h
    obtain ⟨selected, p, value, rfl, hs, rfl⟩ | ⟨-, rfl, -⟩ := syncPoint_cases hpoint
    · unfold act updateStyle
      rw [hs]
      exact ⟨some selected.path, List.mem_cons_self⟩
    · exact absurd rfl h
  | none =>
    cases idle_act (t := t) hpoint with
    | steady source _ _ hs => exact absurd hs.overrides h
    | clear hs =>
      unfold act clearOverrides at h ⊢
      dsimp only at h ⊢
      split
      · rename_i hempty
        rw [if_pos hempty] at h
        exact absurd rfl h
      · exact ⟨none, List.mem_cons_self⟩
    | unmount hs => exact absurd hs.overrides h
    | tick now hs => rw [hs] at h; exact absurd rfl h

/-- **Listeners are told the truth.** The view after a call is the one before it with the events of
the call heard: the selection is that of the last change of the selection, the component and what is
shown are those of the last event about compiling and rendering, and each stays where there is no
such event. The source changes exactly in calls that say so; they say it once, and it is the change
of a patch if the event just before it is that patch (no call ends between the two). The edits change
only in calls that say so. -/
theorem events_true {a : Action} (hr : Reachable t window s) :
    let c := s.act t a
    let after := c.session.view
    (after = s.view.hearAll c.events ∧
      after.selected = (Event.last? Event.selected? c.events).getD s.view.selected ∧
      after.component = (Event.last? Event.component? c.events).getD s.view.component ∧
      after.shown = (Event.last? Event.shown? c.events).getD s.view.shown) ∧
    (c.session.source = s.source → ∀ origin, .sourceChanged origin ∉ c.events) ∧
    (c.session.source ≠ s.source → ∃ before origin after,
      c.events = before ++ .sourceChanged origin :: after ∧
      (∀ other, .sourceChanged other ∉ before ++ after) ∧
      (origin = .patch ↔ ∃ path, before.getLast? = some (.patchApplied path))) ∧
    (∀ path, c.events.getLast? ≠ some (.patchApplied path)) ∧
    (c.session.overrides ≠ s.overrides → ∃ path, .overridesChanged path ∈ c.events) := by
  intro c after
  have htells : after = s.view.hearAll c.events := hr.consistent.tells a
  refine ⟨⟨htells, ?_, ?_, ?_⟩, ?_⟩
  · rw [htells, View.selected_hearAll]
  · rw [htells, View.component_hearAll]
  · rw [htells, View.shown_hearAll]
  · obtain ⟨hs, hq⟩ | ⟨hs, he, hb, ha⟩ := sourceTold_act (t := t) s a
    · refine ⟨fun _ origin h => ?_, fun hne => absurd hs hne, fun path h => ?_,
        overridesChanged_of_ne⟩
      · cases hq _ h
      · cases hq _ (List.mem_of_getLast? h)
    · rename_i before rest origin
      refine ⟨fun h => absurd h hs, fun _ => ⟨before, origin, rest, he, ?_, hb.getLast?⟩,
        fun path h => ?_, overridesChanged_of_ne⟩
      · intro other h
        obtain h | h := List.mem_append.mp h
        · exact hb.not_mem h
        · cases ha _ h
      · -- the last event is the change of the source or one after it
        rw [show c.events = before ++ .sourceChanged origin :: rest from he, List.getLast?_append,
          List.getLast?_cons, Option.some_or, ← List.getLast?_cons] at h
        obtain h | h := List.mem_cons.mp (List.mem_of_getLast? h)
        · cases h
        · cases ha _ h

/-- A patch: the edit is told, then the patch, then the change that it made, then what the source is
now. -/
theorem events_true_patch :
    let s := run .paragraph paragraph [.pick 1]
    let c := s.act .paragraph (.updateStyle .padding "1px" 0)
    let path : Path := ⟨[⟨"p", 0⟩]⟩
    c.events = [.overridesChanged (some path), .patchApplied path, .sourceChanged .patch,
      .compiled "App" 2, .previewRendered 2] ∧
      c.session.view = s.view.hearAll c.events ∧
      c.session.view.shown = (some 2, none, none) := by
  intro s c path
  have hr : Reachable .paragraph 100 s := .run (.start _) _
  have hevents : c.events = [.overridesChanged (some path), .patchApplied path,
      .sourceChanged .patch, .compiled "App" 2, .previewRendered 2] := by decide +kernel
  obtain ⟨⟨hview, -, -, hshown⟩, -⟩ :=
    events_true (t := .paragraph) (a := .updateStyle .padding "1px" 0) hr
  refine ⟨hevents, hview, ?_⟩
  rw [hshown, show (s.act .paragraph (.updateStyle .padding "1px" 0)).events = c.events from rfl,
    hevents]
  rfl

end Session
end Restyle
