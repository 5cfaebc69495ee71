import Restyle.Proofs.Document.Alike
import Restyle.Proofs.Session.Consistency

/-!
# Restyle.Proofs.Session.History

What a session shows does not depend on how it came about (`history_independent`): the preview is
the one that the source and the edits give from scratch, up to the order of declarations, and the
edits are the last ones made since they were forgotten.

Edits change a preview that has earlier edits in it; that they leave nothing of these is
`Document.Alike.applyOverrides`.
-/

namespace Restyle

namespace Tools

variable {γ : Type} {t : Tools γ} {source : String} {c : γ}

/-- The components of a source: what it compiles to, and what rendering such a component leaves. -/
inductive Gives (t : Tools γ) (source : String) : γ → Prop where
  | compiled {attempt : Nat} {name : String} {c : γ} :
      t.compile attempt source = .ok (name, c) → Gives t source c
  | rendered {c : γ} : Gives t source c → Gives t source (t.render c).2

/-- What a source compiles to and is rendered as is decided by the source. -/
structure Repeatable (t : Tools γ) : Prop where
  compile : ∀ attempt attempt' source, t.compile attempt source = t.compile attempt' source
  render : ∀ source c c', t.Gives source c → t.Gives source c' → (t.render c).1 = (t.render c').1

/-- The preview from scratch: the source is compiled and rendered, and all edits are written into
the document. -/
def fresh (t : Tools γ) (source : String) (o : Overrides) : Option Document :=
  match t.compile 1 source with
  | .error _ => none
  | .ok (_, c) =>
    match (t.render c).1 with
    | .error _ => none
    | .ok markup =>
      let d := Document.ofMarkup markup t.rootClass
      some (d.applyOverrides d.root o).1

theorem Repeatable.fresh_eq {markup : String} (ht : t.Repeatable) (hc : t.Gives source c)
    (hm : (t.render c).1 = .ok markup) (o : Overrides) : t.fresh source o =
      let d := Document.ofMarkup markup t.rootClass
      some (d.applyOverrides d.root o).1 := by
  obtain ⟨name, c₁, hcomp⟩ : ∃ name c₁, t.compile 1 source = .ok (name, c₁) := by
    clear hm
    induction hc with
    | @compiled attempt name c h => exact ⟨name, c, (ht.compile 1 attempt source).trans h⟩
    | rendered _ ih => exact ih
  have hm₁ : (t.render c₁).1 = .ok markup := by
    rw [← ht.render source c c₁ hc (.compiled hcomp), hm]
  unfold fresh
  rw [hcomp]
  dsimp only
  rw [hm₁]

/-- What is shown from scratch was read from markup, so that more edits may be written into it. -/
theorem fresh_edited {d d' : Document} {o o' : Overrides} (h : t.fresh source o = some d)
    (halike : Document.Alike d d')
    (hgrow : ∀ path p, (o.recorded path p).isSome = true → (o'.recorded path p).isSome = true) :
    ∃ e, t.fresh source o' = some e ∧ Document.Alike e (d'.applyOverrides d'.root o').1 := by
  unfold fresh at h ⊢
  split at h
  · cases h
  · split at h
    · cases h
    · cases h
      exact ⟨_, rfl, halike.applyOverrides (Document.isTidy_ofMarkup _ _) hgrow⟩

end Tools

namespace Session

variable {γ : Type} {t : Tools γ} {s s' : Session γ} {a : Action} {window now : Nat}

/-! ## The preview -/

/-- The preview is the one from scratch, up to the order of declarations. -/
def Shows (t : Tools γ) (s : Session γ) : Prop :=
  ∀ f, s.frame = some f → ∃ d, t.fresh s.source s.overrides = some d ∧ Document.Alike d f.document

/-- The component comes from the source, and the preview is the one from scratch. -/
structure Fresh (t : Tools γ) (s : Session γ) : Prop where
  component : ∀ c, s.component = some c → t.Gives s.source c.value
  ordered : s.overrides.Ordered
  shows : s.Shows t

/-- Source, edits, component and frame are the same. -/
structure SameView (s s' : Session γ) : Prop where
  source : s'.source = s.source
  overrides : s'.overrides = s.overrides
  component : s'.component = s.component
  frame : s'.frame = s.frame

namespace SameView

theorem refl (s : Session γ) : SameView s s := ⟨rfl, rfl, rfl, rfl⟩

theorem clearSelection (s : Session γ) : SameView s s.clearSelection.session := by
  unfold Session.clearSelection
  split <;> exact ⟨rfl, rfl, rfl, rfl⟩

theorem refreshSelection (s : Session γ) : SameView s s.refreshSelection.session := by
  unfold Session.refreshSelection
  split
  · exact refl s
  · split
    · exact ⟨rfl, rfl, rfl, rfl⟩
    · exact clearSelection s

theorem select (s : Session γ) (element : Handle) (x y : Float32) :
    SameView s (s.select t element x y).session := by
  unfold Session.select
  split
  · exact refl s
  · dsimp only
    split <;> exact ⟨rfl, rfl, rfl, rfl⟩

end SameView

theorem Fresh.of_sameView (hf : Fresh t s) (hs : SameView s s') : Fresh t s' := by
  refine ⟨fun c hc => ?_, ?_, fun f hframe => ?_⟩
  · rw [hs.source]
    exact hf.component c (hs.component ▸ hc)
  · rw [hs.overrides]
    exact hf.ordered
  · rw [hs.source, hs.overrides]
    exact hf.shows f (hs.frame ▸ hframe)

/-! ## Compiling and rendering -/

/-- A component that is there is rendered. -/
theorem Fresh.renderPreview (ht : t.Repeatable)
    (hc : ∀ c, s.component = some c → t.Gives s.source c.value) (ho : s.overrides.Ordered)
    (hnone : s.component = none → s.frame = none) : Fresh t (s.renderPreview t).session := by
  unfold Session.renderPreview
  split
  · rename_i hcomp
    exact ⟨hc, ho, fun f hf => by rw [hnone hcomp] at hf; cases hf⟩
  · rename_i c hcomp
    have hgives := hc c hcomp
    have hafter : ∀ c' : Mounted γ, some { c with value := (t.render c.value).2 } = some c' →
        t.Gives s.source c'.value := by
      rintro c' hc'
      cases hc'
      exact hgives.rendered
    split
    · rename_i markup value hr
      rw [hr] at hafter
      have hshown : Fresh t { s with
          component := some { c with value }
          frame := some (Frame.edited { document := .ofMarkup markup t.rootClass, key := c.key }
            s.overrides)
          runtimeError := none } := by
        refine ⟨hafter, ho, fun f hf => ?_⟩
        cases hf
        exact ⟨_, ht.fresh_eq hgives (by rw [hr]) s.overrides, .refl _⟩
      exact hshown.of_sameView (.refreshSelection _)
    · rename_i e value hr
      rw [hr] at hafter
      have hfailed : Fresh t { s with
          component := some { c with value }, frame := none, runtimeError := some e } :=
        ⟨hafter, ho, fun f hf => by cases hf⟩
      exact hfailed.of_sameView (.clearSelection _)

theorem Fresh.recompile (ht : t.Repeatable) (ho : s.overrides.Ordered) :
    Fresh t (s.recompile t).session := by
  unfold Session.recompile
  dsimp only
  split
  · rename_i name value hcomp
    refine Fresh.renderPreview ht ?_ ho fun h => by cases h
    intro c hc
    cases hc
    exact .compiled hcomp
  · rename_i e _
    have hfailed : Fresh t { s with
        attempts := s.attempts + 1, component := none, frame := none, runtimeError := none
        compileError := some e } :=
      ⟨fun c hc => (by cases hc), ho, fun f hf => by cases hf⟩
    exact hfailed.of_sameView (.clearSelection _)

/-! ## Edits -/

theorem Fresh.recordEdit (hf : Fresh t s) (path : Path) (p : Property) (value : String) :
    Fresh t (s.recordEdit path p value).session := by
  refine ⟨hf.component, hf.ordered.set path p value, fun f' hframe' => ?_⟩
  obtain ⟨f, hframe, rfl⟩ := Option.map_eq_some_iff.mp hframe'
  obtain ⟨d, hd, halike⟩ := hf.shows f hframe
  refine Tools.fresh_edited hd halike fun path' p' h => ?_
  show ((s.overrides.set path p value).recorded path' p').isSome = true
  rw [hf.ordered.recorded_set]
  split
  · rfl
  · exact h

theorem Fresh.runPatch (ht : t.Repeatable) (hf : Fresh t s) (path : Path) (styles : Styles) :
    Fresh t (s.runPatch t now path styles).session := by
  have hengaged : Fresh t { s with guard := s.guard.engage now } :=
    hf.of_sameView ⟨rfl, rfl, rfl, rfl⟩
  unfold Session.runPatch
  dsimp only
  split
  · split
    · exact hengaged
    · exact .recompile ht hf.ordered
  · exact hengaged

theorem Fresh.syncSource (ht : t.Repeatable) (hf : Fresh t s) :
    Fresh t (s.syncSource t now).session := by
  unfold Session.syncSource
  split
  · exact hf
  · exact hf.of_sameView ⟨rfl, rfl, rfl, rfl⟩
  · exact hf.of_sameView ⟨rfl, rfl, rfl, rfl⟩
  · exact hf.of_sameView ⟨rfl, rfl, rfl, rfl⟩
  · have hplanned : Fresh t { s with pending := false, lastPatched := s.overrides.snapshot } :=
      hf.of_sameView ⟨rfl, rfl, rfl, rfl⟩
    exact hplanned.runPatch ht _ _

/-! ## Calls -/

theorem Fresh.clearOverrides (ht : t.Repeatable) (hc : Consistent s) (hf : Fresh t s) :
    Fresh t (s.clearOverrides t).session := by
  unfold Session.clearOverrides
  split
  · exact hf
  · refine Fresh.renderPreview (s := { s with overrides := {}, pending := false }) ht hf.component
      .empty fun hnone => ?_
    have hone := hc.one
    rw [← hc.isNone_component, show s.component.isNone = true by rw [hnone]; rfl] at hone
    cases hframe : s.frame with
    | none => rfl
    | some f => cases hr : s.runtimeError <;> simp [hframe, hr] at hone

theorem Fresh.act (ht : t.Repeatable) (hc : Consistent s) (hf : Fresh t s) (a : Action) :
    Fresh t (s.act t a).session := by
  cases a with
  | setSource source =>
    show Fresh t (s.setSource t source).session
    unfold Session.setSource
    split
    · exact hf
    · exact .recompile ht hf.ordered
  | click c =>
    show Fresh t (s.click t c).session
    unfold Session.click
    split
    · exact hf
    · split
      · exact hf.of_sameView (.select s _ _ _)
      · exact hf.of_sameView (.clearSelection s)
  | press k =>
    cases k with
    | escape => exact hf.of_sameView (.clearSelection s)
    | other => exact hf
  | closePopover => exact hf.of_sameView (.clearSelection s)
  | updateStyle p value now =>
    show Fresh t (s.updateStyle t p value now).session
    unfold Session.updateStyle
    split
    · exact hf
    · exact .syncSource ht (hf.recordEdit _ p value)
  | clearOverrides => exact hf.clearOverrides ht hc
  | unmount =>
    have hclear := hf.of_sameView (.clearSelection s)
    exact hclear.of_sameView ⟨rfl, rfl, rfl, rfl⟩
  | tick now =>
    show Fresh t (s.tick t now).session
    unfold Session.tick
    dsimp only
    split
    · exact hf.of_sameView ⟨rfl, rfl, rfl, rfl⟩
    · exact .syncSource ht (hf.of_sameView ⟨rfl, rfl, rfl, rfl⟩)

theorem Reachable.fresh (ht : t.Repeatable) (hr : Reachable t window s) : Fresh t s := by
  induction hr with
  | start source => exact .recompile ht .empty
  | act a hr ih => exact ih.act ht hr.consistent a

/-! ## The log of edits -/

/-- An edit as it was made. -/
structure Edit where
  path : Path
  property : Property
  value : String

/-- The log after a call, the last edit first. -/
def logged (s : Session γ) (a : Action) (log : List Edit) : List Edit :=
  match a, s.selection with
  | .updateStyle p value _, some selected => ⟨selected.path, p, value⟩ :: log
  | .clearOverrides, _ => []
  | _, _ => log

/-- The states of a session, with the edits made since all were forgotten. -/
inductive Logged (t : Tools γ) (window : Nat) : Session γ → List Edit → Prop where
  | start (source : String) : Logged t window (start t window source) []
  | act {s : Session γ} {log : List Edit} (a : Action) : Logged t window s log →
      Logged t window (s.act t a).session (s.logged a log)

theorem Logged.reachable {log : List Edit} (hl : Logged t window s log) : Reachable t window s := by
  induction hl with
  | start source => exact .start source
  | act a _ ih => exact .act a ih

theorem Reachable.exists_logged (hr : Reachable t window s) : ∃ log, Logged t window s log := by
  induction hr with
  | start source => exact ⟨[], .start source⟩
  | act a _ ih =>
    obtain ⟨log, hl⟩ := ih
    exact ⟨_, .act a hl⟩

def lastEdit (log : List Edit) (path : Path) (p : Property) : Option Edit :=
  log.find? fun e => e.path = path ∧ e.property = p

/-- What a call does to the edits: one is made, all are forgotten, or they stay. -/
theorem overrides_act (s : Session γ) (a : Action) : (s.act t a).session.overrides =
    match a, s.selection with
    | .updateStyle p value _, some selected => s.overrides.set selected.path p value
    | .clearOverrides, _ => {}
    | _, _ => s.overrides := by
  cases a with
  | setSource source =>
    unfold act setSource
    dsimp only
    split
    · rfl
    · exact (SameEdits.replaceSource (t := t) s source .user).overrides
  | click c =>
    unfold act click
    dsimp only
    split
    · rfl
    · split
      · exact (SameEdits.select s _ _ _).overrides
      · exact (SameEdits.clearSelection s).overrides
  | press k =>
    cases k with
    | escape => exact (SameEdits.clearSelection s).overrides
    | other => rfl
  | closePopover => exact (SameEdits.clearSelection s).overrides
  | updateStyle p value now =>
    unfold act updateStyle
    cases s.selection with
    | none => rfl
    | some selected => exact overrides_syncSource _
  | clearOverrides =>
    unfold act clearOverrides
    dsimp only
    split
    · rename_i hempty
      exact Overrides.eq_empty_of_isEmpty hempty
    · exact (SameEdits.renderPreview { s with overrides := {}, pending := false }).overrides
  | unmount => exact (SameEdits.clearSelection s).overrides
  | tick now =>
    unfold act tick
    dsimp only
    split
    · rfl
    · exact overrides_syncSource _

theorem Logged.recorded {log : List Edit} (ht : t.Repeatable) (hl : Logged t window s log)
    (path : Path) (p : Property) :
    s.overrides.recorded path p = (lastEdit log path p).map fun e => Text.trim e.value := by
  induction hl with
  | start source =>
    have hnone : (Session.start t window source).overrides = {} :=
      (SameEdits.recompile (t := t) _).overrides
    rw [hnone]
    rfl
  | @act s log a hl ih =>
    rw [overrides_act]
    unfold logged
    split
    · rename_i p' value _ selected _
      rw [(hl.reachable.fresh ht).ordered.recorded_set, ih]
      unfold lastEdit
      by_cases h : selected.path = path ∧ p' = p
      · rw [if_pos h, List.find?_cons_of_pos (by simpa using h)]
        rfl
      · rw [if_neg h, List.find?_cons_of_neg (by simpa using h)]
    · rfl
    · exact ih

/-- **What is shown does not depend on how it came about.** When a source is always compiled to the
same component and rendered as the same markup, the preview of every reachable state is the one that
its source and its edits give from scratch, up to the order of declarations; and of each property of
each path the edits have the trimmed value that was last given since all were forgotten. -/
theorem history_independent (ht : t.Repeatable) (hr : Reachable t window s) :
    (∀ f, s.frame = some f →
      ∃ d, t.fresh s.source s.overrides = some d ∧ Document.Alike d f.document) ∧
    (∃ log, Logged t window s log) ∧
    ∀ log, Logged t window s log → ∀ path p,
      s.overrides.recorded path p = (lastEdit log path p).map fun e => Text.trim e.value :=
  ⟨(hr.fresh ht).shows, hr.exists_logged, fun _ hl => hl.recorded ht⟩

/-- A property that is set, cleared and set again comes after one that was set meanwhile. -/
theorem history_independent_reordered :
    let s := run .paragraph paragraph [.pick 1, .updateStyle .padding "1px" 0,
      .updateStyle .margin "2px" 10, .updateStyle .padding "" 20, .updateStyle .padding " 3px" 30]
    (∃ f d, s.frame = some f ∧ Tools.paragraph.fresh s.source s.overrides = some d ∧
      d ≠ f.document ∧ Document.Alike d f.document) ∧
    s.overrides.recorded ⟨[⟨"p", 0⟩]⟩ .padding = some "3px" := by
  intro s
  have ht : Tools.paragraph.Repeatable := ⟨fun _ _ _ => rfl, fun _ _ _ _ _ => rfl⟩
  have hl : Logged .paragraph 100 s _ := .act _ (.act _ (.act _ (.act _ (.act _ (.start _)))))
  obtain ⟨hframe, -, hrecorded⟩ := history_independent ht hl.reachable
  refine ⟨?_, (hrecorded _ hl _ _).trans (by decide +kernel)⟩
  obtain ⟨f, hf⟩ : ∃ f, s.frame = some f := Option.isSome_iff_exists.mp (by decide +kernel)
  obtain ⟨d, hd, halike⟩ := hframe f hf
  have hne : Tools.paragraph.fresh s.source s.overrides ≠ s.frame.map (·.document) := by
    decide +kernel
  rw [hd, hf] at hne
  exact ⟨f, d, hf, hd, fun h => hne (congrArg some h), halike⟩

end Session
end Restyle
