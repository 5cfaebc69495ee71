import Restyle.Proofs.Component.Surroundings

/-!
# Restyle.Proofs.Component.Scoped

Contexts are lexically scoped by the tree of elements. `Scoped` says what a tree is rendered as when
each context has the value of the nearest provider around the place, with no word on what contexts
hold in the meantime: a provider adds itself to what stands around its children, a consumer and a
component see what stands around them. The renderer, which sets the values of contexts and puts them
back, gives that and leaves the machine as it was (`Scoped.yields`), also where something throws.
-/

namespace Restyle
namespace Component

open Script Script.Run
open Script.Machine (Kept)

/-! ## What trees are rendered as -/

/-- The attributes that an element of the page has by its properties. -/
def attributesOf (h : Script.Host) (left : Nat) (props : Value) : Run (List Attribute) :=
  (View.surface h).keys props >>= (View.surface h).eachKey ((View.surface h).attributeFor left props)

/-- What is rendered: a value, an element by its type and properties, the children among properties,
values one after the other, or the content that a run gives, if it gives some. -/
inductive Item where
  | node (v : Value)
  | element (type props : Value)
  | children (props : Value)
  | list (vs : List Value)
  | given (run : Nat → Run (Option Value))

/-- Renders it. -/
def Item.render (h : Script.Host) (left : Nat) : Item → Run (List Rendered)
  | node v => (View.surface h).renderNode left v
  | element type props => (View.surface h).renderElement left type props
  | children props => do (View.surface h).renderNode left (← getProp h props "children")
  | list vs => (View.surface h).each ((View.surface h).renderNode left) vs
  | given run => do
    match ← run left with
    | some v => (View.surface h).renderNode left v
    | none => return []

/-- What a tree of elements is rendered as with what stands around it, or nothing if something in it
throws. Each step has its outcomes, a result or an exception. A run of a component may be any whose
outcome is told by what there was in the machine and by the values of contexts that the place sees. -/
inductive Scoped (h : Script.Host) : Surroundings → Machine → Item → Option (List Rendered) → Prop where
  -- content
  | unreadable {ρ m v} : Yields ρ m (View.content h v) none → Scoped h ρ m (.node v) none
  | nothing {ρ m v} : Yields ρ m (View.content h v) (some .nothing) → Scoped h ρ m (.node v) (some [])
  | function {ρ m v} : Yields ρ m (View.content h v) (some .function) → Scoped h ρ m (.node v) (some [])
  | text {ρ m v s} : Yields ρ m (View.content h v) (some (.text s)) →
      Scoped h ρ m (.node v) (some [.text s])
  | items {ρ m v vs out} : Yields ρ m (View.content h v) (some (.items vs)) →
      Scoped h ρ m (.list vs) out → Scoped h ρ m (.node v) out
  | node {ρ m v type props out} : Yields ρ m (View.content h v) (some (.element type props)) →
      Scoped h ρ m (.element type props) out → Scoped h ρ m (.node v) out
  | invalid {ρ m v text?} : Yields ρ m (View.content h v) (some .invalid) →
      (∀ left, Yields ρ m (View.describe left v) text?) → Scoped h ρ m (.node v) none
  -- what stands inside an element
  | unopened {ρ m props} : Yields ρ m (getProp h props "children") none →
      Scoped h ρ m (.children props) none
  | children {ρ m props child out} : Yields ρ m (getProp h props "children") (some child) →
      Scoped h ρ m (.node child) out → Scoped h ρ m (.children props) out
  -- values one after the other
  | nil {ρ m} : Scoped h ρ m (.list []) (some [])
  | cons {ρ m v vs rs out} : Scoped h ρ m (.node v) (some rs) → Scoped h ρ m (.list vs) out →
      Scoped h ρ m (.list (v :: vs)) (out.map (rs ++ ·))
  | stop {ρ m v vs} : Scoped h ρ m (.node v) none → Scoped h ρ m (.list (v :: vs)) none
  -- elements of the page
  | untyped {ρ m type props} : Yields ρ m (View.kind h type) none → Scoped h ρ m (.element type props) none
  | unread {ρ m type props tag} : Yields ρ m (View.kind h type) (some (.host tag)) →
      (∀ left, Yields ρ m (attributesOf h left props) none) → Scoped h ρ m (.element type props) none
  | void {ρ m type props tag as} : Yields ρ m (View.kind h type) (some (.host tag)) →
      (∀ left, Yields ρ m (attributesOf h left props) (some as)) → isListed voidTags tag = true →
      Scoped h ρ m (.element type props) (some [.element tag as []])
  | unmarked {ρ m type props tag as} : Yields ρ m (View.kind h type) (some (.host tag)) →
      (∀ left, Yields ρ m (attributesOf h left props) (some as)) → isListed voidTags tag = false →
      Yields ρ m (View.rawMarkup h props) none → Scoped h ρ m (.element type props) none
  | raw {ρ m type props tag as v text?} : Yields ρ m (View.kind h type) (some (.host tag)) →
      (∀ left, Yields ρ m (attributesOf h left props) (some as)) → isListed voidTags tag = false →
      Yields ρ m (View.rawMarkup h props) (some (some v)) →
      (∀ left, Yields ρ m (View.text left v) text?) →
      Scoped h ρ m (.element type props) (text?.map fun s => [.element tag as [.raw s]])
  | host {ρ m type props tag as out} : Yields ρ m (View.kind h type) (some (.host tag)) →
      (∀ left, Yields ρ m (attributesOf h left props) (some as)) → isListed voidTags tag = false →
      Yields ρ m (View.rawMarkup h props) (some none) → Scoped h ρ m (.children props) out →
      Scoped h ρ m (.element type props) (out.map fun rs => [.element tag as rs])
  -- elements that stand for others
  | fragment {ρ m type props out} : Yields ρ m (View.kind h type) (some .fragment) →
      Scoped h ρ m (.children props) out → Scoped h ρ m (.element type props) out
  | component {ρ m type props out} : Yields ρ m (View.kind h type) (some .component) →
      Scoped h ρ m (.given fun left => some <$> View.run left type props) out →
      Scoped h ρ m (.element type props) out
  | forward {ρ m type props out} : Yields ρ m (View.kind h type) (some .forward) →
      Scoped h ρ m (.given fun left => some <$> View.forwarded left type props) out →
      Scoped h ρ m (.element type props) out
  | memo {ρ m type props inner out} : Yields ρ m (View.kind h type) (some (.memo inner)) →
      Scoped h ρ m (.element inner props) out → Scoped h ρ m (.element type props) out
  | unknown {ρ m type props text?} : Yields ρ m (View.kind h type) (some .invalid) →
      (∀ left, Yields ρ m (View.describe left type) text?) → Scoped h ρ m (.element type props) none
  -- contexts
  | unvalued {ρ m type props c} : Yields ρ m (View.kind h type) (some (.provider (.object c))) →
      (m.current? c).isSome = true → Yields ρ m (getProp h props "value") none →
      Scoped h ρ m (.element type props) none
  | provider {ρ m type props c v out} : Yields ρ m (View.kind h type) (some (.provider (.object c))) →
      (m.current? c).isSome = true → Yields ρ m (getProp h props "value") (some v) →
      Scoped h (ρ.inside c v) m (.children props) out → Scoped h ρ m (.element type props) out
  | consumer {ρ m type props c out} : Yields ρ m (View.kind h type) (some (.consumer (.object c))) →
      (m.current? c).isSome = true →
      Scoped h ρ m (.given fun left => View.consumed left props (ρ.value c)) out →
      Scoped h ρ m (.element type props) out
  -- what a component gives is rendered where the component stands, with all that it has made
  | given {ρ m run out} :
      (∀ left m', IsLater ρ m m' →
        Ends m' (fun v? => v? = none → out = some []) (out = none) (run left m')) →
      (∀ left m' v m'', IsLater ρ m m' → run left m' = .ok (some v) m'' →
        Scoped h (ρ.since m m'') m'' (.node v) out) →
      Scoped h ρ m (.given run) out

/-! ## What the renderer gives -/

variable {ρ : Surroundings} {m : Machine} {h : Script.Host} {type props v : Value} {vs : List Value}
  {c left : Nat} {tag s : Utf16} {out : Option (List Rendered)} {run : Nat → Run (Option Value)}

theorem yields_need (left wanted : Nat) : Yields ρ m ((View.surface h).need left wanted) (some ()) := by
  unfold Surface.need
  split
  · exact .limit
  · exact .pure ()

/-- A context is asked for the value that is seen. -/
theorem yields_current (hc : (m.current? c).isSome = true) :
    Yields ρ m (getName h (.object c) "currentValue") (some (ρ.value c)) := by
  obtain ⟨w, hw⟩ := Option.isSome_iff_exists.mp hc
  exact .of_reads fun m' hm => getName_current (hm.current? hw)

/-- What a run gives that always gives something is rendered. -/
theorem render_given_some (run : Nat → Run Value) (left : Nat) :
    (Item.given fun left => some <$> run left).render h left =
      run left >>= (View.surface h).renderNode left := by
  simp only [Item.render, map_eq_pure_bind, bind_assoc, pure_bind]

/-- What a run gives that may give nothing is rendered if there is something. -/
theorem yields_given {f : Option Value → Run (List Rendered)}
    (hgiven : Yields ρ m ((Item.given run).render h left) out)
    (hsome : ∀ v, f (some v) = (View.surface h).renderNode left v) (hnone : f none = pure []) :
    Yields ρ m (run left >>= f) out := by
  have hf : run left >>= f = (Item.given run).render h left := by
    refine bind_congr fun v? => ?_
    cases v? with
    | none => exact hnone
    | some v => exact hsome v
  rwa [hf]

/-- A value is rendered in a frame of its own, by what it is as content. -/
theorem yields_renderNode {shown : Nat → Content Value → Run (List Rendered)}
    (hnode : ∀ left, (View.surface h).renderNode (left + 1) v = framed 1 (View.content h v >>= shown left))
    (hshown : ∀ left, Yields ρ m (View.content h v >>= shown left) out) (left : Nat) :
    Yields ρ m ((Item.node v).render h left) out := by
  cases left with
  | zero =>
    rw [Item.render, Surface.renderNode]
    exact .limit
  | succ left =>
    rw [Item.render, hnode]
    exact .framed 1 (hshown left)

/-- An element is rendered in a frame of its own, by what its type is. -/
theorem yields_renderElement {shown : Nat → ElementKind Value → Run (List Rendered)}
    (helement : ∀ left, (View.surface h).renderElement (left + 1) type props =
      framed 1 (View.kind h type >>= shown left))
    (hshown : ∀ left, Yields ρ m (View.kind h type >>= shown left) out) (left : Nat) :
    Yields ρ m ((Item.element type props).render h left) out := by
  cases left with
  | zero =>
    rw [Item.render, Surface.renderElement]
    exact .limit
  | succ left =>
    rw [Item.render, helement]
    exact .framed 1 (hshown left)

/-- An element of the page is rendered in a frame of its own, its attributes first. -/
theorem yields_renderHost {inside : Nat → List Attribute → Run (List Rendered)}
    (hhost : ∀ left, (View.surface h).renderHost (left + 1) tag props = framed 2 (do
      let as ← (View.surface h).eachKey ((View.surface h).attributeFor left props)
        (← (View.surface h).keys props)
      inside left as))
    (hinside : ∀ left, Yields ρ m (attributesOf h left props >>= inside left) out) (left : Nat) :
    Yields ρ m ((View.surface h).renderHost left tag props) out := by
  cases left with
  | zero =>
    rw [Surface.renderHost]
    exact .limit
  | succ left =>
    rw [hhost, ← bind_assoc]
    exact .framed 2 (hinside left)

/-- **The renderer gives what lexical scoping says**, wherever contexts have the values that are seen
from a place, and it leaves everything as it was. -/
theorem Scoped.yields {item : Item} (hs : Scoped h ρ m item out) (left : Nat) :
    Yields ρ m (item.render h left) out := by
  induction hs generalizing left with
  | unreadable hcontent => exact yields_renderNode (fun _ => rfl) (fun left => hcontent.throws) left
  | nothing hcontent =>
    exact yields_renderNode (fun _ => rfl) (fun left => hcontent.after (.pure _)) left
  | function hcontent =>
    refine yields_renderNode (fun _ => rfl) (fun left => hcontent.after ?_) left
    exact (yields_need left 1).after (.pure _)
  | text hcontent =>
    refine yields_renderNode (fun _ => rfl) (fun left => hcontent.after ?_) left
    exact (yields_need left 2).after (.pure _)
  | items hcontent _ ih =>
    refine yields_renderNode (fun _ => rfl) (fun left => hcontent.after ?_) left
    exact (yields_need left 1).after (ih left)
  | node hcontent _ ih =>
    exact yields_renderNode (fun _ => rfl) (fun left => hcontent.after (ih left)) left
  | invalid hcontent hsaid =>
    refine yields_renderNode (fun _ => rfl) (fun left => hcontent.after ?_) left
    refine (yields_need left 2).after ?_
    exact (hsaid left).bind (fun _ => rfl) fun text _ => .failure _
  | unopened hchild => exact hchild.throws
  | children hchild _ ih => exact hchild.after (ih left)
  | nil =>
    rw [Item.render, Surface.each]
    exact .pure _
  | cons _ _ ih ihRest =>
    rw [Item.render, Surface.each]
    exact (ih left).after (Yields.countRound.after (ihRest left).bind_pure)
  | stop _ ih =>
    rw [Item.render, Surface.each]
    exact (ih left).throws
  | untyped hkind => exact yields_renderElement (fun _ => rfl) (fun left => hkind.throws) left
  | unread hkind has =>
    refine yields_renderElement (fun _ => rfl) (fun left => hkind.after ?_) left
    exact yields_renderHost (fun _ => rfl) (fun left => (has left).throws) left
  | void hkind has hvoid =>
    refine yields_renderElement (fun _ => rfl) (fun left => hkind.after ?_) left
    refine yields_renderHost (fun _ => rfl) (fun left => (has left).after ?_) left
    rw [if_pos hvoid]
    exact .pure _
  | unmarked hkind has hvoid hraw =>
    refine yields_renderElement (fun _ => rfl) (fun left => hkind.after ?_) left
    refine yields_renderHost (fun _ => rfl) (fun left => (has left).after ?_) left
    rw [hvoid, if_neg Bool.false_ne_true]
    exact hraw.throws
  | raw hkind has hvoid hraw htext =>
    refine yields_renderElement (fun _ => rfl) (fun left => hkind.after ?_) left
    refine yields_renderHost (fun _ => rfl) (fun left => (has left).after ?_) left
    rw [hvoid, if_neg Bool.false_ne_true]
    exact hraw.after ((yields_need left 1).after (htext left).bind_pure)
  | @host ρ m type props tag as out hkind has hvoid hraw _ ih =>
    refine yields_renderElement (fun _ => rfl) (fun left => hkind.after ?_) left
    refine yields_renderHost (fun _ => rfl) (fun left => (has left).after ?_) left
    rw [hvoid, if_neg Bool.false_ne_true]
    have hinside : Yields ρ m
        ((Item.children props).render h left >>= fun rs => pure [Rendered.element tag as rs])
        (out.map fun rs => [Rendered.element tag as rs]) := (ih left).bind_pure
    rw [Item.render, bind_assoc] at hinside
    exact hraw.after hinside
  | fragment hkind _ ih =>
    exact yields_renderElement (fun _ => rfl) (fun left => hkind.after (ih left)) left
  | component hkind _ ih =>
    refine yields_renderElement (fun _ => rfl) (fun left => hkind.after ?_) left
    have hgiven := ih left
    rw [render_given_some] at hgiven
    exact hgiven
  | forward hkind _ ih =>
    refine yields_renderElement (fun _ => rfl) (fun left => hkind.after ?_) left
    have hgiven := ih left
    rw [render_given_some] at hgiven
    exact hgiven
  | memo hkind _ ih =>
    exact yields_renderElement (fun _ => rfl) (fun left => hkind.after (ih left)) left
  | unknown hkind hsaid =>
    refine yields_renderElement (fun _ => rfl) (fun left => hkind.after ?_) left
    exact (hsaid left).bind (fun _ => rfl) fun text _ => .failure _
  | unvalued hkind hc hvalue =>
    refine yields_renderElement (fun _ => rfl) (fun left => hkind.after ?_) left
    exact (yields_current hc).after hvalue.throws
  | provider hkind hc hvalue _ ih =>
    refine yields_renderElement (fun _ => rfl) (fun left => hkind.after ?_) left
    exact (yields_current hc).after (hvalue.after (.provided hc (ih left)))
  | consumer hkind hc _ ih =>
    refine yields_renderElement (fun _ => rfl) (fun left => hkind.after ?_) left
    exact (yields_current hc).after (yields_given (ih left) (fun _ => rfl) rfl)
  | given hrun _ ih =>
    intro m' hm
    refine (hrun left m' hm).bind id fun v? m'' hok hk hnone => ?_
    cases v? with
    | none => exact ⟨Kept.refl m'', hnone rfl⟩
    | some v => exact ih left m' v m'' hm hok left m'' (hm.since hk)

/-! ## Trees that are objects -/

section

variable {i : Nat} {o : Obj} {k : Key}

/-- A member is read as it is, whatever values contexts have. -/
theorem yields_member (ho : m.heap[i]? = some o) (hproxy : o.isProxy = false)
    (hs : o.own? k = some (.plain v)) (hk : ("currentValue" == k) = false) :
    Yields ρ m (getProp h (.object i) k) (some v) := by
  refine .of_reads fun m' hm =>
    reads_getProp (hm.heap ho) ((Obj.withCurrent_isProxy ..).trans hproxy) ?_ m' rfl
  rw [Obj.own?_withCurrent hk, hs]

/-- A member that an object does not have, which has no parent. -/
theorem yields_noMember (ho : m.heap[i]? = some o) (hproxy : o.isProxy = false) (hparent : o.parent = none)
    (hs : o.own? k = none) (hk : ("currentValue" == k) = false) :
    Yields ρ m (getProp h (.object i) k) (some .undefined) := by
  refine .of_reads fun m' hm => ?_
  have hfind : find i k m' = .ok .absent m' := by
    show EStateM.Result.ok (findSlot k m'.heap (9999 + 1) i) m' = _
    rw [findSlot, hm.heap ho]
    simp only [Obj.withCurrent_isProxy, hproxy, Obj.own?_withCurrent hk, hs, Obj.withCurrent_parent,
      hparent, Bool.false_eq_true, if_false]
  show getOn h (9999 + 1) i k (.object i) m' = _
  rw [getOn, bind_ok hfind]
  rfl

/-- An object with the members that `createElement` gives to elements. -/
structure IsElementOf (o : Obj) (type props : Value) : Prop where
  kind : o.kind = .ordinary
  mark : o.own? "$$typeof" = some (.plain (.object Ref.elementMark))
  type : o.own? "type" = some (.plain type)
  props : o.own? "props" = some (.plain props)

theorem yields_isCallable (ho : m.heap[i]? = some o) (hkind : o.kind = .ordinary) :
    Yields ρ m (isCallable (.object i)) (some false) :=
  .of_reads fun m' hm => reads_isCallable_ordinary (hm.heap ho) ((Obj.withCurrent_kind ..).trans hkind) m' rfl

theorem yields_isCallable_function (ho : m.heap[i]? = some o)
    (hkind : (∃ f, o.kind = .native f) ∨ ∃ c, o.kind = .closure c) :
    Yields ρ m (isCallable (.object i)) (some true) := by
  refine .of_reads fun m' hm => ?_
  unfold isCallable
  dsimp only
  rw [bind_ok (obj_ok (hm.heap ho)), Obj.withCurrent_kind]
  obtain ⟨f, hkind⟩ | ⟨c, hkind⟩ := hkind
  all_goals
    rw [hkind]
    rfl

/-- An element is rendered by its type and properties. -/
theorem Scoped.element (ho : m.heap[i]? = some o) (he : IsElementOf o type props)
    (hs : Scoped h ρ m (.element type props) out) : Scoped h ρ m (.node (.object i)) out := by
  have hproxy := isProxy_of_ordinary he.kind
  have harray : Yields ρ m (isArray (.object i)) (some false) :=
    .of_reads fun m' hm => reads_isArray_ordinary (hm.heap ho) ((Obj.withCurrent_kind ..).trans he.kind) m' rfl
  have hcallable : Yields ρ m (isCallable (.object i)) (some false) := yields_isCallable ho he.kind
  have hmarked : Yields ρ m (Toolkit.isMarked h (.object i) Ref.elementMark) (some true) :=
    hcallable.after ((yields_member ho hproxy he.mark rfl).after (.pure true))
  refine .node (harray.after (hcallable.after (hmarked.after ?_))) hs
  exact (yields_member ho hproxy he.type rfl).after ((yields_member ho hproxy he.props rfl).after (.pure _))

/-- A list is rendered by its items. -/
theorem Scoped.array (ho : m.heap[i]? = some o) (hkind : o.kind = .array (vs.map some).toArray vs.length)
    (hlength : vs.length ≤ 100000000) (hs : Scoped h ρ m (.list vs) out) :
    Scoped h ρ m (.node (.object i)) out := by
  have hitems : Yields ρ m (View.content h (.object i)) (some (.items vs)) := by
    refine .of_reads fun m' hm => ?_
    have hlater := (Obj.withCurrent_kind o (ρ.value i)).trans hkind
    refine ((reads_isArray (hm.heap ho) hlater).bind ?_) m' rfl
    rw [if_pos rfl]
    exact (reads_listItems (hm.heap ho) hlater hlength).bind (.pure _)
  exact .items hitems hs

/-- Providers and consumers of a context are known by their marks. -/
theorem yields_kind {mark : Nat} {kind : Value → ElementKind Value} (ho : m.heap[i]? = some o)
    (hkind : o.kind = .ordinary) (hne : i ≠ Ref.fragmentMark)
    (hmark : o.own? "$$typeof" = some (.plain (.object mark)))
    (hcontext : o.own? "context" = some (.plain v))
    (hmarked : mark = Ref.providerMark ∧ kind = .provider ∨ mark = Ref.consumerMark ∧ kind = .consumer) :
    Yields ρ m (View.kind h (.object i)) (some (kind v)) := by
  have hproxy := isProxy_of_ordinary hkind
  unfold View.kind
  dsimp only
  rw [if_neg (by simpa using hne)]
  refine (yields_isCallable ho hkind).after ((yields_member ho hproxy hmark rfl).after ?_)
  obtain ⟨rfl, rfl⟩ | ⟨rfl, rfl⟩ := hmarked
  · exact (yields_member ho hproxy hcontext rfl).after (.pure _)
  · exact (yields_member ho hproxy hcontext rfl).after (.pure _)

/-- Where a run always gives a text, that is what is rendered. -/
theorem Scoped.given_text (hrun : ∀ left, Yields ρ m (run left) (some (some (.string s)))) :
    Scoped h ρ m (.given run) (some [.text s]) := by
  refine .given (fun left m' hm => ?_) fun left m' v m'' hm hok => ?_
  · have hends := hrun left m' hm
    unfold Ends at hends ⊢
    split at hends
    · exact ⟨hends.1, fun hnone => by rw [hnone] at hends; cases hends.2⟩
    · cases hends.2
    · trivial
  · have hends := hrun left m' hm
    rw [hok] at hends
    cases hends.2
    exact .text (.pure (Content.text s))

/-- Where a run throws, nothing is rendered. -/
theorem Scoped.given_none (hrun : ∀ left, Yields ρ m (run left) none) :
    Scoped h ρ m (.given run) none := by
  refine .given (fun left m' hm => ?_) fun left m' v m'' hm hok => ?_
  · have hends := hrun left m' hm
    unfold Ends at hends ⊢
    split at hends
    · cases hends.2
    · exact ⟨hends.1, rfl⟩
    · trivial
  · have hends := hrun left m' hm
    rw [hok] at hends
    cases hends.2

end

/-! ## Functions that ask for the value of a context -/

/-- The hook gives the value that a context has. -/
theorem useContext_ok (hv : m.current? c = some v) (h : Script.Host) (this : Value) (args : List Value) :
    Toolkit.body h "useContext" this (.object c :: args) m = .ok v m :=
  getName_current hv

section

variable {component : Library.Body} {i : Nat} {o : Obj}

theorem callAny_native {inner same : Script.Host} {name : String} (ho : m.heap[i]? = some o)
    (hkind : o.kind = .native ⟨.component, name⟩) (this : Value) (args : List Value) :
    Engine.callAny component inner same (.object i) this args m =
      framed args.length (component inner name this args) m := by
  unfold Engine.callAny
  dsimp only
  rw [bind_ok (obj_ok ho), hkind]
  rfl

end

/-- A function of the toolkit, at a place of a machine. -/
def IsHook (m : Machine) (f : Nat) (name : String) : Prop :=
  ∃ o, m.heap[f]? = some o ∧ o.kind = .native ⟨.component, name⟩

theorem yields_call_hook {f : Nat} {name : String} {this : Value} {args : List Value} {v? : Option Value}
    (hf : IsHook m f name) (hbody : ∀ left, Yields ρ m (Toolkit.body (View.host left) name this args) v?)
    (left : Nat) : Yields ρ m ((View.host left).call (.object f) this args) v? := by
  obtain ⟨o, ho, hkind⟩ := hf
  cases left with
  | zero => exact .limit
  | succ left =>
    have hframed := Yields.framed args.length (hbody left)
    intro m' hm
    have hnative : (View.host (left + 1)).call (.object f) this args m' =
        framed args.length (Toolkit.body (View.host left) name this args) m' :=
      callAny_native (hm.heap ho) ((Obj.withCurrent_kind ..).trans hkind) ..
    rw [hnative]
    exact hframed m' hm

theorem yields_callValue_hook {f : Nat} {name : String} {this : Value} {args : List Value} {v? : Option Value}
    (hf : IsHook m f name) (hbody : ∀ left, Yields ρ m (Toolkit.body (View.host left) name this args) v?)
    (left : Nat) : Yields ρ m (callValue (View.host left) (.object f) this args) v? := by
  obtain ⟨o, ho, hkind⟩ := hf
  refine (yields_isCallable_function ho (.inl ⟨_, hkind⟩)).after ?_
  rw [if_pos rfl]
  exact yields_call_hook ⟨o, ho, hkind⟩ hbody left

/-- A consumer whose content is the hook that gives back what it is given. -/
theorem yields_consumed {p f : Nat} {o : Obj} (ho : m.heap[p]? = some o) (hproxy : o.isProxy = false)
    (hchildren : o.own? "children" = some (.plain (.object f))) (hf : IsHook m f "useCallback") (left : Nat)
    (v : Value) : Yields ρ m (View.consumed left (.object p) v) (some (some v)) := by
  have hcall : Yields ρ m ((View.host left).call (.object f) (.object p) [v]) (some v) :=
    yields_call_hook hf (fun _ => .pure v) left
  obtain ⟨o', ho', hkind'⟩ := hf
  have hcallable : Yields ρ m (isCallable (.object f)) (some true) :=
    yields_isCallable_function ho' (.inl ⟨_, hkind'⟩)
  refine (yields_member ho hproxy hchildren rfl).after (hcallable.after ?_)
  rw [if_pos rfl]
  exact hcall.bind_pure

/-! ## Components that are functions of scripts -/

/-- Runs that have one outcome in every scope from which names stand for these values. -/
def YieldsIn {α : Type} (ρ : Surroundings) (m : Machine) (names : List (String × Value)) (r : Nat → Run α)
    (a? : Option α) : Prop :=
  ∀ m' scope, IsLater ρ m m' → (∀ p ∈ names, Holds m'.scopes scope p.1 p.2) →
    Ends m' (fun a => a? = some a) (a? = none) (r scope m')

namespace YieldsIn

variable {α β : Type} {names : List (String × Value)} {r : Nat → Run α} {f : α → Nat → Run β} {a : α}
  {a? : Option α} {b? : Option β} {x : String}

theorem of_yields {r : Run α} (hr : Yields ρ m r a?) : YieldsIn ρ m names (fun _ => r) a? :=
  fun m' _ hm _ => hr m' hm

theorem after (hr : YieldsIn ρ m names r (some a)) (hf : YieldsIn ρ m names (f a) b?) :
    YieldsIn ρ m names (fun scope => r scope >>= fun a => f a scope) b? := by
  intro m' scope hm hnames
  refine (hr m' scope hm hnames).bind (fun h => by cases h) fun a' m'' _ hk ha => ?_
  cases ha
  exact hf m'' scope (hm.trans_kept hk) fun p hp => (hnames p hp).mono hk.scopes

theorem stops (hr : YieldsIn ρ m names r none) :
    YieldsIn ρ m names (fun scope => r scope >>= fun a => f a scope) none :=
  fun m' scope hm hnames => (hr m' scope hm hnames).bind (fun _ => rfl) fun a _ _ _ ha => by cases ha

theorem name (hx : (x, v) ∈ names) : YieldsIn ρ m names (fun scope => expr h scope (.name x)) (some v) := by
  intro m' scope _ hnames
  have hread : expr h scope (.name x) m' = .ok v m' := expr_name (hnames _ hx)
  show Ends m' _ _ (expr h scope (.name x) m')
  rw [hread]
  exact ⟨Kept.refl m', rfl⟩

/-- The text of a template, with one more value in it. -/
theorem value {e : Expr} {es : List Expr} {t out : Utf16} {ts : List Utf16} {v? : Option Value}
    (he : YieldsIn ρ m names (fun scope => expr h scope e) (some (.string s)))
    (hrest : YieldsIn ρ m names (fun scope => templateText h scope es ts (out ++ s ++ t)) v?) :
    YieldsIn ρ m names (fun scope => templateText h scope (e :: es) (t :: ts) out) v? :=
  he.after (hrest : YieldsIn ρ m names (fun scope =>
    toText h (.string s) >>= fun s => templateText h scope es ts (out ++ s ++ t)) v?)

/-- A call of the hook that asks for the value of a context gives the one that is seen. -/
theorem useContext {y : String} {hook left : Nat} (hx : (x, .object hook) ∈ names) (hhook : IsHook m hook "useContext")
    (hy : (y, .object c) ∈ names) (hc : (m.current? c).isSome = true) :
    YieldsIn ρ m names (fun scope => expr (View.host left) scope (.call false (.name x) [.name y]))
      (some (ρ.value c)) := by
  obtain ⟨w, hw⟩ := Option.isSome_iff_exists.mp hc
  have hcall : Yields ρ m (callValue (View.host left) (.object hook) .undefined [.object c]) (some (ρ.value c)) :=
    yields_callValue_hook hhook (fun _ => .of_reads fun m' hm => useContext_ok (hm.current? hw) ..) left
  have hargs : YieldsIn ρ m names (fun scope => items (View.host left) scope [.name y] #[])
      (some #[some (.object c)]) := (name hy).after (of_yields (.pure _))
  have hvalue : YieldsIn ρ m names (fun scope => do
      let args ← items (View.host left) scope [.name y] #[]
      callValue (View.host left) (.object hook) .undefined (argumentsOf args)) (some (ρ.value c)) :=
    hargs.after (of_yields hcall)
  have hrun : YieldsIn ρ m names (fun scope => do
      let f ← expr (View.host left) scope (.name x)
      let args ← items (View.host left) scope [.name y] #[]
      callValue (View.host left) f .undefined (argumentsOf args)) (some (ρ.value c)) := (name hx).after hvalue
  exact hrun

/-- What a function returns is what it gives. -/
theorem returns {e : Expr} (he : YieldsIn ρ m names (fun scope => expr h scope e) (some v)) :
    YieldsIn ρ m names (fun scope => do return Engine.resultOf (← stmts h scope [.returns e])) (some v) := by
  have hstmt : YieldsIn ρ m names (fun scope => stmt h scope [] (.returns e)) (some (.returned v)) :=
    he.after (of_yields (.pure _))
  have hstmts : YieldsIn ρ m names (fun scope => stmts h scope [.returns e]) (some (.returned v)) :=
    hstmt.after (of_yields (.pure _))
  exact hstmts.after (of_yields (.pure v))

/-- What a function throws nothing in it catches. -/
theorem throws {e : Expr} (he : YieldsIn ρ m names (fun scope => expr h scope e) (some v)) :
    YieldsIn ρ m names (fun scope => do return Engine.resultOf (← stmts h scope [.throws e])) none := by
  have hstmt : YieldsIn ρ m names (fun scope => stmt h scope [] (.throws e)) none :=
    he.after fun m' _ _ _ => ⟨Kept.refl m', rfl⟩
  have hstmts : YieldsIn ρ m names (fun scope => stmts h scope [.throws e]) none := hstmt.stops
  exact hstmts.stops

end YieldsIn

/-- A function with one parameter that a script has made in a scope, and that is no class. -/
structure IsScript (o : Obj) (n : String) (body : List Stmt) (outer : Nat) : Prop where
  kind : o.kind = .closure { func := Grammar.unaryFunction n body, scope := outer }
  parent : o.parent = none
  prototype : o.own? "prototype" = none
  hoists : ∀ scope m, hoistFunctions scope body m = .ok () m

/-- **A component that is a function of a script gives what its body gives**, whatever there has
been made since: the names in it stand for what they stood for where it was made. -/
theorem IsScript.yields_run {f outer : Nat} {o : Obj} {n : String} {body : List Stmt} {v? : Option Value}
    {names : List (String × Value)} (hf : IsScript o n body outer) (ho : m.heap[f]? = some o)
    (hn : n ≠ "this" ∧ n ≠ "new.target")
    (hnames : ∀ p ∈ names, Holds m.scopes outer p.1 p.2 ∧ p.1 ∉ ["this", "new.target", n])
    (hbody : ∀ left, YieldsIn ρ m names
      (fun scope => do return Engine.resultOf (← stmts (View.host left) scope body)) v?)
    (left : Nat) (props : Value) : Yields ρ m (View.run left (.object f) props) v? := by
  have hproxy : o.isProxy = false := by rw [Obj.isProxy, hf.kind]
  have hcall : Yields ρ m ((View.host left).call (.object f) .undefined [props]) v? := by
    cases left with
    | zero => exact .limit
    | succ left =>
      have henter : Yields ρ m (do
          return Engine.resultOf (← Engine.enter (View.host left) f
            { func := Grammar.unaryFunction n body, scope := outer } (some .undefined) [props] .undefined).1)
          v? := by
        intro m' hm
        let m'' : Machine :=
          { m' with scopes := m'.scopes.push { parent := some outer, cells := unaryCells n props } }
        have hprepare : Engine.prepare (View.host left) f
            { func := Grammar.unaryFunction n body, scope := outer } (some .undefined) [props] .undefined m' =
            .ok m'.scopes.size m'' := prepare_unary hn hf.hoists
        have hkept : m'.Kept m'' := (Kept.refl m').withScopes fun i s hs => getElem?_push_of_some hs _
        have hends := hbody left m'' m'.scopes.size (hm.trans_kept hkept) fun p hp => by
          obtain ⟨hheld, hown⟩ := hnames p hp
          exact (hheld.mono hm.kept.scopes).inside hown
        refine .after hkept ?_
        rw [Engine.enter, bind_assoc, bind_ok hprepare, bind_assoc]
        exact hends
      have hframed := henter.framed 1
      intro m' hm
      rw [show (View.host (left + 1)).call (.object f) .undefined [props] m' = _ from
        call_closure Toolkit.body left (hm.heap ho) ((Obj.withCurrent_kind ..).trans hf.kind) _ _]
      exact hframed m' hm
  exact (yields_noMember ho hproxy hf.parent hf.prototype rfl).after hcall

/-- A new context has the value that it is made with. -/
theorem createContext_ok (m : Machine) (d : Value) :
    ∃ c m', Toolkit.createContext d m = .ok (.object c) m' ∧ m.Kept m' ∧ m'.current? c = some d := by
  refine ⟨m.heap.size, _, rfl, ?_, ?_⟩
  · refine (Kept.refl m).withHeap fun i o ho => ?_
    have hi := (Array.getElem?_eq_some_iff.mp ho).1
    have hne : m.heap.size ≠ i ∧ i ≠ m.heap.size ∧ i ≠ m.heap.size + 1 ∧
      i ≠ m.heap.size + 1 + 1 := by omega
    simp only [Array.getElem?_modify, Array.getElem?_push, Array.size_push, Array.size_modify, hne,
      if_false, ho]
  · have hne : m.heap.size ≠ m.heap.size + 1 ∧ m.heap.size ≠ m.heap.size + 1 + 1 := by omega
    simp only [Machine.current?, Array.getElem?_modify, Array.getElem?_push, Array.size_push,
      Array.size_modify, hne, if_false, if_true]
    exact Obj.current?_define (Obj.current?_define rfl rfl _) rfl _

/-! ## The whole -/

/-- Every context of a machine has in another machine the value that it had. -/
def SameContexts (m m' : Machine) : Prop := ∀ c v, m.current? c = some v → m'.current? c = some v

/-- **Contexts are lexically scoped by the tree of elements.** What is rendered of a tree, or that
something in it throws, is as if each consumer and each component saw the value of the nearest provider
around it; and when the rendering has ended, also with an exception, every context has the value that it
had before. The hook gives the value that is seen from where its component stands, and where nothing
provides a context that is the value which it was made with. -/
theorem renderNode_scoped (h : Script.Host) (m : Machine) :
    (∀ v out left, Scoped h (outermost m) m (.node v) out →
      (∀ rs m', (View.surface h).renderNode left v m = .ok rs m' →
        out = some rs ∧ SameContexts m m') ∧
      ∀ e m', (View.surface h).renderNode left v m = .error (.thrown e) m' →
        out = none ∧ SameContexts m m') ∧
    (∀ ρ m' c, IsLater ρ m m' → (m.current? c).isSome = true → ∀ h' this args,
      Toolkit.body h' "useContext" this (.object c :: args) m' = .ok (ρ.value c) m') ∧
    ∀ d, ∃ c m', Toolkit.createContext d m = .ok (.object c) m' ∧ m.Kept m' ∧ m'.current? c = some d ∧
      (outermost m').value c = d := by
  refine ⟨fun v out left hs => ?_, fun ρ m' c hm hc h' this args => ?_, fun d => ?_⟩
  · have hends := hs.yields left m (.outermost m)
    refine ⟨fun rs m' hrun => ?_, fun e m' hrun => ?_⟩
    · rw [Item.render, hrun] at hends
      exact ⟨hends.2, fun c v hv => hends.1.current? hv⟩
    · rw [Item.render, hrun] at hends
      exact ⟨hends.2, fun c v hv => hends.1.current? hv⟩
  · obtain ⟨w, hw⟩ := Option.isSome_iff_exists.mp hc
    exact useContext_ok (hm.current? hw) h' this args
  · obtain ⟨c, m', hmade, hkept, hcurrent⟩ := createContext_ok m d
    refine ⟨c, m', hmade, hkept, hcurrent, ?_⟩
    show (m'.current? c).getD .undefined = d
    rw [hcurrent, Option.getD_some]

/-- An object with plain members. -/
def record (members : List (Key × Value)) : Obj :=
  { parent := none, props := (members.map fun (k, v) => (k, Slot.plain v)).toArray }

/-- An element with its type and properties, by their places. -/
def elementRecord (type props : Nat) : Obj :=
  record [("$$typeof", .object Ref.elementMark), ("type", .object type), ("props", .object props)]

/-- `useContext(x)` -/
def asked (x : String) : Expr := .call false (.name "useContext") [.name x]

/-- A function of one parameter, made in the outermost scope. -/
def script (body : List Stmt) : Obj :=
  { parent := none, kind := .closure { func := Grammar.unaryFunction "props" body, scope := 0 } }

/-- A component that shows the values of two contexts. -/
def showsBoth : List Stmt := [.returns (.template "" [asked "theme", asked "language"] ["/", ""])]

/-- A component that throws the value of a context. -/
def throwsTheme : List Stmt := [.throws (asked "theme")]

/-- A machine with a theme (0) and a language (3), the component that shows both (11), the one that
throws (12), and the hook `useCallback` in a consumer of the theme (13). There are providers of the
theme around these (15), between components in a provider of the language (18), which stands in another
provider of the theme (21), and all this between two components (24). The component that throws stands
beside another one in providers of both (25). -/
def themed : Machine where
  heap := #[
    record [("currentValue", .text "light"), ("Provider", .object 1), ("Consumer", .object 2)],
    record [("$$typeof", .object Ref.providerMark), ("context", .object 0)],
    record [("$$typeof", .object Ref.consumerMark), ("context", .object 0)],
    record [("currentValue", .text "en"), ("Provider", .object 4), ("Consumer", .object 5)],
    record [("$$typeof", .object Ref.providerMark), ("context", .object 3)],
    record [("$$typeof", .object Ref.consumerMark), ("context", .object 3)],
    { parent := none, kind := .native ⟨.component, "useContext"⟩ },
    { parent := none, kind := .native ⟨.component, "useCallback"⟩ },
    script showsBoth, script throwsTheme, record [],
    elementRecord 8 10, elementRecord 9 10,
    elementRecord 2 14, record [("children", .object 7)],
    elementRecord 1 16, record [("value", .text "dim"), ("children", .object 17)],
    { parent := none, kind := .array #[some (.object 11), some (.object 13)] 2 },
    elementRecord 4 19, record [("value", .text "de"), ("children", .object 20)],
    { parent := none, kind := .array #[some (.object 11), some (.object 15), some (.object 11)] 3 },
    elementRecord 1 22, record [("value", .text "dark"), ("children", .object 23)],
    { parent := none, kind := .array #[some (.object 18), some (.object 11)] 2 },
    { parent := none, kind := .array #[some (.object 11), some (.object 21), some (.object 11)] 3 },
    elementRecord 1 26, record [("value", .text "dark"), ("children", .object 27)],
    elementRecord 4 28, record [("value", .text "de"), ("children", .object 29)],
    { parent := none, kind := .array #[some (.object 11), some (.object 12)] 2 }]
  scopes := #[
    { parent := none
      cells := #[{ name := "useContext", value := some (.object 6) },
        { name := "theme", value := some (.object 0) }, { name := "language", value := some (.object 3) }] }]
  bounds := ⟨100, 1000, 100⟩

/-- The names that stand for something around the components. -/
def themedNames : List (String × Value) :=
  [("useContext", .object 6), ("theme", .object 0), ("language", .object 3)]

theorem holds_themedNames : ∀ p ∈ themedNames,
    Holds themed.scopes 0 p.1 p.2 ∧ p.1 ∉ ["this", "new.target", "props"] := by
  intro p hp
  simp only [themedNames, List.mem_cons, List.not_mem_nil, or_false] at hp
  obtain rfl | rfl | rfl := hp
  · exact ⟨⟨0, 0, true, by decide +kernel, rfl⟩, by decide⟩
  · exact ⟨⟨0, 1, true, by decide +kernel, rfl⟩, by decide⟩
  · exact ⟨⟨0, 2, true, by decide +kernel, rfl⟩, by decide⟩

theorem isElementOf_elementRecord (type props : Nat) :
    IsElementOf (elementRecord type props) (.object type) (.object props) := ⟨rfl, rfl, rfl, rfl⟩

theorem themed_asked {x : String} (hx : (x, .object c) ∈ themedNames) (hc : (themed.current? c).isSome = true)
    (left : Nat) :
    YieldsIn ρ themed themedNames (fun scope => expr (View.host left) scope (asked x)) (some (ρ.value c)) :=
  .useContext (.head _) ⟨_, rfl, rfl⟩ hx hc

theorem themed_script {f : Nat} {body : List Stmt} (ho : themed.heap[f]? = some (script body))
    (hhoists : ∀ scope m, hoistFunctions scope body m = .ok () m) {v? : Option Value}
    (hbody : ∀ left, YieldsIn ρ themed themedNames
      (fun scope => do return Engine.resultOf (← stmts (View.host left) scope body)) v?)
    (left : Nat) (props : Value) : Yields ρ themed (View.run left (.object f) props) v? := by
  have hscript : IsScript (script body) "props" body 0 := ⟨rfl, rfl, rfl, hhoists⟩
  exact hscript.yields_run ho (by decide) holds_themedNames hbody left props

theorem themed_shows {s' t : Utf16} (hs : ρ.value 0 = .string s) (hs' : ρ.value 3 = .string s')
    (ht : "" ++ s ++ "/" ++ s' ++ "" = t) : Scoped h ρ themed (.node (.object 11)) (some [.text t]) := by
  have hkind : Yields ρ themed (View.kind h (.object 8)) (some .component) :=
    (yields_isCallable_function rfl (.inr ⟨_, rfl⟩)).after (.pure _)
  have hbody : ∀ left, YieldsIn ρ themed themedNames
      (fun scope => do return Engine.resultOf (← stmts (View.host left) scope showsBoth)) (some (.string t)) := by
    intro left
    have htheme : YieldsIn ρ themed themedNames (fun scope => expr (View.host left) scope (asked "theme"))
        (some (ρ.value 0)) := themed_asked (.tail _ (.head _)) rfl left
    have hlanguage : YieldsIn ρ themed themedNames (fun scope => expr (View.host left) scope (asked "language"))
        (some (ρ.value 3)) := themed_asked (.tail _ (.tail _ (.head _))) rfl left
    rw [hs] at htheme
    rw [hs'] at hlanguage
    rw [← ht]
    exact .returns (.value htheme (.value hlanguage (.of_yields (.pure _))))
  refine .element rfl (isElementOf_elementRecord 8 10) (.component hkind (.given_text fun left => ?_))
  rw [map_eq_pure_bind]
  exact (themed_script rfl (fun _ _ => rfl) hbody left _).bind_pure

theorem themed_consumes (hs : ρ.value 0 = .string s) :
    Scoped h ρ themed (.node (.object 13)) (some [.text s]) := by
  have hkind : Yields ρ themed (View.kind h (.object 2)) (some (.consumer (.object 0))) :=
    yields_kind rfl rfl (by decide) rfl rfl (.inr ⟨rfl, rfl⟩)
  refine .element rfl (isElementOf_elementRecord 2 14) (.consumer hkind rfl (.given_text fun left => ?_))
  rw [hs]
  exact yields_consumed rfl rfl rfl ⟨_, rfl, rfl⟩ left _

/-- A component that throws is rendered as nothing. -/
theorem themed_fails : Scoped h ρ themed (.node (.object 12)) none := by
  have hkind : Yields ρ themed (View.kind h (.object 9)) (some .component) :=
    (yields_isCallable_function rfl (.inr ⟨_, rfl⟩)).after (.pure _)
  have hrun : ∀ left props, Yields ρ themed (View.run left (.object 9) props) none :=
    themed_script rfl (fun _ _ => rfl) fun left => .throws (themed_asked (.tail _ (.head _)) rfl left)
  refine .element rfl (isElementOf_elementRecord 9 10) (.component hkind (.given_none fun left => ?_))
  rw [map_eq_pure_bind]
  exact (hrun left _).throws

theorem themed_provides {p e props children : Nat} (hp : p = 1 ∧ c = 0 ∨ p = 4 ∧ c = 3)
    (he : themed.heap[e]? = some (elementRecord p props))
    (hprops : themed.heap[props]? = some (record [("value", v), ("children", .object children)]))
    (hs : Scoped h (ρ.inside c v) themed (.node (.object children)) out) :
    Scoped h ρ themed (.node (.object e)) out := by
  have hkind : Yields ρ themed (View.kind h (.object p)) (some (.provider (.object c))) := by
    obtain ⟨rfl, rfl⟩ | ⟨rfl, rfl⟩ := hp
    · exact yields_kind rfl rfl (by decide) rfl rfl (.inl ⟨rfl, rfl⟩)
    · exact yields_kind rfl rfl (by decide) rfl rfl (.inl ⟨rfl, rfl⟩)
  have hc : (themed.current? c).isSome = true := by
    obtain ⟨-, rfl⟩ | ⟨-, rfl⟩ := hp
    · rfl
    · rfl
  exact .element he (isElementOf_elementRecord p props)
    (.provider hkind hc (yields_member hprops rfl rfl rfl) (.children (yields_member hprops rfl rfl rfl) hs))

/-- What is rendered of the providers of two contexts that stand in each other by turns. -/
def themedTexts : List Utf16 := ["light/en", "dark/de", "dim/de", "dim", "dark/de", "dark/en", "light/en"]

theorem themed_interleaved :
    Scoped h (outermost themed) themed (.node (.object 24)) (some (themedTexts.map .text)) := by
  let dark := (outermost themed).inside 0 (.text "dark")
  let german := dark.inside 3 (.text "de")
  have hdim : Scoped h german themed (.node (.object 15)) (some [.text "dim/de", .text "dim"]) :=
    themed_provides (.inl ⟨rfl, rfl⟩) rfl rfl
      (.array rfl rfl (by decide) (.cons (themed_shows rfl rfl (by decide)) (.cons (themed_consumes rfl) .nil)))
  have hgerman : Scoped h dark themed (.node (.object 18)) _ :=
    themed_provides (.inr ⟨rfl, rfl⟩) rfl rfl
      (.array rfl rfl (by decide) (.cons (themed_shows rfl rfl (t := "dark/de") (by decide))
        (.cons hdim (.cons (themed_shows rfl rfl (t := "dark/de") (by decide)) .nil))))
  have hdark : Scoped h (outermost themed) themed (.node (.object 21)) _ :=
    themed_provides (.inl ⟨rfl, rfl⟩) rfl rfl
      (.array rfl rfl (by decide) (.cons hgerman (.cons (themed_shows rfl rfl (t := "dark/en") (by decide)) .nil)))
  have hlight : Scoped h (outermost themed) themed (.node (.object 11)) (some [.text "light/en"]) :=
    themed_shows rfl rfl (by decide)
  exact .array rfl rfl (by decide) (.cons hlight (.cons hdark (.cons hlight .nil)))

theorem themed_throws : Scoped h (outermost themed) themed (.node (.object 25)) none := by
  let dark := (outermost themed).inside 0 (.text "dark")
  have hitems : Scoped h (dark.inside 3 (.text "de")) themed (.list [.object 11, .object 12]) none :=
    .cons (themed_shows rfl rfl (t := "dark/de") (by decide)) (.stop themed_fails)
  have hdark : Scoped h dark themed (.node (.object 27)) none :=
    themed_provides (.inr ⟨rfl, rfl⟩) rfl rfl (.array rfl rfl (by decide) hitems)
  exact themed_provides (.inl ⟨rfl, rfl⟩) rfl rfl hdark

theorem renderNode_scoped_themed :
    (∃ m', (View.surface (View.host 30)).renderNode 30 (.object 24) themed =
        .ok (themedTexts.map .text) m' ∧
      SameContexts themed m') ∧
    (∃ e m', (View.surface (View.host 30)).renderNode 30 (.object 25) themed = .error (.thrown e) m' ∧
      SameContexts themed m') ∧
    Toolkit.body (View.host 30) "useContext" .undefined [.object 0] themed = .ok (.text "light") themed := by
  obtain ⟨hall, hhook, -⟩ := renderNode_scoped (View.host 30) themed
  have hruns : ((View.surface (View.host 30)).renderNode 30 (.object 24) |>.run' themed).isSome = true := by
    decide +kernel
  have hstops : ((orCatch ((View.surface (View.host 30)).renderNode 30 (.object 25) >>= fun _ => pure false)
      fun _ => pure true).run' themed) = some true := by decide +kernel
  refine ⟨?_, ?_, hhook (outermost themed) themed 0 (.outermost themed) rfl _ _ []⟩
  · obtain ⟨hok, -⟩ := hall _ _ 30 themed_interleaved
    unfold EStateM.run' EStateM.run at hruns
    cases hrun : (View.surface (View.host 30)).renderNode 30 (.object 24) themed with
    | ok rs m' =>
      obtain ⟨hrs, hsame⟩ := hok rs m' hrun
      exact ⟨m', by rw [Option.some.inj hrs], hsame⟩
    | error e m' =>
      rw [hrun] at hruns
      cases hruns
  · obtain ⟨-, hthrown⟩ := hall _ _ 30 themed_throws
    unfold EStateM.run' EStateM.run orCatch at hstops
    cases hrun : (View.surface (View.host 30)).renderNode 30 (.object 25) themed with
    | ok rs m' =>
      rw [bind_ok hrun] at hstops
      cases hstops
    | error e m' =>
      rw [bind_error hrun] at hstops
      cases e with
      | thrown e => exact ⟨e, m', rfl, (hthrown e m' hrun).2⟩
      | _ => cases hstops

end Component
end Restyle
