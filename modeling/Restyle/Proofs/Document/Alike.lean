import Restyle.Proofs.Document.Tree
import Restyle.Proofs.Document.InlineStyle
import Restyle.Proofs.Markup.Tree
import Restyle.Proofs.Overrides.Table

/-!
# Restyle.Proofs.Document.Alike

Documents that are the same up to the order of declarations in inline styles. Edits that are written
into a document with earlier edits in it make it `Alike` the document in which the later ones alone
were written, when these have a value wherever the earlier ones have one (`Alike.applyOverrides`).
-/

namespace Restyle

/-! ## Elements and nodes -/

structure Element.Alike (e e' : Element) : Prop where
  tag : e'.tag = e.tag
  attributes : e'.attributes = e.attributes
  style : e.style.declarations.Perm e'.style.declarations

inductive NodeKind.Alike : NodeKind → NodeKind → Prop where
  | element {e e' : Element} : e.Alike e' → Alike (.element e) (.element e')
  | text (content : String) : Alike (.text content) (.text content)

/-- The same links, and the same content up to the order of declarations. -/
structure Node.Alike (n n' : Node) : Prop where
  parent : n'.parent = n.parent
  children : n'.children = n.children
  kind : n.kind.Alike n'.kind

namespace Node

variable {n n' n'' : Node} {styles styles' : Styles}

theorem Alike.refl (n : Node) : n.Alike n := by
  obtain ⟨parent, children, kind⟩ := n
  refine ⟨rfl, rfl, ?_⟩
  cases kind with
  | element e => exact .element ⟨rfl, rfl, .refl _⟩
  | text content => exact .text content

theorem Alike.symm (h : n.Alike n') : n'.Alike n := by
  obtain ⟨parent, children, kind⟩ := n
  obtain ⟨parent', children', kind'⟩ := n'
  refine ⟨h.parent.symm, h.children.symm, ?_⟩
  cases h.kind with
  | element he => exact .element ⟨he.tag.symm, he.attributes.symm, he.style.symm⟩
  | text content => exact .text content

theorem Alike.trans (h : n.Alike n') (h' : n'.Alike n'') : n.Alike n'' := by
  obtain ⟨parent, children, kind⟩ := n
  obtain ⟨parent', children', kind'⟩ := n'
  obtain ⟨parent'', children'', kind''⟩ := n''
  refine ⟨h'.parent.trans h.parent, h'.children.trans h.children, ?_⟩
  cases h.kind with
  | element he =>
    cases h'.kind with
    | element he' =>
      exact .element ⟨he'.tag.trans he.tag, he'.attributes.trans he.attributes,
        he.style.trans he'.style⟩
  | text content =>
    cases h'.kind
    exact .text content

/-- The inline style is tidy, if the node is an element. -/
def Tidy (n : Node) : Prop := ∀ e, n.kind = .element e → e.style.Tidy

theorem Tidy.of_alike (hn : n.Tidy) (h : n.Alike n') : n'.Tidy := by
  obtain ⟨parent, children, kind⟩ := n
  obtain ⟨parent', children', kind'⟩ := n'
  intro e he
  cases he
  cases h.kind with
  | element h => exact (hn _ rfl).of_perm h.style

/-- Writes recorded values into the inline style, if the node is an element. -/
def write (styles : Styles) (n : Node) : Node :=
  match n with
  | { kind := .element e, .. } => { n with kind := .element { e with style := e.style.write styles } }
  | _ => n

@[simp] theorem write_empty (n : Node) : n.write {} = n := by
  obtain ⟨parent, children, kind⟩ := n
  cases kind <;> rfl

theorem Tidy.write (hn : n.Tidy) (styles : Styles) : (n.write styles).Tidy := by
  obtain ⟨parent, children, kind⟩ := n
  intro e he
  cases kind with
  | element e => cases he; exact (hn e rfl).write styles
  | text content => cases he

theorem Alike.write (hn : n.Tidy) (h : n.Alike n') (styles : Styles) :
    (n.write styles).Alike (n'.write styles) := by
  have hn' := hn.of_alike h
  obtain ⟨parent, children, kind⟩ := n
  obtain ⟨parent', children', kind'⟩ := n'
  cases h.kind with
  | element he =>
    refine ⟨h.parent, h.children, .element ⟨he.tag, he.attributes, ?_⟩⟩
    exact (hn _ rfl).write_perm (hn' _ rfl) styles he.style
  | text content => exact h

theorem Tidy.write_write (hn : n.Tidy)
    (h : ∀ p, (styles.get? p).isSome = true → (styles'.get? p).isSome = true) :
    ((n.write styles).write styles').Alike (n.write styles') := by
  obtain ⟨parent, children, kind⟩ := n
  cases kind with
  | element e => exact ⟨rfl, rfl, .element ⟨rfl, rfl, (hn e rfl).write_write h⟩⟩
  | text content => exact .refl _

end Node

namespace Document

variable {d d' d'' : Document} {h r p c x : Handle} {o o' : Overrides}

/-! ## Documents -/

/-- The same nodes up to the order of declarations in inline styles. -/
def Alike (d d' : Document) : Prop := ∀ h, Option.Rel Node.Alike (d.node? h) (d'.node? h)

theorem rel_refl (a : Option Node) : Option.Rel Node.Alike a a := by
  cases a with
  | none => exact .none
  | some n => exact .some (.refl n)

theorem rel_symm {a b : Option Node} (h : Option.Rel Node.Alike a b) :
    Option.Rel Node.Alike b a := by
  cases h with
  | none => exact .none
  | some h => exact .some h.symm

theorem rel_trans {a b c : Option Node} (h : Option.Rel Node.Alike a b)
    (h' : Option.Rel Node.Alike b c) : Option.Rel Node.Alike a c := by
  cases h with
  | none => exact h'
  | some h =>
    cases h' with
    | some h' => exact .some (h.trans h')

theorem Alike.refl (d : Document) : Alike d d := fun x => rel_refl (d.node? x)

theorem Alike.symm (h : Alike d d') : Alike d' d := fun x => rel_symm (h x)

theorem Alike.trans (h : Alike d d') (h' : Alike d' d'') : Alike d d'' :=
  fun x => rel_trans (h x) (h' x)

theorem Alike.sameShape (h : Alike d d') : SameShape d d' := by
  have hsize : ∀ x, x < d'.size ↔ x < d.size := by
    intro x
    rw [lt_size_iff, lt_size_iff]
    have hx := h x
    generalize d.node? x = a, d'.node? x = b at hx
    cases hx <;> simp
  refine ⟨Nat.le_antisymm ?_ ?_, fun x => ?_, fun x => ?_, fun x => ?_⟩
  · exact Nat.le_of_not_lt fun hlt => Nat.lt_irrefl _ ((hsize _).mp hlt)
  · exact Nat.le_of_not_lt fun hlt => Nat.lt_irrefl _ ((hsize _).mpr hlt)
  all_goals
    have hx := h x
    simp only [Document.parent?, Document.children, tag?, element?]
    generalize d.node? x = a, d'.node? x = b at hx
  · cases hx with
    | none => rfl
    | some hn => exact hn.parent
  · cases hx with
    | none => rfl
    | some hn => exact hn.children
  · cases hx with
    | none => rfl
    | @some n n' hn =>
      obtain ⟨parent, children, kind⟩ := n
      obtain ⟨parent', children', kind'⟩ := n'
      cases hn.kind with
      | element he => exact congrArg some he.tag
      | text content => rfl

/-! ## Tidy documents -/

/-- All inline styles are tidy. -/
def IsTidy (d : Document) : Prop := ∀ x n, d.node? x = some n → n.Tidy

theorem IsTidy.of_alike (hd : d.IsTidy) (h : Alike d d') : d'.IsTidy := by
  intro x n' hn'
  have hx := h x
  rw [hn'] at hx
  cases hn : d.node? x with
  | none => rw [hn] at hx; cases hx
  | some n =>
    rw [hn, Option.rel_some_some] at hx
    exact (hd x n hn).of_alike hx

theorem IsTidy.withRoot (tag cls : String) : (withRoot tag cls).IsTidy := by
  intro x n hn e he
  unfold Document.withRoot node? at hn
  rcases x with _ | x
  · cases hn
    dsimp only at he
    split at he <;> (cases he; exact .empty)
  · simp at hn

theorem IsTidy.create {kind : NodeKind} (hd : d.IsTidy)
    (hk : ∀ e, kind = .element e → e.style.Tidy) : (d.create kind).1.IsTidy := by
  intro x n hn
  rw [node?_create] at hn
  split at hn
  · cases hn; exact hk
  · exact hd x n hn

theorem IsTidy.append (hd : d.IsTidy) (p c : Handle) : (d.append p c).IsTidy := by
  by_cases ha : d.canAppend p c = true
  · intro x n hn e he
    rw [node?_append ha] at hn
    obtain ⟨n', hn', rfl⟩ := Option.map_eq_some_iff.mp hn
    exact hd x n' hn' e he
  · rw [append_of_not ha]; exact hd

/-- The style of an element that a tag describes was read from declarations. -/
theorem tidy_element (t : Markup.Tag) : t.element.style.Tidy := by
  unfold Markup.Tag.element
  refine List.foldlRecOn (motive := fun e : Element => e.style.Tidy) _ _ .empty ?_
  rintro e he ⟨name, value⟩ -
  dsimp only
  split
  · exact .ofDeclarations _
  · exact he

theorem IsTidy.readMarkup (hd : d.IsTidy) (parent : Handle) (markup : String) :
    (d.readMarkup parent markup).IsTidy := by
  have haddText : ∀ {d : Document}, d.IsTidy → ∀ p content, (Markup.addText d p content).IsTidy := by
    intro d hd p content
    unfold Markup.addText
    split
    · exact hd
    · exact (hd.create fun _ h => by cases h).append _ _
  have haddTag : ∀ {d : Document}, d.IsTidy → ∀ (p : Handle) (t : Markup.Tag),
      ((d.create (.element t.element)).1.append p (d.create (.element t.element)).2).IsTidy := by
    intro d hd p t
    exact (hd.create fun _ h => by cases h; exact tidy_element t).append _ _
  unfold Document.readMarkup
  generalize ([] : List Handle) = opened
  fun_induction Markup.readInto parent d opened markup.toList with
  | case1 => exact hd
  | case2 d opened c cs current content rest _ ih => exact ih (haddText hd _ _)
  | case3 d opened c cs rest _ ih => exact ih hd
  | case4 d opened c cs t rest _ _ ih => exact ih hd
  | case5 d opened c cs current t rest _ _ d' e heq d'' _ ih =>
    cases heq
    exact ih (haddTag hd _ _)
  | case6 d opened c cs current t rest _ _ d' e heq d'' _ _ content after _ ih =>
    cases heq
    exact ih (haddText (haddTag hd _ _) _ _)
  | case7 d opened c cs current t rest _ _ d' e heq d'' _ _ ih =>
    cases heq
    exact ih (haddTag hd _ _)

theorem isTidy_ofMarkup (markup cls : String) : (ofMarkup markup cls).IsTidy :=
  (IsTidy.withRoot "div" cls).readMarkup 0 markup

/-! ## Paths and descendants -/

theorem SameShape.descendants (hs : SameShape d d') (h : Handle) :
    d'.descendants h = d.descendants h := by
  unfold Document.descendants
  rw [hs.size]
  induction d.size generalizing h with
  | zero => rfl
  | succ depth ih => simp only [descendantsWithin, hs.elementChildren, ih]

theorem SameShape.identify (hs : SameShape d d') (h r : Handle) :
    d'.identify h r = d.identify h r := by
  have hclimb : ∀ fuel h below, d'.climb (· == r) fuel h below = d.climb (· == r) fuel h below := by
    intro fuel
    induction fuel with
    | zero => intro h below; rfl
    | succ fuel ih =>
      intro h below
      have hindex : ∀ p tag, d'.indexAmong p tag h = d.indexAmong p tag h := by
        intro p tag
        unfold indexAmong
        rw [hs.elementChildren, funext hs.tag?]
      simp only [climb, hs.parent?, hs.tag?, hindex, ih]
  unfold Document.identify
  rw [hs.size, hclimb]

/-! ## Writing edits -/

theorem node?_applyStyles (d : Document) (h : Handle) (styles : Styles) (x : Handle) :
    (d.applyStyles h styles).node? x =
      if h = x then (d.node? x).map (Node.write styles) else d.node? x := by
  unfold applyStyles modifyElement node?
  rw [Array.getElem?_modify]
  rfl

theorem IsTidy.applyStyles (hd : d.IsTidy) (h : Handle) (styles : Styles) :
    (d.applyStyles h styles).IsTidy := by
  intro x n hn
  rw [node?_applyStyles] at hn
  split at hn
  · obtain ⟨n', hn', rfl⟩ := Option.map_eq_some_iff.mp hn
    exact (hd x n' hn').write styles
  · exact hd x n hn

/-- Writes the edits of one element. -/
def applyAt (r : Handle) (o : Overrides) (q : Document × Nat) (h : Handle) : Document × Nat :=
  match o.get? (q.1.identify h r) with
  | some styles => (q.1.applyStyles h styles, q.2 + 1)
  | none => q

@[simp] theorem map_write_empty (a : Option Node) : a.map (Node.write {}) = a := by
  cases a <;> simp

theorem node?_applyAt (r : Handle) (o : Overrides) (q : Document × Nat) (h x : Handle) :
    (applyAt r o q h).1.node? x =
      if h = x then (q.1.node? x).map (Node.write ((o.get? (q.1.identify h r)).getD {}))
      else q.1.node? x := by
  unfold applyAt
  split
  · rename_i styles hst
    rw [hst, node?_applyStyles]
    rfl
  · rename_i hst
    rw [hst]
    simp

theorem sameShape_applyAt (r : Handle) (o : Overrides) (q : Document × Nat) (h : Handle) :
    SameShape q.1 (applyAt r o q h).1 := by
  unfold applyAt
  split
  · exact sameShape_applyStyles q.1 h _
  · exact .refl q.1

theorem IsTidy.applyAt {q : Document × Nat} (hq : q.1.IsTidy) (r : Handle) (o : Overrides)
    (h : Handle) : (applyAt r o q h).1.IsTidy := by
  unfold Document.applyAt
  split
  · exact hq.applyStyles h _
  · exact hq

/-- What a table of edits has for an element below a root. -/
def editsAt (d : Document) (r : Handle) (o : Overrides) (xs : List Handle) (x : Handle) : Styles :=
  if x ∈ xs then (o.get? (d.identify x r)).getD {} else {}

theorem rel_map_write {a b : Option Node} (ha : ∀ n, a = some n → n.Tidy)
    (h : Option.Rel Node.Alike a b) (styles : Styles) :
    Option.Rel Node.Alike (a.map (Node.write styles)) (b.map (Node.write styles)) := by
  cases h with
  | none => exact .none
  | some h => exact .some (h.write (ha _ rfl) styles)

theorem rel_write_write {a : Option Node} {styles styles' : Styles} (ha : ∀ n, a = some n → n.Tidy)
    (h : ∀ p, (styles.get? p).isSome = true → (styles'.get? p).isSome = true) :
    Option.Rel Node.Alike ((a.map (Node.write styles)).map (Node.write styles'))
      (a.map (Node.write styles')) := by
  cases a with
  | none => exact .none
  | some n => exact .some ((ha n rfl).write_write h)

/-- Each listed element gets what the table has for it. One that is listed again gets nothing
new. -/
theorem IsTidy.rel_foldl {q : Document × Nat} (hq : q.1.IsTidy) (hs : SameShape d q.1)
    (r : Handle) (o : Overrides) (xs : List Handle) (x : Handle) :
    Option.Rel Node.Alike ((xs.foldl (Document.applyAt r o) q).1.node? x)
      ((q.1.node? x).map (Node.write (d.editsAt r o xs x))) := by
  induction xs generalizing q with
  | nil =>
    have hnone : d.editsAt r o [] x = {} := rfl
    rw [hnone, map_write_empty]
    exact rel_refl (q.1.node? x)
  | cons h xs ih =>
    rw [List.foldl_cons]
    refine rel_trans (ih (hq.applyAt r o h) (hs.trans (sameShape_applyAt r o q h))) ?_
    rw [node?_applyAt, hs.identify]
    by_cases hx : h = x
    · -- the rest of the list may have the element once more
      subst hx
      rw [if_pos rfl, show d.editsAt r o (h :: xs) h = _ from if_pos (List.mem_cons_self ..)]
      by_cases hmem : h ∈ xs
      · rw [show d.editsAt r o xs h = _ from if_pos hmem]
        exact rel_write_write (hq h) fun _ hp => hp
      · rw [show d.editsAt r o xs h = _ from if_neg hmem, map_write_empty]
        exact rel_refl _
    · have hmem : x ∈ h :: xs ↔ x ∈ xs := by simp [Ne.symm hx]
      rw [if_neg hx]
      simp only [editsAt, hmem]
      exact rel_refl _

theorem IsTidy.rel_applyOverrides (hd : d.IsTidy) (r : Handle) (o : Overrides) (x : Handle) :
    Option.Rel Node.Alike ((d.applyOverrides r o).1.node? x)
      ((d.node? x).map (Node.write (d.editsAt r o (d.descendants r) x))) :=
  hd.rel_foldl (q := (d, 0)) (.refl d) r o (d.descendants r) x

theorem IsTidy.applyOverrides (hd : d.IsTidy) (r : Handle) (o : Overrides) :
    (d.applyOverrides r o).1.IsTidy :=
  List.foldlRecOn (motive := fun q : Document × Nat => q.1.IsTidy) _ (Document.applyAt r o) hd
    fun _ hq h _ => hq.applyAt r o h

theorem editsAt_of_sameShape (hs : SameShape d d') (r : Handle) (o : Overrides) (xs : List Handle)
    (x : Handle) : d'.editsAt r o xs x = d.editsAt r o xs x := by
  unfold editsAt
  rw [hs.identify]

/-- A table with a value wherever another has one, has one for each element too. -/
theorem isSome_editsAt {xs : List Handle} {p : Property}
    (hgrow : ∀ path p, (o.recorded path p).isSome = true → (o'.recorded path p).isSome = true)
    (h : ((d.editsAt r o xs x).get? p).isSome = true) :
    ((d.editsAt r o' xs x).get? p).isSome = true := by
  have hget : ∀ o : Overrides, ((o.get? (d.identify x r)).getD {}).get? p =
      o.recorded (d.identify x r) p := by
    intro o
    unfold Overrides.recorded
    cases o.get? (d.identify x r) with
    | none => cases p <;> rfl
    | some styles => rfl
  unfold editsAt at h ⊢
  split
  · rename_i hmem
    rw [if_pos hmem, hget] at h
    rw [hget]
    exact hgrow _ _ h
  · rename_i hmem
    rwa [if_neg hmem] at h

/-- **Later edits over earlier ones.** Writing a table of edits into a document that has the edits
of an earlier table in it makes it the same, up to the order of declarations, as writing it into the
document without any. -/
theorem Alike.applyOverrides (hd : d.IsTidy) (h : Alike (d.applyOverrides r o).1 d')
    (hgrow : ∀ path p, (o.recorded path p).isSome = true → (o'.recorded path p).isSome = true) :
    Alike (d.applyOverrides r o').1 (d'.applyOverrides r o').1 := by
  intro x
  have hs : SameShape d d' := (sameShape_applyOverrides d r o).trans h.sameShape
  have hd' : d'.IsTidy := (hd.applyOverrides r o).of_alike h
  have hnew := hd.rel_applyOverrides r o' x
  have hover := hd'.rel_applyOverrides r o' x
  rw [editsAt_of_sameShape hs, hs.descendants] at hover
  -- the document at hand is the plain one with the earlier edits, which the later ones replace
  have hbefore := rel_trans (rel_symm (h x)) (hd.rel_applyOverrides r o x)
  have hboth := rel_trans hover (rel_map_write (hd' x) hbefore _)
  exact rel_symm (rel_trans (rel_trans hboth (rel_write_write (hd x) fun _ =>
    isSome_editsAt hgrow)) (rel_symm hnew))

end Document
end Restyle
