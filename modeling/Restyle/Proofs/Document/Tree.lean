import Restyle.Document.Locate
import Restyle.Resolve

/-!
# Restyle.Proofs.Document.Tree

When the links of a document make it a tree, and what keeps them so.

* `Linked`: child lists and parent links agree. Attaching a node keeps this, whatever the handles
  (`Linked.append`).
* `IsTree`: moreover every node but the root has an earlier parent, so that climbing ends at the
  root. Adding a new node below an element keeps this (`IsTree.add`).
* `SameShape`: two documents with the same links and tags.

Edits written into the inline styles of a document keep its shape.

Climbing and descending undo each other: the path that `identify` finds for an element below a
root leads from that root back to the element (`locate_identify`). In a tree every element is
below the root (`IsTree.below`).
-/

namespace Restyle
namespace Document

variable {d : Document} {h p c : Handle} {kind : NodeKind}

/-! ## What creating, attaching and changing do to the nodes -/

theorem lt_size_iff : h < d.size ↔ (d.node? h).isSome = true := by
  simp [size, node?]

theorem lt_size_of_isElement (he : d.isElement h = true) : h < d.size := by
  rw [lt_size_iff]
  unfold isElement element? at he
  split at he
  · rename_i hn; rw [hn]; rfl
  · cases he

theorem isSome_tag? : (d.tag? h).isSome = d.isElement h := by
  simp [tag?, isElement]

@[simp] theorem size_create : (d.create kind).1.size = d.size + 1 := by
  simp [create, size]

theorem node?_create :
    (d.create kind).1.node? h = if h = d.size then some { kind } else d.node? h :=
  Array.getElem?_push

theorem node?_size : d.node? d.size = none := by
  simp [node?, size]

@[simp] theorem parent?_create : (d.create kind).1.parent? h = d.parent? h := by
  unfold parent?
  rw [node?_create]
  by_cases hh : h = d.size
  · rw [if_pos hh, hh, node?_size]; rfl
  · rw [if_neg hh]

@[simp] theorem children_create : (d.create kind).1.children h = d.children h := by
  unfold children
  rw [node?_create]
  by_cases hh : h = d.size
  · rw [if_pos hh, hh, node?_size]
  · rw [if_neg hh]

theorem isElement_create (he : d.isElement h = true) :
    (d.create kind).1.isElement h = true := by
  have hlt := lt_size_of_isElement he
  simpa [isElement, element?, node?_create, Nat.ne_of_lt hlt] using he

theorem isElement_create_new (e : Element) :
    (d.create (.element e)).1.isElement d.size = true := by
  simp [isElement, element?, node?_create]

/-- What it takes to be attached. -/
theorem canAppend_iff : d.canAppend p c = true ↔
    p ≠ c ∧ d.isElement p = true ∧ c ≠ d.root ∧ c < d.size ∧ d.parent? c = none := by
  rw [lt_size_iff]
  unfold canAppend parent?
  cases d.node? c <;> simp [and_assoc]

/-- A node that is attached gets its parent, the parent gets one child more. -/
theorem node?_append (ha : d.canAppend p c = true) :
    (d.append p c).node? h = (d.node? h).map fun n =>
      { n with parent := if h = c then some p else n.parent
               children := if h = p then n.children ++ [c] else n.children } := by
  have hne : p ≠ c := (canAppend_iff.mp ha).1
  simp only [append, append?, ha, if_true, Option.getD_some, node?, Array.getElem?_modify]
  by_cases hc : h = c
  · simp [hc, hne, Ne.symm hne]
  · by_cases hp : h = p
    · simp [hp, hne, Ne.symm hne]
    · simp [hc, hp, Ne.symm hc, Ne.symm hp]

theorem append_of_not (ha : ¬ d.canAppend p c = true) : d.append p c = d := by
  simp [append, append?, ha]

@[simp] theorem size_append : (d.append p c).size = d.size := by
  unfold append append?
  split <;> simp [size]

theorem parent?_append (ha : d.canAppend p c = true) :
    (d.append p c).parent? h = if h = c then some p else d.parent? h := by
  unfold parent?
  rw [node?_append ha]
  by_cases hh : h = c
  · obtain ⟨n, hn⟩ := Option.isSome_iff_exists.mp (lt_size_iff.mp (canAppend_iff.mp ha).2.2.2.1)
    rw [if_pos hh, hh, hn]
    simp
  · simp only [if_neg hh]
    cases d.node? h <;> rfl

theorem children_append (ha : d.canAppend p c = true) :
    (d.append p c).children h = if h = p then d.children p ++ [c] else d.children h := by
  unfold children
  rw [node?_append ha]
  by_cases hh : h = p
  · have hp := lt_size_iff.mp (lt_size_of_isElement (canAppend_iff.mp ha).2.1)
    obtain ⟨n, hn⟩ := Option.isSome_iff_exists.mp hp
    rw [if_pos hh, hh, hn]
    simp
  · simp only [if_neg hh]
    cases d.node? h <;> rfl

@[simp] theorem element?_append : (d.append p c).element? h = d.element? h := by
  by_cases ha : d.canAppend p c = true
  · unfold element?
    rw [node?_append ha]
    cases hn : d.node? h with
    | none => rfl
    | some n => obtain ⟨_, _, kind⟩ := n; cases kind <;> rfl
  · rw [append_of_not ha]

@[simp] theorem isElement_append : (d.append p c).isElement h = d.isElement h := by
  simp [isElement]

/-- A changed document has every node as before, or with the change made to its element. -/
theorem node?_modifyElement (d : Document) (h x : Handle) (f : Element → Element) :
    (d.modifyElement h f).node? x = d.node? x ∨
      ∃ (n : Node) (e : Element), d.node? x = some { n with kind := .element e } ∧
        (d.modifyElement h f).node? x = some { n with kind := .element (f e) } := by
  simp only [Document.modifyElement, node?, Array.getElem?_modify]
  by_cases hx : h = x
  · rw [if_pos hx]
    cases hn : d.nodes[x]? with
    | none => exact .inl rfl
    | some n =>
      obtain ⟨parent, children, kind⟩ := n
      cases kind with
      | element e => exact .inr ⟨⟨parent, children, .element e⟩, e, rfl, rfl⟩
      | text content => exact .inl rfl
  · exact .inl (if_neg hx)

/-! ## Linked documents -/

/-- Child lists and parent links agree. -/
structure Linked (d : Document) : Prop where
  isElement_root : d.isElement d.root = true
  parent?_root : d.parent? d.root = none
  mem_children_iff : ∀ {p c : Handle}, c ∈ d.children p ↔ d.parent? c = some p
  children_nodup : ∀ p : Handle, (d.children p).Nodup
  isElement_of_parent? : ∀ {p c : Handle}, d.parent? c = some p → d.isElement p = true

theorem Linked.withRoot (tag cls : String) : (withRoot tag cls).Linked := by
  have hnode : ∀ h, ∀ n, (Document.withRoot tag cls).node? h = some n →
      n.parent = none ∧ n.children = [] := by
    intro h n hn
    unfold Document.withRoot node? at hn
    rcases h with _ | h
    · cases hn; exact ⟨rfl, rfl⟩
    · simp at hn
  have hparent : ∀ h, (Document.withRoot tag cls).parent? h = none := by
    intro h
    cases hn : (Document.withRoot tag cls).node? h with
    | none => simp [parent?, hn]
    | some n => simp [parent?, hn, hnode h n hn]
  have hchildren : ∀ h, (Document.withRoot tag cls).children h = [] := by
    intro h
    cases hn : (Document.withRoot tag cls).node? h with
    | none => simp [children, hn]
    | some n => simp [children, hn, hnode h n hn]
  refine ⟨rfl, hparent _, ?_, fun p => by rw [hchildren]; exact List.nodup_nil, ?_⟩
  · intro p c; simp [hchildren, hparent]
  · intro p c hc; rw [hparent] at hc; cases hc

theorem Linked.create (hl : d.Linked) (kind : NodeKind) : (d.create kind).1.Linked where
  isElement_root := isElement_create hl.isElement_root
  parent?_root := by rw [parent?_create]; exact hl.parent?_root
  mem_children_iff := by
    intro p c
    rw [children_create, parent?_create]
    exact hl.mem_children_iff
  children_nodup p := by rw [children_create]; exact hl.children_nodup p
  isElement_of_parent? := by
    intro p c hc
    rw [parent?_create] at hc
    exact isElement_create (hl.isElement_of_parent? hc)

theorem Linked.append (hl : d.Linked) (p c : Handle) : (d.append p c).Linked := by
  by_cases ha : d.canAppend p c = true
  · obtain ⟨-, hp, hroot, -, hfree⟩ := canAppend_iff.mp ha
    refine ⟨?_, ?_, ?_, ?_, ?_⟩
    · rw [isElement_append]; exact hl.isElement_root
    · rw [parent?_append ha]
      exact (if_neg (Ne.symm hroot)).trans hl.parent?_root
    · intro q x
      rw [children_append ha, parent?_append ha]
      by_cases hx : x = c
      · subst hx
        have hmem : x ∉ d.children q := by rw [hl.mem_children_iff, hfree]; simp
        by_cases hq : q = p
        · simp [hq]
        · simp [hq, hmem, Ne.symm hq]
      · by_cases hq : q = p
        · simp [hq, hx, hl.mem_children_iff]
        · simp [hq, hx, hl.mem_children_iff]
    · intro q
      rw [children_append ha]
      split
      · refine List.nodup_append.mpr ⟨hl.children_nodup p, by simp, ?_⟩
        intro x hx y hy heq
        rw [List.mem_singleton.mp hy] at heq
        rw [heq, hl.mem_children_iff, hfree] at hx
        cases hx
      · exact hl.children_nodup q
    · intro q x hx
      rw [isElement_append]
      rw [parent?_append ha] at hx
      split at hx
      · cases hx; exact hp
      · exact hl.isElement_of_parent? hx
  · rw [append_of_not ha]; exact hl

/-! ## Trees -/

/-- A linked document in which every node but the root has an earlier node for a parent. -/
structure IsTree (d : Document) : Prop extends Linked d where
  exists_parent : ∀ {h : Handle}, h ≠ d.root → h < d.size → ∃ p, d.parent? h = some p ∧ p < h

theorem IsTree.withRoot (tag cls : String) : (withRoot tag cls).IsTree where
  toLinked := .withRoot tag cls
  exists_parent := by
    intro h hne hlt
    exact absurd (Nat.lt_one_iff.mp hlt) hne

/-- A new node below an element. -/
theorem IsTree.add (ht : d.IsTree) (hp : d.isElement p = true) (kind : NodeKind) :
    ((d.create kind).1.append p d.size).IsTree where
  toLinked := (ht.create kind).append _ _
  exists_parent := by
    intro h hne hlt
    rw [size_append, size_create] at hlt
    have hps := lt_size_of_isElement hp
    have hroot := lt_size_of_isElement ht.isElement_root
    have hnew : d.parent? d.size = none := by rw [parent?, node?_size]; rfl
    have ha : (d.create kind).1.canAppend p d.size = true := by
      refine canAppend_iff.mpr ⟨Nat.ne_of_lt hps, isElement_create hp, Nat.ne_of_gt hroot, ?_, ?_⟩
      · rw [size_create]; exact Nat.lt_succ_self _
      · rw [parent?_create]; exact hnew
    rw [parent?_append ha, parent?_create]
    by_cases hh : h = d.size
    · exact ⟨p, if_pos hh, hh ▸ hps⟩
    · rw [if_neg hh]
      exact ht.exists_parent hne (Nat.lt_of_le_of_ne (Nat.le_of_lt_succ hlt) hh)

/-! ## Documents of the same shape -/

/-- The same links and the same tags. -/
structure SameShape (d d' : Document) : Prop where
  size : d'.size = d.size
  parent? : ∀ h, d'.parent? h = d.parent? h
  children : ∀ h, d'.children h = d.children h
  tag? : ∀ h, d'.tag? h = d.tag? h

namespace SameShape

variable {d' d'' : Document}

theorem refl (d : Document) : SameShape d d := ⟨rfl, fun _ => rfl, fun _ => rfl, fun _ => rfl⟩

theorem trans (h₁ : SameShape d d') (h₂ : SameShape d' d'') : SameShape d d'' where
  size := h₂.size.trans h₁.size
  parent? h := (h₂.parent? h).trans (h₁.parent? h)
  children h := (h₂.children h).trans (h₁.children h)
  tag? h := (h₂.tag? h).trans (h₁.tag? h)

theorem isElement (hs : SameShape d d') (h : Handle) : d'.isElement h = d.isElement h := by
  rw [← isSome_tag?, ← isSome_tag?, hs.tag?]

theorem elementChildren (hs : SameShape d d') (h : Handle) :
    d'.elementChildren h = d.elementChildren h := by
  unfold Document.elementChildren
  rw [hs.children, funext hs.isElement]

/-- A change to an element that keeps its tag. -/
theorem modifyElement (d : Document) (h : Handle) {f : Element → Element}
    (hf : ∀ e, (f e).tag = e.tag) : SameShape d (d.modifyElement h f) where
  size := by simp [Document.modifyElement, Document.size]
  parent? x := by
    unfold Document.parent?
    obtain hx | ⟨n, e, hn, hx⟩ := node?_modifyElement d h x f
    · rw [hx]
    · rw [hn, hx]; rfl
  children x := by
    unfold Document.children
    obtain hx | ⟨n, e, hn, hx⟩ := node?_modifyElement d h x f
    · rw [hx]
    · rw [hn, hx]
  tag? x := by
    unfold Document.tag? Document.element?
    obtain hx | ⟨n, e, hn, hx⟩ := node?_modifyElement d h x f
    · rw [hx]
    · rw [hn, hx]
      exact congrArg some (hf e)

end SameShape

theorem IsTree.of_sameShape {d' : Document} (ht : d.IsTree) (hs : SameShape d d') : d'.IsTree where
  isElement_root := by rw [hs.isElement]; exact ht.isElement_root
  parent?_root := by rw [hs.parent?]; exact ht.parent?_root
  mem_children_iff := by
    intro p c
    rw [hs.children, hs.parent?]
    exact ht.mem_children_iff
  children_nodup p := by rw [hs.children]; exact ht.children_nodup p
  isElement_of_parent? := by
    intro p c hc
    rw [hs.parent?] at hc
    rw [hs.isElement]
    exact ht.isElement_of_parent? hc
  exists_parent := by
    intro h hne hlt
    rw [hs.size] at hlt
    rw [hs.parent?]
    exact ht.exists_parent hne hlt

end Document

/-! ## Edits -/

namespace Document

theorem sameShape_applyStyles (d : Document) (h : Handle) (styles : Styles) :
    SameShape d (d.applyStyles h styles) :=
  .modifyElement d h fun _ => rfl

theorem sameShape_applyOverrides (d : Document) (root : Handle) (o : Overrides) :
    SameShape d (d.applyOverrides root o).1 := by
  unfold applyOverrides
  -- the document changes along the list of elements, which was taken before
  refine List.foldlRecOn (motive := fun (p : Document × Nat) => SameShape d p.1) _ _ (.refl d) ?_
  rintro ⟨d', touched⟩ hs h -
  dsimp only
  split
  · exact hs.trans (sameShape_applyStyles d' h _)
  · exact hs

end Document

namespace Document

variable {d d' : Document} {r h p : Handle} {n : Nat}

/-! ## Paths, a level at a time -/

/-- The element children of `p` that carry a tag. -/
def tagged (d : Document) (p : Handle) (tag : String) : List Handle :=
  (d.elementChildren p).filter fun c => d.tag? c == some tag

theorem mem_tagged {tag : String} (hl : d.Linked) (hp : d.parent? h = some p)
    (ht : d.tag? h = some tag) : h ∈ d.tagged p tag := by
  have he : d.isElement h = true := by rw [← isSome_tag?, ht]; rfl
  simp [tagged, elementChildren, hl.mem_children_iff, hp, ht, he]

theorem getElem?_findIdx? {l : List Handle} (hm : h ∈ l) :
    l[(l.findIdx? (· == h)).getD 0]? = some h := by
  obtain ⟨i, hi⟩ : ∃ i, l.findIdx? (· == h) = some i := by
    cases hi : l.findIdx? (· == h) with
    | none =>
      have hne := List.findIdx?_eq_none_iff.mp hi h hm
      simp at hne
    | some i => exact ⟨i, rfl⟩
  obtain ⟨hlt, heq, -⟩ := List.findIdx?_eq_some_iff_getElem.mp hi
  rw [hi, Option.getD_some, List.getElem?_eq_getElem hlt, beq_iff_eq.mp heq]

/-- The step recorded for a child leads back to it. -/
theorem stepDown?_indexAmong {tag : String} (hl : d.Linked) (hp : d.parent? h = some p)
    (ht : d.tag? h = some tag) : d.stepDown? p ⟨tag, d.indexAmong p tag h⟩ = some h :=
  getElem?_findIdx? (mem_tagged hl hp ht)

/-! ## Whole paths -/

/-- The element `h` stands `n` levels below `r`. -/
inductive Below (d : Document) (r : Handle) : Nat → Handle → Prop where
  | root : Below d r 0 r
  | child {n : Nat} {p h : Handle} : Below d r n p → d.parent? h = some p → h ≠ r →
      d.isElement h = true → Below d r (n + 1) h

/-- What is below an element is that element, or at or below one of its element children. -/
theorem Below.eq_or_exists_child (hl : d.Linked) (hb : Below d r n h) :
    h = r ∨ ∃ c m, c ∈ d.elementChildren r ∧ Below d c m h := by
  induction hb with
  | root => exact .inl rfl
  | @child n p h hbp hp hne he ih =>
    right
    rcases ih with rfl | ⟨c, m, hc, hcp⟩
    · refine ⟨h, 0, ?_, .root⟩
      simp [elementChildren, hl.mem_children_iff, hp, he]
    · by_cases hhc : h = c
      · exact ⟨c, 0, hc, hhc ▸ .root⟩
      · exact ⟨c, m + 1, hc, .child hcp hp hhc he⟩

/-- Climbing from `n` levels below records `n` steps, which lead back. -/
theorem Below.climb (hl : d.Linked) (hb : Below d r n h) :
    ∀ (fuel : Nat) (below : List Step), n ≤ fuel →
      ∃ steps, d.climb (· == r) fuel h below = steps ++ below ∧ steps.length = n ∧
        steps.foldlM d.stepDown? r = some h := by
  induction hb with
  | root =>
    intro fuel below _
    refine ⟨[], ?_, rfl, rfl⟩
    cases fuel <;> simp [Document.climb]
  | @child n p h hbp hp hne he ih =>
    intro fuel below hfuel
    obtain ⟨fuel, rfl⟩ : ∃ k, fuel = k + 1 := ⟨fuel - 1, by omega⟩
    obtain ⟨tag, ht⟩ := Option.isSome_iff_exists.mp (isSome_tag?.trans he)
    let step : Step := ⟨tag, d.indexAmong p tag h⟩
    obtain ⟨steps, hclimb, hlen, hdown⟩ := ih fuel (step :: below) (by omega)
    refine ⟨steps ++ [step], ?_, by simp [hlen], ?_⟩
    · rw [List.append_assoc, List.singleton_append, ← hclimb]
      simp [Document.climb, hne, hp, ht, step]
    · rw [List.foldlM_append, hdown]
      simp [step, stepDown?_indexAmong hl hp ht]

/-- The last step to an element below `r` names its tag, and its index among the siblings of that
tag. -/
theorem Below.getLast?_identify {tag : String} (hl : d.Linked) (hb : Below d r n h)
    (hn : n ≤ d.size) (hne : h ≠ r) (ht : d.tag? h = some tag) :
    ∃ p, d.parent? h = some p ∧
      (d.identify h r).steps.getLast? = some ⟨tag, d.indexAmong p tag h⟩ := by
  cases hb with
  | root => exact absurd rfl hne
  | @child m p h hbp hp _ he =>
    obtain ⟨fuel, hfuel⟩ : ∃ k, d.size = k + 1 := ⟨d.size - 1, by omega⟩
    obtain ⟨steps, hclimb, -, -⟩ := hbp.climb hl fuel [⟨tag, d.indexAmong p tag h⟩] (by omega)
    refine ⟨p, hp, ?_⟩
    have hsteps : (d.identify h r).steps = steps ++ [⟨tag, d.indexAmong p tag h⟩] := by
      rw [← hclimb]
      simp [identify, hfuel, Document.climb, hne, hp, ht]
    rw [hsteps]
    simp

/-- The path of an element below `r` leads from `r` to it. -/
theorem locate_identify (hl : d.Linked) (hb : Below d r n h) (hn : n ≤ d.size)
    (he : d.isElement h = true) : d.locate r (d.identify h r) = some h := by
  obtain ⟨steps, hclimb, -, hdown⟩ := hb.climb hl d.size [] hn
  simp [locate, identify, hclimb, hdown, he]

/-- In a tree every element is below the root, by fewer levels than its handle says. -/
theorem IsTree.below (ht : d.IsTree) (he : d.isElement h = true) :
    ∃ n, Below d d.root n h ∧ n ≤ h := by
  induction h using Nat.strongRecOn with
  | _ h ih =>
    by_cases hroot : h = d.root
    · exact ⟨0, hroot ▸ .root, Nat.zero_le _⟩
    · obtain ⟨p, hp, hlt⟩ := ht.exists_parent hroot (lt_size_of_isElement he)
      obtain ⟨n, hb, hn⟩ := ih p hlt (ht.isElement_of_parent? hp)
      exact ⟨n + 1, .child hb hp hroot he, Nat.lt_of_le_of_lt hn hlt⟩

theorem IsTree.locate_identify (ht : d.IsTree) (he : d.isElement h = true) :
    d.locate d.root (d.identify h d.root) = some h := by
  obtain ⟨n, hb, hn⟩ := ht.below he
  exact Document.locate_identify ht.toLinked hb
    (Nat.le_trans hn (Nat.le_of_lt (lt_size_of_isElement he))) he

/-! ## Shape decides -/

theorem SameShape.locate (hs : SameShape d d') (path : Path) :
    d'.locate r path = d.locate r path := by
  have hstep : d'.stepDown? = d.stepDown? := by
    funext x s
    unfold stepDown?
    rw [hs.elementChildren, funext hs.tag?]
  unfold Document.locate
  rw [hstep]
  simp only [hs.isElement]

end Document
end Restyle
