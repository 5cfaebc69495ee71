import Restyle.Proofs.Markup.Tree

/-!
# Restyle.Proofs.Document.Outline

A subtree of a document as a tree without handles. `Document.plant` adds the nodes of outlines below
an element, in document order; what then stands below a new root is these outlines again
(`outline_plant`).
-/

namespace Restyle

/-- A node and all below it, without handles. -/
inductive Outline where
  | text (content : String)
  | element (e : Element) (children : List Outline)

namespace Document

variable {d d' : Document} {h p x : Handle} {kind : NodeKind} {lo : Nat} {hs hs' : List Handle}
  {os os' : List Outline}

/-- The node at `h` and what is below it, down to a depth. -/
def outlineWithin (d : Document) : Nat → Handle → List Outline
  | 0, _ => []
  | depth + 1, h =>
    match d.node? h with
    | some { kind := .text content, .. } => [.text content]
    | some { kind := .element e, children, .. } =>
      [.element e (children.flatMap (d.outlineWithin depth))]
    | none => []

/-- The node at `h` and all below it; nothing if there is none. -/
def outline (d : Document) (h : Handle) : List Outline := d.outlineWithin d.size h

/-! ## Adding nodes -/

/-- A new node, as the last child of `p`. -/
def add (d : Document) (p : Handle) (kind : NodeKind) : Document :=
  (d.create kind).1.append p d.size

theorem canAppend_create (hp : d.isElement p = true) (hfree : d.parent? d.size = none) :
    (d.create kind).1.canAppend p d.size = true := by
  have hlt := lt_size_of_isElement hp
  refine canAppend_iff.mpr ⟨Nat.ne_of_lt hlt, isElement_create hp, ?_, ?_, ?_⟩
  · exact Nat.ne_of_gt (Nat.zero_lt_of_lt hlt)
  · rw [size_create]; exact Nat.lt_succ_self _
  · rw [parent?_create]; exact hfree

@[simp] theorem size_add : (d.add p kind).size = d.size + 1 := by
  rw [add, size_append, size_create]

theorem node?_add (hp : d.isElement p = true) : (d.add p kind).node? x =
    if x = d.size then some { parent := some p, kind }
    else (d.node? x).map fun n =>
      if x = p then { n with children := n.children ++ [d.size] } else n := by
  have hnew : d.parent? d.size = none := by rw [parent?, node?_size]; rfl
  have hlt := lt_size_of_isElement hp
  rw [add, node?_append (canAppend_create hp hnew), node?_create]
  by_cases hx : x = d.size
  · subst hx
    simp [Nat.ne_of_gt hlt]
  · simp only [if_neg hx]
    congr 1
    funext n
    split <;> rfl

theorem node?_add_size (hp : d.isElement p = true) :
    (d.add p kind).node? d.size = some { parent := some p, kind } := by
  rw [node?_add hp, if_pos rfl]

theorem isElement_add_size (hp : d.isElement p = true) (e : Element) :
    (d.add p (.element e)).isElement d.size = true := by
  unfold isElement element?
  rw [node?_add_size hp]
  rfl

mutual

/-- Adds the nodes of an outline below `p`. -/
def plantOne (d : Document) (p : Handle) : Outline → Document
  | .text content => d.add p (.text content)
  | .element e children => plant (d.add p (.element e)) d.size children

/-- Adds the nodes of outlines below `p`. -/
def plant (d : Document) (p : Handle) : List Outline → Document
  | [] => d
  | o :: os => plant (plantOne d p o) p os

end

theorem plant_append (d : Document) (p : Handle) (os os' : List Outline) :
    d.plant p (os ++ os') = (d.plant p os).plant p os' := by
  induction os generalizing d with
  | nil => simp [plant]
  | cons o os ih => simp [plant, ih]

/-! ## What stands below a node -/

/-- Nodes, none of them before `lo`, and all below them make up outlines. -/
inductive Depicts (d : Document) (lo : Nat) : List Handle → List Outline → Prop where
  | nil : Depicts d lo [] []
  | text {h : Handle} {hs : List Handle} {os : List Outline} {parent : Option Handle}
      {children : List Handle} {content : String} :
      d.node? h = some ⟨parent, children, .text content⟩ → lo ≤ h → Depicts d lo hs os →
      Depicts d lo (h :: hs) (.text content :: os)
  | element {h : Handle} {hs : List Handle} {os cs : List Outline} {parent : Option Handle}
      {children : List Handle} {e : Element} :
      d.node? h = some ⟨parent, children, .element e⟩ → lo ≤ h → Depicts d lo children cs →
      Depicts d lo hs os → Depicts d lo (h :: hs) (.element e cs :: os)

theorem Depicts.mono {lo' : Nat} (h : Depicts d lo hs os) (hle : lo' ≤ lo) :
    Depicts d lo' hs os := by
  induction h with
  | nil => exact .nil
  | text hn hlo _ ih => exact .text hn (Nat.le_trans hle hlo) ih
  | element hn hlo _ _ ihc ih => exact .element hn (Nat.le_trans hle hlo) ihc ih

theorem Depicts.append (h : Depicts d lo hs os) (h' : Depicts d lo hs' os') :
    Depicts d lo (hs ++ hs') (os ++ os') := by
  induction h with
  | nil => exact h'
  | text hn hlo _ ih => exact .text hn hlo ih
  | element hn hlo hc _ _ ih => exact .element hn hlo hc ih

/-- Only the nodes themselves matter. -/
theorem Depicts.of_eq (h : Depicts d lo hs os)
    (heq : ∀ x, lo ≤ x → x < d.size → d'.node? x = d.node? x) : Depicts d' lo hs os := by
  have hnode : ∀ {x n}, lo ≤ x → d.node? x = some n → d'.node? x = some n := by
    intro x n hlo hn
    rw [heq x hlo (lt_size_iff.mpr (by rw [hn]; rfl)), hn]
  induction h with
  | nil => exact .nil
  | text hn hlo _ ih => exact .text (hnode hlo hn) hlo ih
  | element hn hlo _ _ ihc ih => exact .element (hnode hlo hn) hlo ihc ih

/-- What planting below `p` does: `p` gets new children, which make up the outlines, and no other
node changes. -/
structure Planted (d d' : Document) (p : Handle) (os : List Outline) : Prop where
  size : d.size ≤ d'.size
  nodes : ∃ hs, Depicts d' d.size hs os ∧ ∀ x, x < d.size → d'.node? x =
    (d.node? x).map fun n => if x = p then { n with children := n.children ++ hs } else n

namespace Planted

theorem isElement (h : Planted d d' p os) (hx : d.isElement x = true) : d'.isElement x = true := by
  obtain ⟨hs, -, hnode⟩ := h.nodes
  have hn := hnode x (lt_size_of_isElement hx)
  unfold Document.isElement element? at hx ⊢
  rw [hn]
  cases hd : d.node? x with
  | none => rw [hd] at hx; cases hx
  | some n =>
    obtain ⟨parent, children, kind⟩ := n
    rw [hd] at hx
    cases kind with
    | text content => cases hx
    | element e =>
      by_cases hxp : x = p <;> simp [hxp]

theorem refl (d : Document) (p : Handle) : Planted d d p [] := by
  refine ⟨Nat.le_refl _, [], .nil, fun x _ => ?_⟩
  cases d.node? x with
  | none => rfl
  | some n => simp

theorem trans {d'' : Document} (hp : p < d.size) (h : Planted d d' p os) (h' : Planted d' d'' p os') :
    Planted d d'' p (os ++ os') := by
  obtain ⟨hs, hdep, hnode⟩ := h.nodes
  obtain ⟨hs', hdep', hnode'⟩ := h'.nodes
  refine ⟨Nat.le_trans h.size h'.size, hs ++ hs', ?_, fun x hx => ?_⟩
  · refine (hdep.of_eq fun x hlo hx => ?_).append (hdep'.mono h.size)
    rw [hnode' x hx]
    have hne : x ≠ p := Nat.ne_of_gt (Nat.lt_of_lt_of_le hp hlo)
    cases d'.node? x <;> simp [hne]
  · rw [hnode' x (Nat.lt_of_lt_of_le hx h.size), hnode x hx, Option.map_map]
    congr 1
    funext n
    by_cases hxp : x = p <;> simp [hxp]

end Planted

/-- A new node is a new child. -/
theorem node?_add_of_lt (hp : d.isElement p = true) (hx : x < d.size) :
    (d.add p kind).node? x = (d.node? x).map fun n =>
      if x = p then { n with children := n.children ++ [d.size] } else n := by
  rw [node?_add hp, if_neg (Nat.ne_of_lt hx)]

mutual

theorem planted_plantOne (d : Document) (p : Handle) (hp : d.isElement p = true) :
    ∀ o, Planted d (d.plantOne p o) p [o]
  | .text content => by
    rw [plantOne]
    have hnode : (d.add p (.text content)).node? d.size = some { parent := some p, kind := .text content } :=
      node?_add_size hp
    refine ⟨by simp, [d.size], .text hnode (Nat.le_refl _) .nil, ?_⟩
    exact fun x hx => node?_add_of_lt hp hx
  | .element e children => by
    rw [plantOne]
    obtain ⟨hsize, hs, hdep, hnode⟩ :=
      planted_plant (d.add p (.element e)) d.size (isElement_add_size hp e) children
    rw [size_add] at hsize hdep
    have hnew := hnode d.size (by simp)
    rw [node?_add_size hp, Option.map_some, if_pos rfl] at hnew
    refine ⟨by omega, [d.size], ?_, fun x hx => ?_⟩
    · exact .element hnew (Nat.le_refl _) (hdep.mono (by omega)) .nil
    · rw [hnode x (by rw [size_add]; omega), node?_add_of_lt hp hx]
      cases d.node? x <;> simp [Nat.ne_of_lt hx]

theorem planted_plant (d : Document) (p : Handle) (hp : d.isElement p = true) :
    ∀ os, Planted d (d.plant p os) p os
  | [] => by
    rw [plant]
    exact .refl d p
  | o :: os => by
    have hone := planted_plantOne d p hp o
    rw [plant]
    exact hone.trans (lt_size_of_isElement hp) (planted_plant _ p (hone.isElement hp) os)

end

/-! ## Reading off outlines -/

theorem IsTree.lt_of_mem_children {c : Handle} (ht : d.IsTree) (hc : c ∈ d.children h) : h < c := by
  have hparent : d.parent? c = some h := ht.mem_children_iff.mp hc
  have hroot : c ≠ d.root := by
    rintro rfl
    rw [ht.parent?_root] at hparent
    cases hparent
  have hsize : c < d.size := by
    unfold Document.parent? at hparent
    obtain ⟨n, hn, -⟩ := Option.bind_eq_some_iff.mp hparent
    exact lt_size_iff.mpr (by rw [hn]; rfl)
  obtain ⟨p, hp, hlt⟩ := ht.exists_parent hroot hsize
  obtain rfl := Option.some.inj (hparent.symm.trans hp)
  exact hlt

/-- In a tree children come after their parent, so that a depth is enough that no handle exceeds. -/
theorem Depicts.flatMap_outlineWithin (ht : d.IsTree) (h : Depicts d lo hs os) (depth : Nat)
    (hdepth : ∀ h : Nat, h ∈ hs → d.size ≤ depth + h) : hs.flatMap (d.outlineWithin depth) = os := by
  induction h generalizing depth with
  | nil => rfl
  | @text h hs os parent children content hn hlo _ ih =>
    have hlt : Nat.succ h ≤ d.size := lt_size_iff.mpr (by rw [hn]; rfl)
    have hh := hdepth h (List.mem_cons_self ..)
    obtain ⟨depth, rfl⟩ : ∃ k, depth = k + 1 := ⟨depth - 1, by omega⟩
    rw [List.flatMap_cons, ih _ fun h hh => hdepth h (List.mem_cons_of_mem _ hh), outlineWithin, hn]
    rfl
  | @element h hs os cs parent children e hn hlo _ _ ihc ih =>
    have hlt : Nat.succ h ≤ d.size := lt_size_iff.mpr (by rw [hn]; rfl)
    have hh := hdepth h (List.mem_cons_self ..)
    obtain ⟨depth, rfl⟩ : ∃ k, depth = k + 1 := ⟨depth - 1, by omega⟩
    have hafter : ∀ c : Nat, c ∈ children → Nat.succ h ≤ c := by
      intro c hc
      refine ht.lt_of_mem_children ?_
      rwa [Document.children, hn]
    rw [List.flatMap_cons, ih _ fun h hh => hdepth h (List.mem_cons_of_mem _ hh), outlineWithin, hn]
    dsimp only
    rw [ihc depth fun c hc => by have hlt := hafter c hc; omega]
    rfl

/-- **What was planted below a root without children stands below it.** -/
theorem outline_plant {e : Element} (hroot : d.node? d.root = some { kind := .element e })
    (ht : (d.plant d.root os).IsTree) : (d.plant d.root os).outline d.root = [.element e os] := by
  have he : d.isElement d.root = true := by
    unfold isElement element?
    rw [hroot]
    rfl
  obtain ⟨hsize, hs, hdep, hnode⟩ := planted_plant d d.root he os
  have hlt := lt_size_of_isElement he
  have hn := hnode d.root hlt
  rw [hroot, Option.map_some, if_pos rfl] at hn
  have hall : Depicts (d.plant d.root os) 0 [d.root] [.element e os] :=
    .element hn (Nat.zero_le _) (hdep.mono (Nat.zero_le _)) .nil
  have h := hall.flatMap_outlineWithin ht (d.plant d.root os).size fun h _ => Nat.le_add_right _ _
  rwa [List.flatMap_singleton] at h

end Document
end Restyle
