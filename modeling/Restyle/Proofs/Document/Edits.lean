import Restyle.Proofs.Document.Alike
import Restyle.Proofs.Document.Forest
import Restyle.Proofs.Document.Identified

/-!
# Restyle.Proofs.Document.Edits

Recorded edits in a document: how they are written, and what the edit surface shows of them.

* `applyOverrides_ofMarkup`: passing over all elements and writing what is recorded for the path of
  each does the same as following each path and writing there, in any order. Nothing but the named
  properties of the elements found is changed, and doing it again changes nothing.
* `get?_shown_iff`: what is recorded for an element is shown for it, but for a background that was
  cleared: its `background` shorthand is not written, and its colour is still shown.
-/

namespace Restyle
namespace Overrides

/-- The entries of a table but that of the root. -/
def named (o : Overrides) : List (Path × Styles) := o.entries.filter fun e => !e.1.isRoot

theorem mem_named {o : Overrides} {e : Path × Styles} :
    e ∈ o.named ↔ e ∈ o.entries ∧ e.1.isRoot = false := by
  simp [named]

theorem Ordered.nodup_named {o : Overrides} (ho : o.Ordered) : (o.named.map (·.1)).Nodup :=
  ho.nodup_paths.sublist (List.filter_sublist.map _)

end Overrides

namespace Document

variable {d q : Document} {r x h e : Handle} {path : Path} {m n : Nat} {o : Overrides}
  {es : List (Path × Styles)} {xs : List Handle}

/-! ## Descendants and their paths -/

theorem Below.ancestor? (hb : Below d r n x) : d.ancestor? n x = some r := by
  induction hb with
  | root => rfl
  | child _ hp _ _ ih => exact ancestor?_succ_of_child hp ih

theorem below_of_ancestor? (hl : d.Linked) (hr : Below d d.root m r) (he : d.isElement x = true)
    (hx : d.ancestor? n x = some r) : Below d r n x := by
  induction n generalizing x with
  | zero =>
    cases hx
    exact .root
  | succ n ih =>
    rw [Document.ancestor?, Option.bind_eq_some_iff] at hx
    obtain ⟨p, hp, hx⟩ := hx
    have hb := ih (hl.isElement_of_parent? hp) hx
    exact .child hb hp (hr.ne_of_parent hl hb hp) he

/-- What is properly below an element under the root is a descendant of it. -/
theorem mem_descendants_iff (hl : d.Linked) (hr : Below d d.root m r) :
    x ∈ d.descendants r ↔ ∃ n, Below d r (n + 1) x := by
  have hre := hr.isElement hl.isElement_root
  rw [descendants, hl.mem_descendantsWithin_iff]
  constructor
  · rintro ⟨n, -, hx, he⟩
    exact ⟨n, below_of_ancestor? hl hr he hx⟩
  · rintro ⟨n, hb⟩
    exact ⟨n, Nat.lt_of_succ_lt (hb.level_lt_size hre), hb.ancestor?, hb.isElement hre⟩

theorem Below.length_identify (hl : d.Linked) (hb : Below d r n x) (hn : n ≤ d.size) :
    (d.identify x r).steps.length = n := by
  obtain ⟨steps, hclimb, hlength, -⟩ := hb.climb hl d.size [] hn
  rw [identify, hclimb, List.append_nil, hlength]

/-- A path other than that of the root leads to the descendant whose path it is. -/
theorem locate_eq_some_iff (hl : d.Linked) (hr : Below d d.root m r) (hpath : path.isRoot = false) :
    d.locate r path = some x ↔ x ∈ d.descendants r ∧ d.identify x r = path := by
  have hre := hr.isElement hl.isElement_root
  rw [mem_descendants_iff hl hr]
  constructor
  · intro hx
    obtain ⟨⟨n, hb⟩, hid⟩ := exists_below_of_locate hl hr hx
    refine ⟨?_, hid⟩
    cases n with
    | zero =>
      have hlength := hb.length_identify hl (Nat.zero_le _)
      rw [hid, List.length_eq_zero_iff] at hlength
      rw [Path.isRoot, hlength] at hpath
      cases hpath
    | succ n => exact ⟨n, hb⟩
  · rintro ⟨⟨n, hb⟩, rfl⟩
    exact locate_identify hl hb (Nat.le_of_lt (hb.level_lt_size hre)) (hb.isElement hre)

theorem isRoot_identify (hl : d.Linked) (hr : Below d d.root m r) (hx : x ∈ d.descendants r) :
    (d.identify x r).isRoot = false := by
  obtain ⟨n, hb⟩ := (mem_descendants_iff hl hr).mp hx
  have hlength := hb.length_identify hl
    (Nat.le_of_lt (hb.level_lt_size (hr.isElement hl.isElement_root)))
  rw [Path.isRoot]
  cases hsteps : (d.identify x r).steps with
  | nil => rw [hsteps] at hlength; cases hlength
  | cons s steps => rfl

/-- In a tree this holds of every handle: below what is no element there is nothing. -/
theorem IsTree.locate_eq_some_iff (ht : d.IsTree) (hpath : path.isRoot = false) :
    d.locate r path = some x ↔ x ∈ d.descendants r ∧ d.identify x r = path := by
  by_cases hr : d.isElement r = true
  · obtain ⟨m, hb, -⟩ := ht.below hr
    exact Document.locate_eq_some_iff ht.toLinked hb hpath
  · have hleaf : d.elementChildren r = [] := by
      refine List.eq_nil_iff_forall_not_mem.mpr fun c hc => hr ?_
      exact ht.isElement_of_parent? (ht.mem_elementChildren_iff.mp hc).1
    refine iff_of_false (fun hx => ?_) fun hx => ?_
    · obtain ⟨steps⟩ := path
      cases steps with
      | nil => cases hpath
      | cons s steps => simp [locate, List.foldlM_cons, stepDown?, hleaf] at hx
    · obtain ⟨n, -, hup, -⟩ := ht.mem_descendantsWithin_iff.mp hx.1
      obtain ⟨c, -, hc⟩ := ancestor?_succ_eq_some_iff.mp hup
      exact hr (ht.isElement_of_parent? hc)

theorem IsTree.isRoot_identify (ht : d.IsTree) (hx : x ∈ d.descendants r) :
    (d.identify x r).isRoot = false := by
  obtain ⟨n, -, hup, -⟩ := ht.mem_descendantsWithin_iff.mp hx
  obtain ⟨c, -, hc⟩ := ancestor?_succ_eq_some_iff.mp hup
  obtain ⟨m, hb, -⟩ := ht.below (ht.isElement_of_parent? hc)
  exact Document.isRoot_identify ht.toLinked hb hx

/-- The path of a descendant leads back to it. -/
theorem IsTree.locate_descendant (ht : d.IsTree) (hx : x ∈ d.descendants r) :
    d.locate r (d.identify x r) = some x :=
  (ht.locate_eq_some_iff (ht.isRoot_identify hx)).mpr ⟨hx, rfl⟩

theorem IsTree.nodup_identify (ht : d.IsTree) (r : Handle) :
    ((d.descendants r).map (d.identify · r)).Nodup := by
  refine List.pairwise_map.mpr (ht.isForest.nodup_descendantsWithin.imp_of_mem ?_)
  intro x y hx hy hne heq
  have hlead := ht.locate_descendant hx
  rw [heq, ht.locate_descendant hy] at hlead
  exact hne (Option.some.inj hlead).symm

/-! ## Writing element after element -/

theorem ext_node? {d d' : Document} (h : ∀ x, d'.node? x = d.node? x) : d' = d := by
  obtain ⟨nodes⟩ := d
  obtain ⟨nodes'⟩ := d'
  exact congrArg Document.mk (Array.ext_getElem? h)

/-- An element that is listed once gets what the table has for it. -/
theorem node?_foldl_applyAt {q : Document × Nat} (hs : SameShape d q.1) (hnodup : xs.Nodup)
    (x : Handle) : (xs.foldl (applyAt r o) q).1.node? x =
      (q.1.node? x).map (Node.write (d.editsAt r o xs x)) := by
  induction xs generalizing q with
  | nil => exact (map_write_empty _).symm
  | cons h xs ih =>
    obtain ⟨hmem, hnodup⟩ := List.nodup_cons.mp hnodup
    rw [List.foldl_cons, ih (hs.trans (sameShape_applyAt r o q h)) hnodup, node?_applyAt,
      hs.identify]
    by_cases hx : h = x
    · subst hx
      rw [if_pos rfl, editsAt, if_neg hmem, map_write_empty, editsAt,
        if_pos (List.mem_cons_self ..)]
    · have hlisted : x ∈ h :: xs ↔ x ∈ xs := by simp [Ne.symm hx]
      rw [if_neg hx]
      simp only [editsAt, hlisted]

/-- The elements that the table has something for are counted. -/
theorem count_foldl_applyAt {q : Document × Nat} (hs : SameShape d q.1) :
    (xs.foldl (applyAt r o) q).2 = q.2 + xs.countP fun x => (o.get? (d.identify x r)).isSome := by
  induction xs generalizing q with
  | nil => rfl
  | cons h xs ih =>
    rw [List.foldl_cons, ih (hs.trans (sameShape_applyAt r o q h)), List.countP_cons, applyAt,
      hs.identify]
    cases o.get? (d.identify h r) with
    | none => rfl
    | some styles => simp only [Option.isSome_some, if_true]; omega

theorem IsForest.node?_applyOverrides (hf : d.IsForest) (r : Handle) (o : Overrides) (x : Handle) :
    (d.applyOverrides r o).1.node? x =
      (d.node? x).map (Node.write (d.editsAt r o (d.descendants r) x)) :=
  node?_foldl_applyAt (q := (d, 0)) (.refl d) hf.nodup_descendantsWithin x

theorem count_applyOverrides (d : Document) (r : Handle) (o : Overrides) :
    (d.applyOverrides r o).2 =
      (d.descendants r).countP fun x => (o.get? (d.identify x r)).isSome :=
  (count_foldl_applyAt (q := (d, 0)) (.refl d)).trans (Nat.zero_add _)

/-! ## Writing path after path -/

/-- Writes the values of one entry into the element that its path leads to. -/
def writeLocated (r : Handle) (d : Document) (e : Path × Styles) : Document :=
  match d.locate r e.1 with
  | some h => d.applyStyles h e.2
  | none => d

theorem sameShape_writeLocated (r : Handle) (q : Document) (e : Path × Styles) :
    SameShape q (writeLocated r q e) := by
  unfold writeLocated
  split
  · exact sameShape_applyStyles q _ _
  · exact .refl q

theorem node?_writeLocated {e : Path × Styles} (hs : SameShape d q) (x : Handle) :
    (writeLocated r q e).node? x =
      if d.locate r e.1 = some x then (q.node? x).map (Node.write e.2) else q.node? x := by
  unfold writeLocated
  rw [hs.locate]
  cases d.locate r e.1 with
  | none => rfl
  | some h =>
    simp only [node?_applyStyles, Option.some.injEq]

theorem node?_foldl_writeLocated_of_ne (hs : SameShape d q)
    (hne : ∀ e ∈ es, d.locate r e.1 ≠ some x) :
    (es.foldl (writeLocated r) q).node? x = q.node? x := by
  induction es generalizing q with
  | nil => rfl
  | cons e es ih =>
    rw [List.forall_mem_cons] at hne
    rw [List.foldl_cons, ih (hs.trans (sameShape_writeLocated r q e)) hne.2, node?_writeLocated hs,
      if_neg hne.1]

/-- An element to which one path of the list leads gets the values of that path. -/
theorem node?_foldl_writeLocated {e : Path × Styles} (hs : SameShape d q)
    (hpaths : (es.map (·.1)).Nodup) (hone : ∀ e' ∈ es, d.locate r e'.1 = some x → e'.1 = e.1)
    (he : e ∈ es) (hx : d.locate r e.1 = some x) :
    (es.foldl (writeLocated r) q).node? x = (q.node? x).map (Node.write e.2) := by
  induction es generalizing q with
  | nil => cases he
  | cons e' es ih =>
    rw [List.map_cons, List.nodup_cons] at hpaths
    rw [List.forall_mem_cons] at hone
    rw [List.foldl_cons]
    rcases List.mem_cons.mp he with rfl | he
    · have hne : ∀ e' ∈ es, d.locate r e'.1 ≠ some x := fun e' he' hx' =>
        hpaths.1 (hone.2 e' he' hx' ▸ List.mem_map.mpr ⟨e', he', rfl⟩)
      rw [node?_foldl_writeLocated_of_ne (hs.trans (sameShape_writeLocated r q e)) hne,
        node?_writeLocated hs, if_pos hx]
    · have hne : d.locate r e'.1 ≠ some x := fun hx' =>
        hpaths.1 (List.mem_map.mpr ⟨e, he, (hone.1 hx').symm⟩)
      rw [ih (hs.trans (sameShape_writeLocated r q e')) hpaths.2 hone.2 he, node?_writeLocated hs,
        if_neg hne]

/-! ## The two ways of writing -/

theorem IsTree.editsAt_of_located (ht : d.IsTree) (ho : o.Ordered) {e : Path × Styles}
    (he : e ∈ o.named) (hx : d.locate r e.1 = some x) :
    d.editsAt r o (d.descendants r) x = e.2 := by
  obtain ⟨he, hroot⟩ := Overrides.mem_named.mp he
  obtain ⟨hmem, hid⟩ := (ht.locate_eq_some_iff hroot).mp hx
  rw [editsAt, if_pos hmem, hid, ho.get?_eq_some_iff.mpr he]
  rfl

theorem IsTree.editsAt_of_not_located (ht : d.IsTree) (ho : o.Ordered)
    (hne : ∀ e ∈ o.named, d.locate r e.1 ≠ some x) :
    d.editsAt r o (d.descendants r) x = {} := by
  unfold editsAt
  split
  · rename_i hmem
    cases hst : o.get? (d.identify x r) with
    | none => rfl
    | some styles =>
      have he := Overrides.mem_named.mpr ⟨ho.get?_eq_some_iff.mp hst, ht.isRoot_identify hmem⟩
      exact absurd (ht.locate_descendant hmem) (hne _ he)
  · rfl

/-- The paths of a table may be looked up one after the other, in any order. -/
theorem IsTree.foldl_writeLocated (ht : d.IsTree) (ho : o.Ordered) (hes : es.Perm o.named) :
    es.foldl (writeLocated r) d = (d.applyOverrides r o).1 := by
  have hpaths : (es.map (·.1)).Nodup := (hes.map _).nodup_iff.mpr ho.nodup_named
  refine ext_node? fun x => ?_
  rw [ht.isForest.node?_applyOverrides]
  by_cases hx : ∃ e ∈ o.named, d.locate r e.1 = some x
  · obtain ⟨e, he, hx⟩ := hx
    rw [ht.editsAt_of_located ho he hx]
    refine node?_foldl_writeLocated (.refl d) hpaths (fun e' he' hx' => ?_) (hes.mem_iff.mpr he) hx
    have hid := ((ht.locate_eq_some_iff (Overrides.mem_named.mp he).2).mp hx).2
    have hid' := ((ht.locate_eq_some_iff (Overrides.mem_named.mp (hes.mem_iff.mp he')).2).mp hx').2
    exact hid'.symm.trans hid
  · have hne : ∀ e ∈ o.named, d.locate r e.1 ≠ some x := fun e he h => hx ⟨e, he, h⟩
    rw [ht.editsAt_of_not_located ho hne, map_write_empty]
    exact node?_foldl_writeLocated_of_ne (.refl d) fun e he => hne e (hes.mem_iff.mp he)

/-- The paths of the elements that the table has something for are those that lead to one. -/
theorem IsTree.perm_located (ht : d.IsTree) (ho : o.Ordered) (r : Handle) :
    (((d.descendants r).filter fun x => (o.get? (d.identify x r)).isSome).map
      (d.identify · r)).Perm
      ((o.named.filter fun e => (d.locate r e.1).isSome).map (·.1)) := by
  refine (List.perm_ext_iff_of_nodup ((ht.nodup_identify r).sublist (List.filter_sublist.map _))
    (ho.nodup_named.sublist (List.filter_sublist.map _))).mpr fun path => ?_
  simp only [List.mem_map, List.mem_filter, Option.isSome_iff_exists]
  constructor
  · rintro ⟨x, ⟨hx, styles, hst⟩, rfl⟩
    have he := Overrides.mem_named.mpr ⟨ho.get?_eq_some_iff.mp hst, ht.isRoot_identify hx⟩
    exact ⟨(d.identify x r, styles), ⟨he, x, ht.locate_descendant hx⟩, rfl⟩
  · rintro ⟨e, ⟨he, x, hx⟩, rfl⟩
    obtain ⟨he, hroot⟩ := Overrides.mem_named.mp he
    obtain ⟨hmem, hid⟩ := (ht.locate_eq_some_iff hroot).mp hx
    exact ⟨x, ⟨hmem, e.2, hid ▸ ho.get?_eq_some_iff.mpr he⟩, hid⟩

/-- As many elements are counted as paths lead to one. -/
theorem IsTree.count_applyOverrides_eq (ht : d.IsTree) (ho : o.Ordered) (r : Handle) :
    (d.applyOverrides r o).2 = o.named.countP fun e => (d.locate r e.1).isSome := by
  rw [count_applyOverrides, List.countP_eq_length_filter, List.countP_eq_length_filter]
  simpa using (ht.perm_located ho r).length_eq

end Document

/-! ## Twice as once -/

namespace Node

variable {n : Node} {styles : Styles}

theorem Tidy.write_self (hn : n.Tidy) (styles : Styles) :
    (n.write styles).write styles = n.write styles := by
  obtain ⟨parent, children, kind⟩ := n
  cases kind with
  | element e =>
    simp only [Node.write, (hn e rfl).write_self]
  | text content => rfl

/-- The same but for declarations of some names in the inline style. -/
inductive SameBut (named : String → Prop) : Node → Node → Prop where
  | text (parent : Option Handle) (children : List Handle) (content : String) :
      SameBut named ⟨parent, children, .text content⟩ ⟨parent, children, .text content⟩
  | element {parent : Option Handle} {children : List Handle} {tag : String}
      {attributes : List (String × String)} {style style' : InlineStyle}
      (h : ∀ keep : String → Bool, (∀ name, named name → keep name = false) →
        style'.declarations.filter (keep ·.1) = style.declarations.filter (keep ·.1)) :
      SameBut named ⟨parent, children, .element ⟨tag, attributes, style⟩⟩
        ⟨parent, children, .element ⟨tag, attributes, style'⟩⟩

theorem Tidy.sameBut_write {named : String → Prop} (hn : n.Tidy)
    (hnamed : ∀ p, (styles.get? p).isSome = true → named p.cssName) :
    SameBut named n (n.write styles) := by
  obtain ⟨parent, children, kind⟩ := n
  cases kind with
  | element e =>
    exact .element fun keep hkeep => (hn e rfl).filter_write fun p hp => hkeep _ (hnamed p hp)
  | text content => exact .text parent children content

end Node

namespace Document

variable {d q : Document} {r x h e : Handle} {path : Path} {m n : Nat} {o : Overrides}
  {es : List (Path × Styles)} {xs : List Handle}

/-- The names of the properties that the table has values of for an element. -/
def NamedAt (d : Document) (r : Handle) (o : Overrides) (x : Handle) (name : String) : Prop :=
  ∃ e ∈ o.named, d.locate r e.1 = some x ∧ ∃ p, (e.2.get? p).isSome = true ∧ p.cssName = name

/-- Only the named properties of elements to which paths lead are changed. -/
theorem IsTree.rel_sameBut (ht : d.IsTree) (hd : d.IsTidy) (ho : o.Ordered) (r x : Handle) :
    Option.Rel (Node.SameBut (d.NamedAt r o x)) (d.node? x) ((d.applyOverrides r o).1.node? x) := by
  rw [ht.isForest.node?_applyOverrides]
  cases hn : d.node? x with
  | none => exact .none
  | some n =>
    refine .some ((hd x n hn).sameBut_write fun p hp => ?_)
    by_cases hx : ∃ e ∈ o.named, d.locate r e.1 = some x
    · obtain ⟨e, he, hx⟩ := hx
      rw [ht.editsAt_of_located ho he hx] at hp
      exact ⟨e, he, hx, p, hp, rfl⟩
    · rw [ht.editsAt_of_not_located ho fun e he h => hx ⟨e, he, h⟩] at hp
      cases p <;> cases hp

theorem exists_node?_of_element? {e : Element} (he : d.element? x = some e) :
    ∃ parent children, d.node? x = some ⟨parent, children, .element e⟩ := by
  unfold element? at he
  split at he
  · rename_i parent children e' hn
    cases he
    exact ⟨_, _, hn⟩
  · cases he

/-- An element to which a path leads gets the values of that path, each under the name of its
property; an empty value leaves nothing there. -/
theorem IsTree.written_of_located (ht : d.IsTree) (hd : d.IsTidy) (ho : o.Ordered)
    {e : Path × Styles} (he : e ∈ o.named) (hx : d.locate r e.1 = some x) :
    (d.applyOverrides r o).1.node? x = (d.node? x).map (Node.write e.2) ∧
      ∀ p v, e.2.get? p = some v →
        ((d.applyOverrides r o).1.element? x).bind (·.style.get? p.cssName) =
          InlineStyle.kept v := by
  have hnode : (d.applyOverrides r o).1.node? x = (d.node? x).map (Node.write e.2) := by
    rw [ht.isForest.node?_applyOverrides, ht.editsAt_of_located ho he hx]
  refine ⟨hnode, fun p v hv => ?_⟩
  obtain ⟨hmem, -⟩ := (ht.locate_eq_some_iff (Overrides.mem_named.mp he).2).mp hx
  obtain ⟨-, -, -, helement⟩ := ht.mem_descendantsWithin_iff.mp hmem
  obtain ⟨element, helement⟩ := Option.isSome_iff_exists.mp helement
  obtain ⟨parent, children, hn⟩ := exists_node?_of_element? helement
  rw [hn, Option.map_some, Node.write] at hnode
  rw [element?, hnode, Option.bind_some]
  exact (hd x _ hn element rfl).get?_write_cssName hv

theorem IsTree.applyOverrides_self (ht : d.IsTree) (hd : d.IsTidy) (r : Handle) (o : Overrides) :
    (d.applyOverrides r o).1.applyOverrides r o = d.applyOverrides r o := by
  have hs := sameShape_applyOverrides d r o
  have ht' := ht.of_sameShape hs
  refine Prod.ext (ext_node? fun x => ?_) ?_
  · rw [ht'.isForest.node?_applyOverrides, editsAt_of_sameShape hs, hs.descendants,
      ht.isForest.node?_applyOverrides]
    cases hn : d.node? x with
    | none => rfl
    | some n => exact congrArg some ((hd x n hn).write_self _)
  · rw [count_applyOverrides, count_applyOverrides, hs.descendants]
    simp only [hs.identify]

/-- **Edits are written path by path.** For a document of markup the pass over its elements does
what looking up the paths does, one after the other in any order: an element to which a path leads
gets the values of that path. The pass changes only properties that are named for such an element,
counts the paths that lead somewhere, and changes nothing more when it is made again. -/
theorem applyOverrides_ofMarkup (markup cls : String) (r : Handle)
    (edits : List (Path × Property × String)) :
    let d := ofMarkup markup cls
    let o := Overrides.ofEdits edits
    let d' := (d.applyOverrides r o).1
    (∀ es : List (Path × Styles), es.Perm o.named → es.foldl (writeLocated r) d = d') ∧
    (∀ e ∈ o.named, ∀ x, d.locate r e.1 = some x →
      d'.node? x = (d.node? x).map (Node.write e.2) ∧
      ∀ p v, e.2.get? p = some v →
        (d'.element? x).bind (·.style.get? p.cssName) = InlineStyle.kept v) ∧
    (∀ x, Option.Rel (Node.SameBut (d.NamedAt r o x)) (d.node? x) (d'.node? x)) ∧
    (d.applyOverrides r o).2 = o.named.countP (fun e => (d.locate r e.1).isSome) ∧
    d'.applyOverrides r o = d.applyOverrides r o := by
  intro d o d'
  have ht : d.IsTree := isTree_ofMarkup markup cls
  have hd : d.IsTidy := isTidy_ofMarkup markup cls
  have ho : o.Ordered := Overrides.ordered_ofEdits edits
  exact ⟨fun _ hes => ht.foldl_writeLocated ho hes,
    fun _ he _ hx => ht.written_of_located hd ho he hx, ht.rel_sameBut hd ho r,
    ht.count_applyOverrides_eq ho r, ht.applyOverrides_self hd r o⟩

/-- Two paragraphs and a path that leads nowhere, the last path first. The margin of the second one is
written over what the markup says, and its padding is removed. -/
theorem applyOverrides_ofMarkup_reverse :
    let d := ofMarkup "<p>a</p><p style=\"margin: 1px; padding: 4px\">b</p>" "preview"
    let first := Path.mk [⟨"p", 0⟩]
    let second := Path.mk [⟨"p", 1⟩]
    let o := Overrides.ofEdits [(first, .padding, "1px"), (second, .margin, "2px"),
      (second, .padding, " "), (Path.mk [⟨"p", 2⟩], .margin, "3px")]
    let d' := (d.applyOverrides d.root o).1
    o.named.length = 3 ∧ o.named.reverse.foldl (writeLocated d.root) d = d' ∧
      (d.applyOverrides d.root o).2 = 2 ∧
      (d'.element? 1).bind (·.style.get? "padding") = some "1px" ∧
      (d'.element? 3).bind (·.style.get? "margin") = some "2px" ∧
      (d'.element? 3).bind (·.style.get? "padding") = none := by
  intro d first second o d'
  obtain ⟨hany, hwritten, -, hcount, -⟩ := applyOverrides_ofMarkup
    "<p>a</p><p style=\"margin: 1px; padding: 4px\">b</p>" "preview" d.root
    [(first, .padding, "1px"), (second, .margin, "2px"), (second, .padding, " "),
      (Path.mk [⟨"p", 2⟩], .margin, "3px")]
  have ho : o.Ordered := Overrides.ordered_ofEdits _
  have hfirst : o.get? first = some { padding := some "1px" } := by decide +kernel
  have hsecond : o.get? second = some { margin := some "2px", padding := some "" } := by
    decide +kernel
  replace hfirst := Overrides.mem_named.mpr ⟨ho.get?_eq_some_iff.mp hfirst, rfl⟩
  replace hsecond := Overrides.mem_named.mpr ⟨ho.get?_eq_some_iff.mp hsecond, rfl⟩
  obtain ⟨-, hfirst⟩ := hwritten _ hfirst 1 (by decide +kernel)
  obtain ⟨-, hsecond⟩ := hwritten _ hsecond 3 (by decide +kernel)
  exact ⟨by decide +kernel, hany _ (List.reverse_perm _), hcount.trans (by decide +kernel),
    hfirst .padding "1px" rfl, hsecond .margin "2px" rfl, hsecond .padding "" rfl⟩

end Document

/-! ## What is shown -/

namespace Background

theorem ne_nil_of_mem_tokens {depth : Nat} {word cs t : List Char} (h : t ∈ tokens depth word cs) :
    t ≠ [] := by
  fun_induction tokens depth word cs with
  | case1 depth word hword => cases h
  | case2 depth word hword =>
    rw [List.mem_singleton.mp h]
    simpa using hword
  | case3 depth word c cs _ ih => exact ih h
  | case4 depth word c cs _ _ ih => exact ih h
  | case5 depth word c cs _ _ _ _ ih => exact ih h
  | case6 depth word c cs _ _ _ hword ih =>
    rcases List.mem_cons.mp h with rfl | h
    · simpa using hword
    · exact ih h
  | case7 depth word c cs _ _ _ ih => exact ih h

theorem colour?_ne_empty {shorthand colour : String} (h : colour? shorthand = some colour) :
    colour ≠ "" := by
  unfold colour? at h
  obtain ⟨token, htoken, rfl⟩ := Option.map_eq_some_iff.mp h
  have hne := ne_nil_of_mem_tokens (List.mem_reverse.mp (List.mem_of_find?_eq_some htoken))
  intro heq
  exact hne (String.ofList_inj.mp heq)

end Background

theorem Styles.get?_ofList_all (f : Property → String) (p : Property) :
    (Styles.ofList (Property.all.map fun p => (p, f p))).get? p = some (f p) := by
  cases p <;> rfl

namespace InlineStyle

variable {s s' : InlineStyle} {styles : Styles} {p : Property} {v : String}

theorem editable?_congr (h : ∀ name, s.get? name = s'.get? name) (p : Property) :
    s.editable? p = s'.editable? p := by
  unfold editable?
  rw [h, h]

/-- No property that is written is called `background`. -/
theorem Tidy.get?_write_background (hs : s.Tidy) (styles : Styles) :
    (s.write styles).get? "background" = s.get? "background" := by
  rw [hs.get?_write, overwritten, show Property.ofCssName? "background" = none by decide]
  rfl

/-- A value that was written is read back. Of a cleared background the shorthand is read. -/
theorem Tidy.editable?_write (hs : s.Tidy) (hp : styles.get? p = some v) (hv : Text.trim v = v) :
    (s.write styles).editable? p =
      if v = "" then
        if p = .background then (s.get? "background").bind Background.colour? else none
      else some v := by
  unfold editable?
  rw [hs.get?_write_cssName hp, hs.get?_write_background, kept, hv]
  by_cases hempty : v = ""
  · subst hempty
    rw [if_pos rfl]
    cases p <;> rfl
  · have hv : v.isEmpty = false := by simpa using hempty
    rw [if_neg hempty, if_neg (by simp [hv]), Option.filter_some, hv]
    rfl

end InlineStyle

namespace Document

variable {d : Document} {x : Handle} {n : Nat} {o : Overrides} {p : Property} {v : String}

/-- The colour in the `background` shorthand of an element. -/
def shorthandColour? (d : Document) (x : Handle) : Option String :=
  ((d.element? x).bind (·.style.get? "background")).bind Background.colour?

/-- What the edit surface shows for an element when all edits are written. -/
def shown (d : Document) (o : Overrides) (x : Handle) : Styles :=
  let d' := (d.applyOverrides d.root o).1
  currentStyles d' x (o.get? (d'.identify x d'.root))

theorem get?_currentStyles (d : Document) (x : Handle) (recorded : Option Styles) (p : Property) :
    (currentStyles d x recorded).get? p =
      some (((d.element? x).bind (·.style.editable? p) <|> recorded.bind (·.get? p)).getD "") :=
  Styles.get?_ofList_all _ p

/-- The inline style of a descendant has the values that the table has for it. -/
theorem IsTidy.exists_element?_applyOverrides {e : Element} {r : Handle} {styles : Styles}
    (hd : d.IsTidy) (hx : x ∈ d.descendants r) (he : d.element? x = some e)
    (hstyles : o.get? (d.identify x r) = some styles) :
    ∃ e', (d.applyOverrides r o).1.element? x = some e' ∧
      ∀ name, e'.style.get? name = (e.style.write styles).get? name := by
  obtain ⟨parent, children, hn⟩ := exists_node?_of_element? he
  have hedits : d.editsAt r o (d.descendants r) x = styles := by
    rw [editsAt, if_pos hx, hstyles]
    rfl
  have hrel := hd.rel_applyOverrides r o x
  have htidy := hd.applyOverrides r o x
  rw [hedits, hn] at hrel
  cases hn' : (d.applyOverrides r o).1.node? x with
  | none => rw [hn'] at hrel; cases hrel
  | some n' =>
    rw [hn', Option.map_some, Option.rel_some_some] at hrel
    obtain ⟨parent', children', kind'⟩ := n'
    cases kind' with
    | text content => cases hrel.kind
    | element e' =>
      refine ⟨e', by rw [element?, hn'], ?_⟩
      cases hrel.kind with
      | element h =>
        exact ((htidy _ hn' e' rfl).perm_iff ((hd x _ hn e rfl).write styles)).mp h.style

theorem get?_shown (hd : d.IsTidy) (hx : x ∈ d.descendants d.root) (he : d.isElement x = true)
    (hv : o.recorded (d.identify x d.root) p = some v) (htrim : Text.trim v = v) :
    (d.shown o x).get? p =
      some (if v = "" ∧ p = .background then (d.shorthandColour? x).getD "" else v) := by
  have hs := sameShape_applyOverrides d d.root o
  obtain ⟨styles, hstyles, hp⟩ := Option.bind_eq_some_iff.mp hv
  obtain ⟨e, he⟩ := Option.isSome_iff_exists.mp he
  obtain ⟨e', he', hstyle⟩ := hd.exists_element?_applyOverrides hx he hstyles
  obtain ⟨parent, children, hn⟩ := exists_node?_of_element? he
  have hread := (InlineStyle.editable?_congr hstyle p).trans
    ((hd x _ hn e rfl).editable?_write hp htrim)
  have hroot : (d.applyOverrides d.root o).1.root = d.root := rfl
  unfold shown
  dsimp only
  rw [hroot, get?_currentStyles, he', Option.bind_some, hread, hs.identify, hstyles,
    Option.bind_some, hp, shorthandColour?, he, Option.bind_some]
  by_cases hempty : v = ""
  · subst hempty
    by_cases hback : p = .background
    · rw [if_pos rfl, if_pos hback, if_pos ⟨rfl, hback⟩]
      cases (e.style.get? "background").bind Background.colour? <;> rfl
    · rw [if_pos rfl, if_neg hback, if_neg fun h => hback h.2]
      rfl
  · rw [if_neg hempty, if_neg fun h => hempty h.1]
    rfl

/-- **What is shown is what was recorded, but for a cleared background.** In every linked document
(all that are built are linked) an element below the root shows the value that is recorded for a
property, whatever its inline style was. Only the colour of a `background` shorthand outlives the
clearing. -/
theorem get?_shown_iff (hl : d.Linked) (hd : d.IsTidy) (hx : Below d d.root (n + 1) x)
    (edits : List (Path × Property × String))
    (hv : (Overrides.ofEdits edits).recorded (d.identify x d.root) p = some v) :
    let shown := (d.shown (.ofEdits edits) x).get? p
    shown = some (if v = "" ∧ p = .background then (d.shorthandColour? x).getD "" else v) ∧
      (shown = some v ↔ ¬ (v = "" ∧ p = .background ∧ (d.shorthandColour? x).isSome = true)) := by
  intro shown
  obtain ⟨w, hw⟩ := Overrides.exists_trim_recorded_ofEdits hv
  have htrim : Text.trim v = v := by rw [hw, Text.trim_trim]
  have hvalue : shown = _ := get?_shown hd ((mem_descendants_iff hl .root).mpr ⟨n, hx⟩)
    (hx.isElement hl.isElement_root) hv htrim
  refine ⟨hvalue, ?_⟩
  rw [hvalue]
  by_cases hcleared : v = "" ∧ p = .background
  · obtain ⟨rfl, rfl⟩ := hcleared
    cases hcolour : d.shorthandColour? x with
    | none => simp
    | some colour =>
      obtain ⟨shorthand, -, hshorthand⟩ := Option.bind_eq_some_iff.mp hcolour
      simp [Background.colour?_ne_empty hshorthand]
  · rw [if_neg hcleared]
    exact iff_of_true rfl fun h => hcleared ⟨h.1, h.2.1⟩

/-- A cleared margin and a new background, each over what the markup says. -/
theorem get?_shown_iff_margin :
    let d := ofMarkup "<p style=\"margin: 4px; background: red\">a</p>" "preview"
    let edits := [(Path.mk [⟨"p", 0⟩], Property.margin, " "),
      (Path.mk [⟨"p", 0⟩], Property.background, "#fff ")]
    (d.shown (.ofEdits edits) 1).get? .margin = some "" ∧
      (d.shown (.ofEdits edits) 1).get? .background = some "#fff" := by
  intro d edits
  have hl : d.Linked := (isTree_ofMarkup _ _).toLinked
  have hd : d.IsTidy := isTidy_ofMarkup _ _
  have hx : Below d d.root 1 1 := .child .root (by decide +kernel) (by decide) (by decide +kernel)
  have hmargin := get?_shown_iff (p := .margin) (v := "") hl hd hx edits (by decide +kernel)
  have hbackground := get?_shown_iff (p := .background) (v := "#fff") hl hd hx edits
    (by decide +kernel)
  exact ⟨hmargin.2.mpr fun h => absurd h.2.1 (by decide),
    hbackground.2.mpr fun h => absurd h.1 (by decide)⟩

/-- A background that was cleared is still shown. -/
theorem cleared_background_shown :
    let d := ofMarkup "<p style=\"background: red\">a</p>" "preview"
    let o := Overrides.ofEdits [(Path.mk [⟨"p", 0⟩], Property.background, "")]
    o.recorded (d.identify 1 d.root) .background = some "" ∧
      (d.shown o 1).get? .background = some "red" := by
  decide +kernel

end Document
end Restyle
