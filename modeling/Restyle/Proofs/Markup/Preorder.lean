import Restyle.Proofs.Document.Forest
import Restyle.Proofs.Document.Outline

/-!
# Restyle.Proofs.Markup.Preorder

Documents read from markup are trees in document order (`inDocumentOrder_ofMarkup`), however malformed
the markup is: nodes are numbered in the order in which a walk down the tree meets them.

`Spans` says this of a subtree: it takes up all handles from one to another. The reader keeps
`Growing`: what is open are the nodes whose subtrees reach to the last handle, innermost first, so
that a new node can only come last.
-/

namespace Restyle
namespace Document

variable {d d' : Document} {hs hs' : List Handle} {h p x i j k fuel : Nat} {kind : NodeKind}

/-! ## Walks -/

/-- The nodes at and below `h` down to a given depth, each before those below it. -/
def preorderWithin (d : Document) : Nat → Handle → List Handle
  | 0, _ => []
  | depth + 1, h => h :: (d.children h).flatMap (d.preorderWithin depth)

/-- The nodes at and below `h`, each before those below it. -/
def preorder (d : Document) (h : Handle) : List Handle := d.preorderWithin d.size h

/-- One tree, in which every node but the root has an earlier one for a parent, whose nodes are
numbered in document order, and whose texts and void elements are leaves. -/
structure InDocumentOrder (d : Document) : Prop extends IsTree d where
  children_increasing : ∀ h, (d.children h).Pairwise (· < ·)
  children_text : ∀ h, d.isElement h = false → d.children h = []
  children_void : ∀ h tag, d.tag? h = some tag → tag ∈ Markup.voidTags → d.children h = []
  below_root : ∀ h, h < d.size → ∃ n, d.ancestor? n h = some d.root
  preorder_root : d.preorder d.root = List.range d.size
  descendants_root : d.descendants d.root =
    (List.range d.size).filter fun h => h != d.root && d.isElement h

/-! ## Subtrees without gaps -/

/-- Nodes and all below them take up the handles from `i` to before `j`, in document order. -/
inductive Spans (d : Document) : List Handle → Nat → Nat → Prop where
  | nil {i : Nat} : Spans d [] i i
  | cons {i j k : Nat} {hs : List Handle} :
      Spans d (d.children i) (i + 1) j → Spans d hs j k → Spans d (i :: hs) i k

namespace Spans

theorem le (h : Spans d hs i j) : i ≤ j := by
  induction h with
  | nil => exact Nat.le_refl _
  | cons _ _ ihc ih => omega

theorem append (h : Spans d hs i j) (h' : Spans d hs' j k) : Spans d (hs ++ hs') i k := by
  induction h with
  | nil => exact h'
  | cons hc _ _ ih => exact .cons hc (ih h')

/-- Only the child lists of the nodes themselves matter. -/
theorem of_children (h : Spans d hs i j)
    (heq : ∀ x, i ≤ x → x < j → d'.children x = d.children x) : Spans d' hs i j := by
  induction h with
  | nil => exact .nil
  | @cons i j k hs hc hr ihc ih =>
    have hij := hc.le
    have hjk := hr.le
    refine .cons (j := j) ?_ (ih fun x hx hlt => heq x (by omega) hlt)
    rw [heq i (Nat.le_refl i) (by omega)]
    exact ihc fun x hx hlt => heq x (by omega) (by omega)

theorem unique (h : Spans d hs i j) (h' : Spans d hs i k) : j = k := by
  induction h generalizing k with
  | nil => cases h'; rfl
  | cons _ _ ihc ih =>
    cases h' with
    | cons hc hr =>
      obtain rfl := ihc hc
      exact ih hr

theorem bounds (h : Spans d hs i j) (hx : x ∈ hs) : i ≤ x ∧ x < j := by
  induction h with
  | nil => cases hx
  | cons hc hr _ ih =>
    have hij := hc.le
    have hjk := hr.le
    rcases List.mem_cons.mp hx with rfl | hx
    · omega
    · have := ih hx
      omega

theorem increasing (h : Spans d hs i j) : hs.Pairwise (· < ·) := by
  induction h with
  | nil => exact .nil
  | cons hc hr _ ih =>
    exact .cons (fun x hx => Nat.lt_of_lt_of_le hc.le (hr.bounds hx).1) ih

/-- What is below a node of the span is a span inside of it. -/
theorem inner (h : Spans d hs i j) (hi : i ≤ x) (hj : x < j) :
    ∃ k, k ≤ j ∧ Spans d (d.children x) (x + 1) k := by
  induction h with
  | nil => omega
  | @cons i j k hs hc hr ihc ih =>
    have hjk := hr.le
    by_cases hxi : x = i
    · exact ⟨j, hjk, hxi ▸ hc⟩
    · by_cases hxj : x < j
      · obtain ⟨m, hm, hs⟩ := ihc (by omega) hxj
        exact ⟨m, by omega, hs⟩
      · exact ih (by omega) hj

/-- A walk along a span meets all its handles in order. -/
theorem flatMap_preorderWithin (h : Spans d hs i j) (hj : j ≤ d.size) (hfuel : d.size ≤ fuel + i) :
    hs.flatMap (d.preorderWithin fuel) = List.range' i (j - i) := by
  induction h generalizing fuel with
  | nil => simp
  | @cons i j k hs hc hr ihc ih =>
    have hij := hc.le
    have hjk := hr.le
    obtain ⟨fuel, rfl⟩ : ∃ n, fuel = n + 1 := ⟨fuel - 1, by omega⟩
    rw [List.flatMap_cons, preorderWithin, ihc (by omega) (by omega), ih hj (by omega)]
    rw [show k - i = 1 + (j - (i + 1)) + (k - j) by omega, ← List.range'_append_1,
      ← List.range'_append_1]
    have hj : i + (1 + (j - (i + 1))) = j := by omega
    rw [hj]
    rfl

/-- The elements among them are the descendants. -/
theorem flatMap_descendantsWithin (h : Spans d hs i j) (hleaf : ∀ h, d.isElement h = false →
    d.children h = []) (hj : j ≤ d.size) (hfuel : d.size ≤ fuel + i) :
    ((hs.filter d.isElement).flatMap fun c => c :: d.descendantsWithin fuel c) =
      (List.range' i (j - i)).filter d.isElement := by
  induction h generalizing fuel with
  | nil => simp
  | @cons i j k hs hc hr ihc ih =>
    have hij := hc.le
    have hjk := hr.le
    obtain ⟨fuel, rfl⟩ : ∃ n, fuel = n + 1 := ⟨fuel - 1, by omega⟩
    have hrange : List.range' i (k - i) =
        i :: (List.range' (i + 1) (j - (i + 1)) ++ List.range' j (k - j)) := by
      rw [show k - i = (j - (i + 1) + (k - j)) + 1 by omega, List.range'_succ,
        ← List.range'_append_1, show i + 1 + (j - (i + 1)) = j by omega]
    rw [hrange, List.filter_cons, List.filter_cons, List.filter_append]
    cases he : d.isElement i with
    | true =>
      rw [if_pos rfl, if_pos rfl, List.flatMap_cons, descendantsWithin, elementChildren,
        ihc (by omega) (by omega), ih hj (by omega)]
      rfl
    | false =>
      -- a text has nothing below it
      rw [hleaf i he] at hc
      cases hc
      simp only [Bool.false_eq_true, if_false, Nat.sub_self, List.range'_zero, List.filter_nil,
        List.nil_append]
      exact ih hj (by omega)

end Spans

/-! ## A new node comes last -/

theorem children_add (hp : d.isElement p = true) : (d.add p kind).children x =
    if x = p then d.children p ++ [d.size] else d.children x := by
  have hnew : d.parent? d.size = none := by rw [parent?, node?_size]; rfl
  rw [add, children_append (canAppend_create hp hnew), children_create, children_create]

theorem children_size : d.children d.size = [] := by
  rw [children, node?_size]

theorem tag?_add_of_lt (hx : x < d.size) : (d.add p kind).tag? x = d.tag? x := by
  rw [tag?, tag?, add, element?_append, element?, element?, node?_create,
    if_neg (Nat.ne_of_lt hx)]

/-- A node whose subtree reaches to the last handle gets one more child there. -/
theorem Spans.add_self (hp : d.isElement p = true) (h : Spans d (d.children p) (p + 1) d.size) :
    Spans (d.add p kind) ((d.add p kind).children p) (p + 1) (d.size + 1) := by
  have hlt : p < d.size := lt_size_of_isElement hp
  rw [children_add hp, if_pos rfl]
  refine (h.of_children fun x hx _ => ?_).append (.cons (j := d.size + 1) ?_ .nil)
  · rw [children_add hp, if_neg (Nat.ne_of_gt hx)]
  · rw [children_add hp, if_neg (Nat.ne_of_gt hlt), children_size]
    exact .nil

/-- A span that reaches to the last handle grows by a node that is added inside of it, below a node
whose subtree reaches to the last handle. -/
theorem Spans.add (hp : d.isElement p = true) (h : Spans d hs i j) (hj : j = d.size) (hi : i ≤ p)
    (hlast : Spans d (d.children p) (p + 1) d.size) :
    Spans (d.add p kind) hs i (d.size + 1) := by
  have hlt : p < d.size := lt_size_of_isElement hp
  induction h with
  | nil => omega
  | @cons i j k hs hc hr ihc ih =>
    have hij := hc.le
    have hjk := hr.le
    by_cases hpj : p < j
    · -- the subtree of `i` holds that of `p`, so it reaches to the last handle as well
      obtain rfl : j = d.size := by
        by_cases hpi : p = i
        · exact hc.unique (hpi ▸ hlast)
        · obtain ⟨m, hm, hinner⟩ := hc.inner (by omega) hpj
          have := hlast.unique hinner
          omega
      have hnil : hs = [] := by
        cases hr with
        | nil => rfl
        | cons hc' hr' =>
          have := hc'.le
          have := hr'.le
          omega
      subst hnil
      refine .cons (j := d.size + 1) ?_ .nil
      by_cases hpi : p = i
      · subst hpi
        exact hlast.add_self hp
      · rw [children_add hp, if_neg (Ne.symm hpi)]
        exact ihc rfl (by omega)
    · refine .cons (j := j) ?_ (ih hj (by omega))
      rw [children_add hp, if_neg (by omega)]
      exact hc.of_children fun x _ hx => by rw [children_add hp, if_neg (by omega)]

/-- Climbing from a node of a tree ends at the root. -/
theorem IsTree.exists_ancestor? (ht : d.IsTree) (hlt : h < d.size) :
    ∃ n, d.ancestor? n h = some d.root := by
  induction h using Nat.strongRecOn with
  | _ h ih =>
    by_cases hroot : h = d.root
    · exact ⟨0, congrArg some hroot⟩
    · obtain ⟨p, hp, hph⟩ := ht.exists_parent hroot hlt
      obtain ⟨n, hn⟩ := ih p hph (Nat.lt_trans hph hlt)
      exact ⟨n + 1, ancestor?_succ_of_child hp hn⟩

end Document

namespace Markup

open Document

variable {d : Document} {opened : List Handle} {h p : Nat} {kind : NodeKind}

/-- A document that is being read: the open elements are those whose subtrees reach to the last
handle, innermost first. -/
structure Growing (d : Document) (opened : List Handle) : Prop extends Building 0 d opened where
  spans : Spans d [0] 0 d.size
  last : ∀ h : Nat, h ∈ 0 :: opened → Spans d (d.children h) (h + 1) d.size
  innermost : opened.Pairwise (· > ·)
  open_not_void : ∀ h ∈ 0 :: opened, ∀ tag, d.tag? h = some tag → tag ∉ voidTags
  void_empty : ∀ h tag, d.tag? h = some tag → tag ∈ voidTags → d.children h = []

/-- An element whose tag is not void in the markup is not void. -/
theorem not_mem_voidTags {c : Char} {cs rest : List Char} {t : Tag}
    (hnext : Piece.next c cs = (.tag t, rest))
    (hvoid : ¬ (t.selfClosing || voidTags.contains t.name) = true) :
    t.element.tag ∉ voidTags := by
  rw [Tag.tag_element, Tag.lower_next hnext]
  intro hmem
  exact hvoid (by rw [List.contains_iff_mem.mpr hmem, Bool.or_true])

namespace Growing

/-- No open element comes after the current one. -/
theorem le_current (hg : Growing d opened) (hh : h ∈ 0 :: opened) : h ≤ opened.headD 0 := by
  rcases List.mem_cons.mp hh with rfl | hh
  · exact Nat.zero_le _
  · cases hopened : opened with
    | nil => rw [hopened] at hh; cases hh
    | cons x rest =>
      rw [hopened] at hh
      have hlater := hg.innermost
      rw [hopened] at hlater
      rcases List.mem_cons.mp hh with rfl | hh
      · exact Nat.le_refl _
      · exact Nat.le_of_lt ((List.pairwise_cons.mp hlater).1 h hh)

theorem current_mem (opened : List Handle) : opened.headD 0 ∈ 0 :: opened := by
  cases opened with
  | nil => exact List.mem_cons_self ..
  | cons x rest => exact List.mem_cons_of_mem _ (List.mem_cons_self ..)

theorem add (hg : Growing d opened) (hk : ∀ e, kind = .element e → Tag.IsName e.tag) :
    Growing (d.add (opened.headD 0) kind) opened := by
  have hp := hg.current
  have hmem := current_mem opened
  have hle {h : Nat} := hg.le_current (h := h)
  generalize opened.headD 0 = p at hp hmem hle ⊢
  have hlast := hg.last p hmem
  have hopen (h : Nat) (hh : h ∈ 0 :: opened) : h < d.size := lt_size_of_isElement (hg.isElement h hh)
  refine { hg.toBuilding.add hp hk with
    spans := ?_, last := ?_, innermost := hg.innermost, open_not_void := ?_, void_empty := ?_ }
  · rw [size_add]
    exact hg.spans.add hp rfl (Nat.zero_le p) hlast
  · intro h hh
    rw [size_add]
    by_cases hhp : h = p
    · subst hhp
      exact hlast.add_self hp
    · have := hle hh
      rw [children_add hp, if_neg hhp]
      exact (hg.last h hh).add hp rfl (by omega) hlast
  · intro h hh tag htag
    rw [tag?_add_of_lt (hopen h hh)] at htag
    exact hg.open_not_void h hh tag htag
  · intro h tag htag hvoid
    by_cases hlt : h < d.size
    · rw [tag?_add_of_lt hlt] at htag
      have hhp : h ≠ p := by
        rintro rfl
        exact hg.open_not_void h hmem tag htag hvoid
      rw [children_add hp, if_neg hhp]
      exact hg.void_empty h tag htag hvoid
    · have hnone : d.node? h = none := by simpa [lt_size_iff] using hlt
      rw [children_add hp, if_neg fun heq : h = p => hlt (heq ▸ hopen p hmem), children, hnone]

theorem addText (hg : Growing d opened) (content : List Char) :
    Growing (addText d (opened.headD 0) content) opened := by
  unfold Markup.addText
  split
  · exact hg
  · exact hg.add fun _ he => by cases he

/-- A new element that may have contents is open. -/
theorem push {e : Element} (hg : Growing d opened) (hname : Tag.IsName e.tag)
    (hvoid : e.tag ∉ voidTags) :
    Growing (d.add (opened.headD 0) (.element e)) (d.size :: opened) := by
  have hadd : Growing (d.add (opened.headD 0) (.element e)) opened :=
    hg.add fun _ he => by cases he; exact hname
  have hp := hg.current
  have hlt : opened.headD 0 < d.size := lt_size_of_isElement hp
  have hself : (d.add (opened.headD 0) (.element e)).tag? d.size = some e.tag := by
    rw [tag?, element?, node?_add_size hp]
    rfl
  refine { hadd.toBuilding.push (isElement_add_size hp e) with
    spans := hadd.spans, last := ?_, innermost := ?_, open_not_void := ?_,
    void_empty := hadd.void_empty }
  · intro h hh
    rcases List.mem_cons.mp hh with rfl | hh
    · exact hadd.last 0 (List.mem_cons_self ..)
    · rcases List.mem_cons.mp hh with rfl | hh
      · rw [children_add hp, if_neg (Nat.ne_of_gt hlt), children_size, size_add]
        exact .nil
      · exact hadd.last h (List.mem_cons_of_mem _ hh)
  · refine .cons (fun h hh => ?_) hadd.innermost
    exact lt_size_of_isElement (hg.isElement h (List.mem_cons_of_mem _ hh))
  · intro h hh tag htag
    rcases List.mem_cons.mp hh with rfl | hh
    · exact hadd.open_not_void 0 (List.mem_cons_self ..) tag htag
    · rcases List.mem_cons.mp hh with rfl | hh
      · rw [hself] at htag
        cases htag
        exact hvoid
      · exact hadd.open_not_void h (List.mem_cons_of_mem _ hh) tag htag

/-- Closing elements leaves the outer ones open. -/
theorem of_suffix {outer : List Handle} (hg : Growing d opened) (hs : outer <:+ opened) :
    Growing d outer := by
  have hmem {h : Handle} (hh : h ∈ 0 :: outer) : h ∈ 0 :: opened := by
    rcases List.mem_cons.mp hh with rfl | hh
    · exact List.mem_cons_self ..
    · exact List.mem_cons_of_mem _ (hs.mem hh)
  exact { hg with
    isElement := fun h hh => hg.isElement h (hmem hh)
    last := fun h hh => hg.last h (hmem hh)
    innermost := hg.innermost.sublist hs.sublist
    open_not_void := fun h hh => hg.open_not_void h (hmem hh) }

theorem readInto {cs : List Char} (hg : Growing d opened) :
    ∃ opened', Growing (readInto 0 d opened cs) opened' := by
  fun_induction Markup.readInto 0 d opened cs with
  | case1 d opened => exact ⟨opened, hg⟩
  | case2 d opened c cs current content rest _ ih => exact ih (hg.addText _)
  | case3 d opened c cs rest _ ih => exact ih hg
  | case4 d opened c cs t rest _ _ ih => exact ih (hg.of_suffix (close_suffix ..))
  | case5 d opened c cs current t rest hnext _ d' e heq d'' _ ih =>
    cases heq
    exact ih (hg.add fun _ he => by cases he; exact Tag.isName_element (Tag.isName_next hnext))
  | case6 d opened c cs current t rest hnext _ d' e heq d'' hvoid _ content after _ ih =>
    cases heq
    have hpush := hg.push (Tag.isName_element (Tag.isName_next hnext)) (not_mem_voidTags hnext hvoid)
    exact ih ((hpush.addText content).of_suffix (List.suffix_cons ..))
  | case7 d opened c cs current t rest hnext _ d' e heq d'' hvoid _ ih =>
    cases heq
    exact ih (hg.push (Tag.isName_element (Tag.isName_next hnext)) (not_mem_voidTags hnext hvoid))

end Growing
end Markup

namespace Document

/-- Reading begins with the root alone. -/
theorem growing_withRoot (cls : String) : Markup.Growing (withRoot "div" cls) [] := by
  have htag : ∀ h tag, (withRoot "div" cls).tag? h = some tag → tag = "div" := by
    intro h tag htag
    rcases h with _ | h
    · have hroot : (withRoot "div" cls).tag? 0 = some (Text.lower "div") := by
        unfold withRoot
        dsimp only
        split <;> rfl
      rw [hroot] at htag
      cases htag
      decide
    · simp [withRoot, tag?, element?, node?] at htag
  have hroot : (withRoot "div" cls).children 0 = [] := rfl
  refine { building_withRoot cls with
    spans := .cons (j := 1) (hroot ▸ .nil) .nil, last := ?_, innermost := .nil, open_not_void := ?_,
    void_empty := ?_ }
  · intro h hh
    rw [List.mem_singleton.mp hh]
    exact hroot ▸ .nil
  · intro h _ tag ht
    rw [htag h tag ht]
    decide
  · intro h tag ht hvoid
    rw [htag h tag ht] at hvoid
    exact absurd hvoid (by decide)

/-- **Documents read from markup are trees in document order**, for every markup. -/
theorem inDocumentOrder_ofMarkup (markup cls : String) : (ofMarkup markup cls).InDocumentOrder := by
  obtain ⟨opened, hg⟩ : ∃ opened, Markup.Growing (ofMarkup markup cls) opened :=
    (growing_withRoot cls).readInto
  generalize ofMarkup markup cls = d at hg
  have ht := hg.isTree
  have hpos : 0 < d.size := lt_size_of_isElement ht.isElement_root
  have hleaf : ∀ h, d.isElement h = false → d.children h = [] := by
    intro h he
    refine List.eq_nil_iff_forall_not_mem.mpr fun c hc => ?_
    rw [ht.isElement_of_parent? (ht.mem_children_iff.mp hc)] at he
    cases he
  have hroot : Spans d (d.children 0) 1 d.size := hg.last 0 (List.mem_cons_self ..)
  refine { ht with
    children_increasing := fun h => ?_
    children_text := hleaf
    children_void := hg.void_empty
    below_root := fun h => ht.exists_ancestor?
    preorder_root := ?_
    descendants_root := ?_ }
  · by_cases hlt : h < d.size
    · obtain ⟨k, -, hspans⟩ := hg.spans.inner (Nat.zero_le h) hlt
      exact hspans.increasing
    · have hnone : d.node? h = none := by simpa [lt_size_iff] using hlt
      rw [children, hnone]
      exact .nil
  · have h := hg.spans.flatMap_preorderWithin (Nat.le_refl _) (Nat.le_refl (d.size + 0))
    rw [List.flatMap_singleton] at h
    rw [preorder, List.range_eq_range']
    exact h
  · obtain ⟨n, hn⟩ := Nat.exists_eq_add_one.mpr hpos
    have h := hroot.flatMap_descendantsWithin hleaf (Nat.le_refl _) (Nat.le_of_eq hn)
    have hrange : List.range d.size = 0 :: List.range' 1 (d.size - 1) := by
      rw [List.range_eq_range', hn]
      rfl
    rw [descendants, hn, descendantsWithin, ← hn, elementChildren, root, h, hrange,
      List.filter_cons, if_neg (by simp)]
    -- the root stands at the head of the range and nowhere else
    refine List.filter_congr fun x hx => ?_
    have hne : x ≠ 0 := Nat.ne_of_gt (List.mem_range'_1.mp hx).1
    simp [hne]

end Document
end Restyle
