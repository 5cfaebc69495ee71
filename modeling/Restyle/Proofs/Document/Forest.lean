import Restyle.Document.Locate
import Restyle.Proofs.Markup.Tree
import Restyle.Stylesheet.Cascade

/-!
# Restyle.Proofs.Document.Forest

Documents put together in any order. `Document.run` creates and attaches nodes and reads markup, with
any handles; whole subtrees may hang free for a while.

* `Linked.count_children`: a node is once in the child list of its parent, and in no other.
* `forest_run_iff`: the links make a forest just as long as no node is attached below itself. Then
  the walks up and down end, from every handle.
* `circle_not_forest`: attaching does not prevent that, and the walk up then goes round for ever.
-/

namespace Restyle
namespace Document

variable {d d' : Document} {h p c x r : Handle} {kind : NodeKind} {m n fuel fuel' : Nat}

/-! ## Climbing -/

/-- The node that is `n` links above `h`. -/
def ancestor? (d : Document) : Nat → Handle → Option Handle
  | 0, h => some h
  | n + 1, h => (d.parent? h).bind (d.ancestor? n)

theorem ancestor?_add (m n : Nat) (h : Handle) :
    d.ancestor? (m + n) h = (d.ancestor? m h).bind (d.ancestor? n) := by
  induction m generalizing h with
  | zero => rw [Nat.zero_add]; rfl
  | succ m ih =>
    rw [Nat.succ_add, ancestor?, ancestor?]
    cases d.parent? h with
    | none => rfl
    | some p => exact ih p

theorem ancestor?_eq_none_of_le (hn : d.ancestor? m h = none) (hle : m ≤ n) :
    d.ancestor? n h = none := by
  obtain ⟨k, rfl⟩ := Nat.exists_eq_add_of_le hle
  rw [ancestor?_add, hn]
  rfl

/-- The parent's ancestors are one link further up. -/
theorem ancestor?_of_parent? (hp : d.parent? h = some p) :
    d.ancestor? (n + 1) h = d.ancestor? n p := by
  rw [ancestor?, hp]
  rfl

theorem ancestor?_succ_of_child (hp : d.parent? c = some h) (hr : d.ancestor? n h = some r) :
    d.ancestor? (n + 1) c = some r := by
  rw [ancestor?_of_parent? hp, hr]

/-- From a node that is above itself climbing does not end. -/
theorem ancestor?_ne_none_of_circle (hc : d.ancestor? (n + 1) h = some h) (k : Nat) :
    d.ancestor? k h ≠ none := by
  have hround : d.ancestor? (k * (n + 1)) h = some h := by
    induction k with
    | zero => rw [Nat.zero_mul]; rfl
    | succ k ih => rw [Nat.succ_mul, ancestor?_add, ih, Option.bind_some, hc]
  intro hnone
  rw [ancestor?_eq_none_of_le hnone (Nat.le_mul_of_pos_right k n.succ_pos)] at hround
  cases hround

theorem ancestor?_congr (hp : ∀ x, d'.parent? x = d.parent? x) (n : Nat) (h : Handle) :
    d'.ancestor? n h = d.ancestor? n h := by
  induction n generalizing h with
  | zero => rfl
  | succ n ih => rw [ancestor?, ancestor?, hp, funext ih]

/-- Links that are kept lead to the same ancestors. -/
theorem ancestor?_mono (hkept : ∀ x p, d.parent? x = some p → d'.parent? x = some p)
    (hr : d.ancestor? n h = some r) : d'.ancestor? n h = some r := by
  induction n generalizing h with
  | zero => exact hr
  | succ n ih =>
    rw [ancestor?] at hr
    obtain ⟨p, hp, hr⟩ := Option.bind_eq_some_iff.mp hr
    rw [ancestor?_of_parent? (hkept h p hp)]
    exact ih hr

/-! ## Forests -/

theorem lt_size_of_parent? (hp : d.parent? h = some p) : h < d.size := by
  rw [lt_size_iff]
  cases hn : d.node? h with
  | none => rw [parent?, hn] at hp; cases hp
  | some n => rfl

/-- A linked document in which climbing ends, whatever the handle it begins from. -/
structure IsForest (d : Document) : Prop extends Linked d where
  climbing_ends : ∀ h, ∃ n, d.ancestor? n h = none

/-- A node is once in the child list of its parent, and in no other list. -/
theorem Linked.count_children (hl : d.Linked) (p c : Handle) :
    (d.children p).count c = if d.parent? c = some p then 1 else 0 := by
  rw [(hl.children_nodup p).count]
  by_cases hp : d.parent? c = some p
  · rw [if_pos (hl.mem_children_iff.mpr hp), if_pos hp]
  · rw [if_neg fun hc => hp (hl.mem_children_iff.mp hc), if_neg hp]

theorem IsForest.withRoot (tag cls : String) : (withRoot tag cls).IsForest where
  toLinked := .withRoot tag cls
  climbing_ends h := by
    refine ⟨1, ?_⟩
    have hparent : (Document.withRoot tag cls).parent? h = none := by
      rcases h with _ | h
      · rfl
      · simp [parent?, node?, Document.withRoot]
    rw [ancestor?, hparent]
    rfl

namespace IsForest

/-- No node of a forest is above itself. -/
theorem ancestor?_ne_self (hf : d.IsForest) (n : Nat) (h : Handle) :
    d.ancestor? (n + 1) h ≠ some h := by
  intro hc
  obtain ⟨k, hk⟩ := hf.climbing_ends h
  exact ancestor?_ne_none_of_circle hc k hk

/-- The nodes on the way up are different, so that there are no more of them than nodes. -/
theorem lt_size_of_ancestor? (hf : d.IsForest) (hlt : h < d.size) (hr : d.ancestor? n h = some r) :
    n < d.size := by
  obtain ⟨l, hlen, hnodup, hl⟩ : ∃ l : List Handle, l.length = n + 1 ∧ l.Nodup ∧
      ∀ x ∈ l, x < d.size ∧ ∃ k, d.ancestor? k h = some x := by
    induction n generalizing h with
    | zero =>
      refine ⟨[h], rfl, by simp, fun x hx => ?_⟩
      rw [List.mem_singleton.mp hx]
      exact ⟨hlt, 0, rfl⟩
    | succ n ih =>
      obtain ⟨p, hp, hr⟩ := Option.bind_eq_some_iff.mp hr
      obtain ⟨l, hlen, hnodup, hl⟩ := ih (lt_size_of_isElement (hf.isElement_of_parent? hp)) hr
      refine ⟨h :: l, congrArg Nat.succ hlen, List.nodup_cons.mpr ⟨?_, hnodup⟩, fun x hx => ?_⟩
      · intro hmem
        obtain ⟨-, k, hk⟩ := hl h hmem
        exact hf.ancestor?_ne_self k h (ancestor?_succ_of_child hp hk)
      · rcases List.mem_cons.mp hx with rfl | hx
        · exact ⟨hlt, 0, rfl⟩
        · obtain ⟨hx, k, hk⟩ := hl x hx
          exact ⟨hx, k + 1, ancestor?_succ_of_child hp hk⟩
  have hsub : l ⊆ List.range d.size := fun x hx => List.mem_range.mpr (hl x hx).1
  have hle := hnodup.length_le_of_subset hsub
  rw [hlen, List.length_range] at hle
  exact hle

/-- No climb takes as many steps as there are nodes. -/
theorem ancestor?_size (hf : d.IsForest) (h : Handle) : d.ancestor? d.size h = none := by
  cases hr : d.ancestor? d.size h with
  | none => rfl
  | some r =>
    by_cases hlt : h < d.size
    · exact absurd (hf.lt_size_of_ancestor? hlt hr) (Nat.lt_irrefl _)
    · -- a handle of no node has no parent
      have hnone : d.node? h = none := by simpa [lt_size_iff] using hlt
      have hpos := Nat.zero_lt_of_lt (lt_size_of_isElement hf.isElement_root)
      obtain ⟨n, hn⟩ := Nat.exists_eq_add_one.mpr hpos
      rw [hn, ancestor?, parent?, hnone] at hr
      cases hr

/-- Every node is below some node without a parent. -/
theorem exists_top (hf : d.IsForest) (h : Handle) :
    ∃ n r, d.ancestor? n h = some r ∧ d.parent? r = none := by
  obtain ⟨n, hn⟩ := hf.climbing_ends h
  induction n generalizing h with
  | zero => cases hn
  | succ n ih =>
    cases hp : d.parent? h with
    | none => exact ⟨0, h, rfl, hp⟩
    | some p =>
      rw [ancestor?_of_parent? hp] at hn
      obtain ⟨m, r, hr, htop⟩ := ih p hn
      exact ⟨m + 1, r, ancestor?_succ_of_child hp hr, htop⟩

end IsForest

/-- Climbing a tree comes to earlier nodes only. -/
theorem IsTree.isForest (ht : d.IsTree) : d.IsForest where
  toLinked := ht.toLinked
  climbing_ends h := by
    induction h using Nat.strongRecOn with
    | _ h ih =>
      cases hp : d.parent? h with
      | none => exact ⟨1, by rw [ancestor?, hp]; rfl⟩
      | some p =>
        have hne : h ≠ d.root := by
          rintro rfl
          rw [ht.parent?_root] at hp
          cases hp
        obtain ⟨q, hq, hlt⟩ := ht.exists_parent hne (lt_size_of_parent? hp)
        obtain ⟨n, hn⟩ := ih q hlt
        exact ⟨n + 1, by rw [ancestor?_of_parent? hq, hn]⟩

/-! ## Walks end -/

/-- As many steps as there are links above a node are enough to climb from it. -/
theorem climb_eq_of_ancestor? (stop : Handle → Bool) (hn : d.ancestor? n h = none)
    (hfuel : n ≤ fuel) (hfuel' : n ≤ fuel') (below : List Step) :
    d.climb stop fuel h below = d.climb stop fuel' h below := by
  induction n generalizing h fuel fuel' below with
  | zero => cases hn
  | succ n ih =>
    obtain ⟨fuel, rfl⟩ : ∃ k, fuel = k + 1 := ⟨fuel - 1, by omega⟩
    obtain ⟨fuel', rfl⟩ : ∃ k, fuel' = k + 1 := ⟨fuel' - 1, by omega⟩
    rw [climb, climb]
    cases hp : d.parent? h with
    | none => rfl
    | some p =>
      rw [ancestor?_of_parent? hp] at hn
      cases d.tag? h with
      | none => rfl
      | some tag =>
        dsimp only
        rw [ih hn (Nat.le_of_succ_le_succ hfuel) (Nat.le_of_succ_le_succ hfuel')]

theorem resolve_eq_of_ancestor? (sheet : Stylesheet.Sheet) (property : String)
    (hn : d.ancestor? n h = none) (hfuel : n ≤ fuel) (hfuel' : n ≤ fuel') :
    sheet.resolve d property fuel h = sheet.resolve d property fuel' h := by
  induction n generalizing h fuel fuel' with
  | zero => cases hn
  | succ n ih =>
    obtain ⟨fuel, rfl⟩ : ∃ k, fuel = k + 1 := ⟨fuel - 1, by omega⟩
    obtain ⟨fuel', rfl⟩ : ∃ k, fuel' = k + 1 := ⟨fuel' - 1, by omega⟩
    rw [Stylesheet.Sheet.resolve, Stylesheet.Sheet.resolve]
    cases hp : d.parent? h with
    | none => rfl
    | some p =>
      rw [ancestor?_of_parent? hp] at hn
      dsimp only
      rw [ih hn (Nat.le_of_succ_le_succ hfuel) (Nat.le_of_succ_le_succ hfuel')]

namespace IsForest

/-- A node with many links above it has few below it. -/
theorem exists_eq_add_one (hf : d.IsForest) (hr : d.ancestor? n h = some r)
    (hfuel : d.size ≤ fuel + n) : ∃ k, fuel = k + 1 := by
  refine Nat.exists_eq_add_one.mpr (Nat.pos_of_ne_zero ?_)
  rintro rfl
  rw [Nat.zero_add] at hfuel
  rw [ancestor?_eq_none_of_le (hf.ancestor?_size h) hfuel] at hr
  cases hr

theorem descendantsWithin_eq (hf : d.IsForest) (hr : d.ancestor? n h = some r)
    (hfuel : d.size ≤ fuel + n) (hfuel' : d.size ≤ fuel' + n) :
    d.descendantsWithin fuel h = d.descendantsWithin fuel' h := by
  induction fuel generalizing n h fuel' with
  | zero =>
    obtain ⟨k, hk⟩ := hf.exists_eq_add_one hr hfuel
    cases hk
  | succ fuel ih =>
    obtain ⟨fuel', rfl⟩ := hf.exists_eq_add_one hr hfuel'
    rw [descendantsWithin, descendantsWithin, List.flatMap_def, List.flatMap_def]
    refine congrArg List.flatten (List.map_congr_left fun c hc => ?_)
    have hp := hf.mem_children_iff.mp (List.mem_filter.mp hc).1
    exact congrArg (c :: ·) (ih (ancestor?_succ_of_child hp hr) (by omega) (by omega))

theorem textWithin_eq (hf : d.IsForest) (hr : d.ancestor? n h = some r)
    (hfuel : d.size ≤ fuel + n) (hfuel' : d.size ≤ fuel' + n) :
    d.textWithin fuel h = d.textWithin fuel' h := by
  induction fuel generalizing n h fuel' with
  | zero =>
    obtain ⟨k, hk⟩ := hf.exists_eq_add_one hr hfuel
    cases hk
  | succ fuel ih =>
    obtain ⟨fuel', rfl⟩ := hf.exists_eq_add_one hr hfuel'
    rw [textWithin, textWithin]
    cases hn : d.node? h with
    | none => rfl
    | some node =>
      obtain ⟨parent, children, kind⟩ := node
      cases kind with
      | text content => rfl
      | element e =>
        refine congrArg String.join (List.map_congr_left fun c hc => ?_)
        have hc : c ∈ d.children h := by rwa [Document.children, hn]
        have hp := hf.mem_children_iff.mp hc
        exact ih (ancestor?_succ_of_child hp hr) (by omega) (by omega)

end IsForest

/-- The walks from a node end: more steps than there are nodes find nothing more. -/
structure WalksEnd (d : Document) (h : Handle) : Prop where
  climb : ∀ stop below fuel, d.size ≤ fuel → d.climb stop fuel h below = d.climb stop d.size h below
  descendants : ∀ fuel, d.size ≤ fuel → d.descendantsWithin fuel h = d.descendants h
  textContent : ∀ fuel, d.size ≤ fuel → d.textWithin fuel h = d.textContent h
  resolve : ∀ (sheet : Stylesheet.Sheet) (property : String) (fuel : Nat), d.size ≤ fuel →
    sheet.resolve d property fuel h = sheet.resolve d property d.size h

theorem IsForest.walksEnd (hf : d.IsForest) (h : Handle) : d.WalksEnd h where
  climb stop below _ hfuel :=
    climb_eq_of_ancestor? stop (hf.ancestor?_size h) hfuel (Nat.le_refl _) below
  descendants _ hfuel := hf.descendantsWithin_eq (n := 0) rfl hfuel (Nat.le_refl _)
  textContent _ hfuel := hf.textWithin_eq (n := 0) rfl hfuel (Nat.le_refl _)
  resolve sheet property _ hfuel :=
    resolve_eq_of_ancestor? sheet property (hf.ancestor?_size h) hfuel (Nat.le_refl _)

/-! ## Descendants -/

/-- The last link of a climb. -/
theorem ancestor?_succ_eq_some_iff : d.ancestor? (n + 1) h = some r ↔
    ∃ c, d.ancestor? n h = some c ∧ d.parent? c = some r := by
  rw [ancestor?_add, Option.bind_eq_some_iff]
  refine exists_congr fun c => and_congr_right fun _ => ?_
  rw [ancestor?]
  cases d.parent? c with
  | none => exact Iff.rfl
  | some p => exact Iff.rfl

theorem Linked.mem_elementChildren_iff (hl : d.Linked) :
    c ∈ d.elementChildren r ↔ d.parent? c = some r ∧ d.isElement c = true := by
  rw [elementChildren, List.mem_filter, hl.mem_children_iff]

/-- Descendants are the elements from which climbing comes to `r`. -/
theorem Linked.mem_descendantsWithin_iff (hl : d.Linked) : x ∈ d.descendantsWithin fuel r ↔
    ∃ n < fuel, d.ancestor? (n + 1) x = some r ∧ d.isElement x = true := by
  induction fuel generalizing r with
  | zero => simp [descendantsWithin]
  | succ fuel ih =>
    rw [descendantsWithin, List.mem_flatMap]
    constructor
    · rintro ⟨c, hc, hx⟩
      obtain ⟨hparent, he⟩ := hl.mem_elementChildren_iff.mp hc
      rcases List.mem_cons.mp hx with rfl | hx
      · exact ⟨0, Nat.succ_pos _, ancestor?_succ_eq_some_iff.mpr ⟨x, rfl, hparent⟩, he⟩
      · obtain ⟨n, hn, hup, hx⟩ := ih.mp hx
        exact ⟨n + 1, Nat.succ_lt_succ hn, ancestor?_succ_eq_some_iff.mpr ⟨c, hup, hparent⟩, hx⟩
    · rintro ⟨n, hn, hup, hx⟩
      obtain ⟨c, hc, hparent⟩ := ancestor?_succ_eq_some_iff.mp hup
      cases n with
      | zero =>
        cases hc
        exact ⟨x, hl.mem_elementChildren_iff.mpr ⟨hparent, hx⟩, List.mem_cons_self ..⟩
      | succ n =>
        obtain ⟨b, -, hb⟩ := ancestor?_succ_eq_some_iff.mp hc
        refine ⟨c, hl.mem_elementChildren_iff.mpr ⟨hparent, hl.isElement_of_parent? hb⟩,
          List.mem_cons_of_mem _ (ih.mpr ⟨n, ?_, hc, hx⟩)⟩
        exact Nat.lt_of_succ_lt_succ hn

namespace IsForest

/-- A node is above another by one number of links. -/
theorem ancestor?_level_unique (hf : d.IsForest) (hm : d.ancestor? m x = some r)
    (hn : d.ancestor? n x = some r) : m = n := by
  have hle : ∀ {m n}, d.ancestor? m x = some r → d.ancestor? n x = some r → n ≤ m := by
    intro m n hm hn
    refine Nat.le_of_not_lt fun hlt => ?_
    obtain ⟨k, rfl⟩ := Nat.exists_eq_add_of_lt hlt
    rw [Nat.add_assoc, ancestor?_add, hm] at hn
    exact hf.ancestor?_ne_self k r hn
  exact Nat.le_antisymm (hle hn hm) (hle hm hn)

/-- In a forest each descendant is met once. -/
theorem nodup_descendantsWithin (hf : d.IsForest) : (d.descendantsWithin fuel r).Nodup := by
  induction fuel generalizing r with
  | zero => exact List.nodup_nil
  | succ fuel ih =>
    -- climbing from what is at or below a child comes to the child
    have hup : ∀ {c x}, x ∈ c :: d.descendantsWithin fuel c → ∃ n, d.ancestor? n x = some c := by
      intro c x hx
      rcases List.mem_cons.mp hx with rfl | hx
      · exact ⟨0, rfl⟩
      · obtain ⟨n, -, hn, -⟩ := hf.mem_descendantsWithin_iff.mp hx
        exact ⟨n + 1, hn⟩
    refine List.pairwise_flatMap.mpr ⟨fun c _ => List.nodup_cons.mpr ⟨fun hc => ?_, ih⟩, ?_⟩
    · obtain ⟨n, -, hn, -⟩ := hf.mem_descendantsWithin_iff.mp hc
      exact hf.ancestor?_ne_self n c hn
    · have hchildren : (d.elementChildren r).Nodup := (hf.children_nodup r).filter _
      refine hchildren.imp_of_mem ?_
      rintro c c' hc hc' hne x hx _ hx' rfl
      obtain ⟨n, hn⟩ := hup hx
      obtain ⟨n', hn'⟩ := hup hx'
      have hr := ancestor?_succ_eq_some_iff.mpr ⟨c, hn, (hf.mem_elementChildren_iff.mp hc).1⟩
      have hr' := ancestor?_succ_eq_some_iff.mpr ⟨c', hn', (hf.mem_elementChildren_iff.mp hc').1⟩
      obtain rfl : n = n' := Nat.succ.inj (hf.ancestor?_level_unique hr hr')
      exact hne (Option.some.inj (hn.symm.trans hn'))

end IsForest

/-! ## Creating and attaching -/

/-- Is `c` at or above `p`? -/
def IsAbove (d : Document) (c p : Handle) : Prop := ∃ n, d.ancestor? n p = some c

theorem parent?_append_of_some (p c : Handle) (hx : d.parent? x = some r) :
    (d.append p c).parent? x = some r := by
  by_cases ha : d.canAppend p c = true
  · rw [parent?_append ha, if_neg, hx]
    rintro rfl
    rw [(canAppend_iff.mp ha).2.2.2.2] at hx
    cases hx
  · rwa [append_of_not ha]

theorem not_isAbove_of_parent? (hp : d.parent? p = none) (hne : p ≠ c) : ¬ d.IsAbove c p := by
  rintro ⟨n, hn⟩
  cases n with
  | zero => exact hne (Option.some.inj hn)
  | succ n =>
    rw [ancestor?, hp] at hn
    cases hn

/-- A climb that does not come past `c` is not changed when `c` is attached. -/
theorem ancestor?_append_of_not_isAbove (ha : d.canAppend p c = true) (hc : ¬ d.IsAbove c h) :
    (d.append p c).ancestor? n h = d.ancestor? n h := by
  induction n generalizing h with
  | zero => rfl
  | succ n ih =>
    have hne : h ≠ c := fun heq => hc ⟨0, congrArg some heq⟩
    rw [ancestor?, ancestor?, parent?_append ha, if_neg hne]
    cases hp : d.parent? h with
    | none => rfl
    | some q => exact ih fun ⟨k, hk⟩ => hc ⟨k + 1, ancestor?_succ_of_child hp hk⟩

namespace IsForest

theorem create (hf : d.IsForest) (kind : NodeKind) : (d.create kind).1.IsForest where
  toLinked := hf.toLinked.create kind
  climbing_ends h := by
    obtain ⟨n, hn⟩ := hf.climbing_ends h
    exact ⟨n, (ancestor?_congr (fun x => parent?_create) n h).trans hn⟩

/-- A node may be attached below a node that is not below it. -/
theorem append (hf : d.IsForest) (hc : ¬ d.IsAbove c p) : (d.append p c).IsForest where
  toLinked := hf.toLinked.append p c
  climbing_ends h := by
    by_cases ha : d.canAppend p c = true
    · obtain ⟨m, hm⟩ := hf.climbing_ends p
      obtain ⟨n, hn⟩ := hf.climbing_ends h
      induction n generalizing h with
      | zero => cases hn
      | succ n ih =>
        by_cases hh : h = c
        · refine ⟨m + 1, ?_⟩
          rw [ancestor?, parent?_append ha, if_pos hh, Option.bind_some,
            ancestor?_append_of_not_isAbove ha hc, hm]
        · cases hp : d.parent? h with
          | none =>
            refine ⟨1, ?_⟩
            rw [ancestor?, parent?_append ha, if_neg hh, hp]
            rfl
          | some q =>
            rw [ancestor?_of_parent? hp] at hn
            obtain ⟨k, hk⟩ := ih q hn
            refine ⟨k + 1, ?_⟩
            rw [ancestor?, parent?_append ha, if_neg hh, hp, Option.bind_some, hk]
    · rw [append_of_not ha]
      exact hf.climbing_ends h

/-- A node that was just created is above no other. -/
theorem add (hf : d.IsForest) (p : Handle) (kind : NodeKind) :
    ((d.create kind).1.append p d.size).IsForest := by
  by_cases hp : p = d.size
  · rw [append_of_not fun ha => (canAppend_iff.mp ha).1 hp]
    exact hf.create kind
  · refine (hf.create kind).append ?_
    rintro ⟨n, hn⟩
    rw [ancestor?_congr fun x => parent?_create] at hn
    cases n with
    | zero => exact hp (Option.some.inj hn)
    | succ n =>
      -- above another node there are only elements that were there before
      rw [ancestor?_add] at hn
      obtain ⟨q, -, hn⟩ := Option.bind_eq_some_iff.mp hn
      obtain ⟨a, ha, heq⟩ := Option.bind_eq_some_iff.mp hn
      cases heq
      exact Nat.lt_irrefl _ (lt_size_of_isElement (hf.isElement_of_parent? ha))

end IsForest

/-- Attaching a node below itself makes a circle, which stays. -/
theorem not_isForest_append (ha : d.canAppend p c = true) (hc : d.IsAbove c p) :
    ¬ (d.append p c).IsForest := by
  intro hf
  obtain ⟨n, hn⟩ := hc
  have hkept : (d.append p c).ancestor? n p = some c :=
    ancestor?_mono (fun _ _ => parent?_append_of_some p c) hn
  have hparent : (d.append p c).parent? c = some p := by rw [parent?_append ha, if_pos rfl]
  exact hf.ancestor?_ne_self n c (ancestor?_succ_of_child hparent hkept)

/-! ## Operations in any order -/

/-- What changes which nodes there are and how they hang together. -/
inductive Operation where
  | create (kind : NodeKind)
  | append (p c : Handle)
  | readMarkup (p : Handle) (markup : String)

namespace Operation

def apply (d : Document) : Operation → Document
  | create kind => (d.create kind).1
  | append p c => d.append p c
  | readMarkup p markup => d.readMarkup p markup

/-- Is a node attached that is at or above the node it is attached to? -/
def ClosesCircle (d : Document) : Operation → Prop
  | append p c => d.canAppend p c = true ∧ d.IsAbove c p
  | _ => False

end Operation

/-- The document after operations, performed one after the other. -/
def run (d : Document) (ops : List Operation) : Document := ops.foldl Operation.apply d

/-- Is a circle closed on the way? -/
def ClosesCircle (d : Document) : List Operation → Prop
  | [] => False
  | op :: ops => op.ClosesCircle d ∨ ClosesCircle (op.apply d) ops

/-- Links are kept, whatever is done. -/
theorem parent?_run (ops : List Operation) (hp : d.parent? h = some p) :
    (d.run ops).parent? h = some p := by
  induction ops generalizing d with
  | nil => exact hp
  | cons op ops ih =>
    refine ih ?_
    cases op with
    | create kind => exact parent?_create.trans hp
    | append q c => exact parent?_append_of_some q c hp
    | readMarkup q markup =>
      refine readMarkup_induction (P := fun d => d.parent? h = some p) (fun d q kind hp => ?_) hp
        q markup
      exact parent?_append_of_some q _ (parent?_create.trans hp)

theorem IsForest.of_run (ops : List Operation) (hl : d.Linked) (hf : (d.run ops).IsForest) :
    d.IsForest where
  toLinked := hl
  climbing_ends h := by
    obtain ⟨n, hn⟩ := hf.climbing_ends h
    refine ⟨n, ?_⟩
    cases hr : d.ancestor? n h with
    | none => rfl
    | some r =>
      rw [ancestor?_mono (fun _ _ => parent?_run ops) hr] at hn
      cases hn

/-- One operation. -/
theorem IsForest.apply_iff (hf : d.IsForest) (op : Operation) :
    (op.apply d).IsForest ↔ ¬ op.ClosesCircle d := by
  cases op with
  | create kind => exact ⟨fun _ => id, fun _ => hf.create kind⟩
  | append p c =>
    refine ⟨fun hf' hc => not_isForest_append hc.1 hc.2 hf', fun hc => ?_⟩
    by_cases ha : d.canAppend p c = true
    · exact hf.append fun habove => hc ⟨ha, habove⟩
    · rw [Operation.apply, append_of_not ha]
      exact hf
  | readMarkup p markup =>
    exact ⟨fun _ => id, fun _ => readMarkup_induction (fun d q kind hf => hf.add q kind) hf p markup⟩

theorem Linked.apply (hl : d.Linked) (op : Operation) : (op.apply d).Linked := by
  cases op with
  | create kind => exact hl.create kind
  | append p c => exact hl.append p c
  | readMarkup p markup => exact hl.readMarkup p markup

theorem Linked.run (hl : d.Linked) (ops : List Operation) : (d.run ops).Linked := by
  induction ops generalizing d with
  | nil => exact hl
  | cons op ops ih => exact ih (hl.apply op)

theorem IsForest.run_iff (hf : d.IsForest) (ops : List Operation) :
    (d.run ops).IsForest ↔ ¬ d.ClosesCircle ops := by
  induction ops generalizing d with
  | nil => exact ⟨fun _ => id, fun _ => hf⟩
  | cons op ops ih =>
    rw [ClosesCircle, not_or]
    constructor
    · intro hrun
      have hstep : (op.apply d).IsForest := .of_run ops (hf.toLinked.apply op) hrun
      exact ⟨(hf.apply_iff op).mp hstep, (ih hstep).mp hrun⟩
    · rintro ⟨hop, hops⟩
      exact (ih ((hf.apply_iff op).mpr hop)).mpr hops

/-- **Documents are forests as long as no node is attached below itself.** After any operations, with
any handles, every node is once in the child list of its parent and in no other. Climbing from every
node ends at a node without a parent, if and only if no operation closed a circle; and then the walks
from every handle end. -/
theorem forest_run_iff (hf : d.IsForest) (ops : List Operation) :
    (∀ p c, ((d.run ops).children p).count c =
      if (d.run ops).parent? c = some p then 1 else 0) ∧
    (¬ d.ClosesCircle ops ↔
      ∀ h, ∃ n r, (d.run ops).ancestor? n h = some r ∧ (d.run ops).parent? r = none) ∧
    (¬ d.ClosesCircle ops → ∀ h, (d.run ops).WalksEnd h) := by
  have hl := hf.toLinked.run ops
  refine ⟨hl.count_children, ⟨fun hops h => ?_, fun htop => ?_⟩, fun hops h => ?_⟩
  · exact ((hf.run_iff ops).mpr hops).exists_top h
  · refine (hf.run_iff ops).mp { hl with climbing_ends := fun h => ?_ }
    obtain ⟨n, r, hr, hnone⟩ := htop h
    refine ⟨n + 1, ?_⟩
    rw [ancestor?_add, hr, Option.bind_some, ancestor?, hnone]
    rfl
  · exact ((hf.run_iff ops).mpr hops).walksEnd h

/-- A subtree that is put together before it is attached. -/
theorem forest_run_iff_detached :
    let ops : List Operation := [.create (.element (.ofTag "ul")), .create (.element (.ofTag "li")),
      .append 1 2, .readMarkup 2 "<b>a</b>", .append 0 1]
    let d := (withRoot "div" "preview").run ops
    (withRoot "div" "preview").IsForest ∧ ¬ (withRoot "div" "preview").ClosesCircle ops ∧
      d.textContent 0 = "a" ∧ d.textWithin 100 0 = "a" := by
  intro ops d
  have hf : (withRoot "div" "preview").IsForest := .withRoot _ _
  have hops : ¬ (withRoot "div" "preview").ClosesCircle ops := by
    have hnot {d : Document} {p c : Handle} (hp : d.parent? p = none) (hne : p ≠ c) :
        ¬ (Operation.append p c).ClosesCircle d := fun hc => not_isAbove_of_parent? hp hne hc.2
    simp only [ops, ClosesCircle, not_or]
    exact ⟨id, id, hnot (by decide +kernel) (by decide), id, hnot (by decide +kernel) (by decide), id⟩
  obtain ⟨-, -, hwalks⟩ := forest_run_iff hf ops
  have htext : d.textContent 0 = "a" := by decide +kernel
  refine ⟨hf, hops, htext, ?_⟩
  rw [(hwalks hops 0).textContent 100 (by decide +kernel), htext]

/-- Two nodes can be attached below each other; from there one climbs for ever. -/
theorem circle_not_forest :
    let d := (withRoot "div" "").run [.create (.element (.ofTag "a")),
      .create (.element (.ofTag "b")), .append 1 2, .append 2 1]
    d.parent? 1 = some 2 ∧ d.parent? 2 = some 1 ∧ (∀ n, d.ancestor? n 1 ≠ none) ∧
      ∀ fuel, (d.climb (· == d.root) fuel 1 []).length = fuel := by
  intro d
  have hup : d.parent? 1 = some 2 := by decide +kernel
  have hdown : d.parent? 2 = some 1 := by decide +kernel
  have htag : d.tag? 1 = some "a" ∧ d.tag? 2 = some "b" := by decide +kernel
  have hclimb (fuel : Nat) (below : List Step) :
      (d.climb (· == 0) fuel 1 below).length = fuel + below.length ∧
        (d.climb (· == 0) fuel 2 below).length = fuel + below.length := by
    induction fuel generalizing below with
    | zero => simp [climb]
    | succ fuel ih => simp [climb, hup, hdown, htag, ih, Nat.add_comm, Nat.add_left_comm]
  refine ⟨hup, hdown, ?_, fun fuel => (hclimb fuel []).1⟩
  exact ancestor?_ne_none_of_circle (n := 1) (by rw [ancestor?_of_parent? hup, ancestor?, hdown]; rfl)

end Document
end Restyle
