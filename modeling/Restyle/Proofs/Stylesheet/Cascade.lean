import Mathlib
import Restyle.Proofs.Document.Forest
import Restyle.Stylesheet.Cascade

/-!
# Restyle.Proofs.Stylesheet.Cascade

What the order of the rules in a sheet, and a single rule of it, decide.

* `ruleValue?_eq_argmax`: of the rules that match a node and declare a property the last of the
  most specific ones gives the value.
* `computed_swap_insert`: two neighbours change places without effect unless they tie, and a rule
  put in anywhere has an effect only on what it declares, at the nodes it matches and, for an
  inherited property, below them.
* `computed_of_reordered`: so a sheet can be put into any order that keeps the order of ties.

A rule counts for a node as its `bid?`, and the winner is a fold over the bids
(`foldl_outbid_eq_argmax`).
What a computed value depends on is the winner at the nodes on the way up (`resolve_congr`).
-/

namespace Restyle
namespace Stylesheet

variable {d : Document} {h : Handle} {property v : String} {r r' : Rule} {sheet sheet' : Sheet}
  {rules rules' before after : List Rule}

/-! ## Specificity -/

namespace Specificity

variable {a b c : Specificity}

theorem le_iff : a.le b = true ↔ a.ids < b.ids ∨ (a.ids = b.ids ∧
    (a.classes < b.classes ∨ (a.classes = b.classes ∧ a.tags ≤ b.tags))) := by
  simp [le]

theorem le_refl (a : Specificity) : a.le a = true :=
  le_iff.mpr (.inr ⟨rfl, .inr ⟨rfl, Nat.le_refl _⟩⟩)

theorem le_trans (hab : a.le b = true) (hbc : b.le c = true) : a.le c = true := by
  rw [le_iff] at *
  omega

theorem le_antisymm (hab : a.le b = true) (hba : b.le a = true) : a = b := by
  obtain ⟨i, j, k⟩ := a
  obtain ⟨i', j', k'⟩ := b
  rw [le_iff] at *
  simp only [mk.injEq] at *
  omega

theorem le_of_not_le (hab : ¬ a.le b = true) : b.le a = true := by
  rw [le_iff] at *
  omega

end Specificity

/-! ## Bids -/

/-- A value with the specificity of the rule that gives it. -/
abbrev Bid := Specificity × String

/-- What is held after one more bid. -/
def outbid (found : Option Bid) (bid : Bid) : Option Bid := better found bid.1 bid.2

theorem outbid_some (x y : Bid) : outbid (some x) y = if x.1.le y.1 then some y else some x := rfl

/-- Bids of different specificity can come in either order. -/
theorem outbid_comm (found : Option Bid) {x y : Bid} (hne : x.1 ≠ y.1) :
    outbid (outbid found x) y = outbid (outbid found y) x := by
  have hone : x.1.le y.1 = !y.1.le x.1 := by
    cases hxy : x.1.le y.1 <;> cases hyx : y.1.le x.1
    · rw [Specificity.le_of_not_le (by simp [hxy])] at hyx
      cases hyx
    · rfl
    · rfl
    · exact absurd (Specificity.le_antisymm hxy hyx) hne
  cases found with
  | none =>
    show outbid (some x) y = outbid (some y) x
    rw [outbid_some, outbid_some, hone]
    cases y.1.le x.1 <;> rfl
  | some z =>
    rw [outbid_some, outbid_some]
    cases hzx : z.1.le x.1 <;> cases hzy : z.1.le y.1 <;> cases hyx : y.1.le x.1 <;>
      simp only [outbid_some, hzx, hzy, hyx, hone, if_true, if_false, Bool.not_true, Bool.not_false,
        Bool.false_eq_true]
    -- one is below what is held and the other above it, so they compare with each other
    · rw [Specificity.le_trans hzy hyx] at hzx
      cases hzx
    · rw [hyx, Bool.not_false] at hone
      rw [Specificity.le_trans hzx hone] at hzy
      cases hzy

/-- The last value that a rule declares for a property, if it matches the node. -/
def Rule.bid? (d : Document) (h : Handle) (property : String) (r : Rule) : Option Bid :=
  if r.selector.accepts d h then (r.value? property).map ((r.selector.specificity, ·)) else none

theorem ruleValue?_eq_foldl (sheet : Sheet) (d : Document) (h : Handle) (property : String) :
    sheet.ruleValue? d h property =
      ((sheet.rules.filterMap (Rule.bid? d h property)).foldl outbid none).map (·.2) := by
  rw [Sheet.ruleValue?, List.foldl_filterMap]
  congr 2
  funext found r
  rw [Rule.bid?]
  cases r.value? property with
  | none => simp
  | some value => cases r.selector.accepts d h <;> rfl

/-- Is there a declaration with this name in the rule? -/
def Rule.Declares (r : Rule) (property : String) : Prop := ∃ e ∈ r.declarations, e.name = property

theorem Rule.declares_of_value? (hv : r.value? property = some v) : r.Declares property := by
  obtain ⟨e, he, -⟩ := Option.map_eq_some_iff.mp hv
  exact ⟨e, List.mem_reverse.mp (List.mem_of_find?_eq_some he), by simpa using List.find?_some he⟩

theorem Rule.bid?_eq_some_iff {b : Bid} : r.bid? d h property = some b ↔
    r.selector.accepts d h = true ∧ r.value? property = some b.2 ∧
      b.1 = r.selector.specificity := by
  obtain ⟨s, v⟩ := b
  rw [bid?]
  cases r.selector.accepts d h <;> cases r.value? property <;> simp [and_comm, eq_comm]

/-! ## The winner -/

/-- The bids of a sheet with the places of their rules. -/
def placedBids (d : Document) (h : Handle) (property : String) (rules : List Rule) :
    List (Bid × Nat) :=
  rules.zipIdx.filterMap fun x => (x.1.bid? d h property).map (·, x.2)

/-- Bids are ranked by specificity first and by the places of their rules last. -/
def rank (x : Bid × Nat) : ℕ ×ₗ ℕ ×ₗ ℕ ×ₗ ℕ :=
  toLex (x.1.1.ids, toLex (x.1.1.classes, toLex (x.1.1.tags, x.2)))

/-- A later rule outranks the earlier ones that are no more specific. -/
theorem rank_lt_iff {x y : Bid × Nat} (hlt : x.2 < y.2) :
    rank x < rank y ↔ x.1.1.le y.1.1 = true := by
  simp only [rank, Prod.Lex.toLex_lt_toLex, Specificity.le_iff]
  omega

theorem placedBids_concat (rules : List Rule) (r : Rule) : placedBids d h property (rules ++ [r]) =
    placedBids d h property rules ++ ((r.bid? d h property).map (·, rules.length)).toList := by
  rw [placedBids, List.zipIdx_append, List.filterMap_append, Nat.zero_add, List.zipIdx_singleton]
  cases hb : r.bid? d h property <;> simp [placedBids, hb]

theorem lt_of_mem_placedBids {x : Bid × Nat} (hx : x ∈ placedBids d h property rules) :
    x.2 < rules.length := by
  obtain ⟨y, hy, hxy⟩ := List.mem_filterMap.mp hx
  obtain ⟨b, -, rfl⟩ := Option.map_eq_some_iff.mp hxy
  simpa using List.snd_lt_of_mem_zipIdx hy

theorem foldl_outbid_eq_argmax (rules : List Rule) :
    (rules.filterMap (Rule.bid? d h property)).foldl outbid none =
      ((placedBids d h property rules).argmax rank).map (·.1) := by
  induction rules using List.reverseRecOn with
  | nil => rfl
  | append_singleton rules r ih =>
    rw [placedBids_concat, List.filterMap_append, List.foldl_append, ih]
    cases hb : r.bid? d h property with
    | none => simp [hb]
    | some b =>
      simp only [List.filterMap_cons, hb, List.filterMap_nil, List.foldl_cons, List.foldl_nil,
        Option.map_some, Option.toList_some, List.argmax_concat]
      cases hheld : (placedBids d h property rules).argmax rank with
      | none => rfl
      | some x =>
        have hlt := lt_of_mem_placedBids (List.argmax_mem hheld)
        simp only [Option.map_some, outbid_some, rank_lt_iff (y := (b, rules.length)) hlt]
        split <;> rfl

/-- **The rule of the highest rank gives the value**: the most specific one that matches the node
and declares the property, and of equally specific ones the last. -/
theorem ruleValue?_eq_argmax (sheet : Sheet) (d : Document) (h : Handle) (property : String) :
    sheet.ruleValue? d h property =
      ((placedBids d h property sheet.rules).argmax rank).map (·.1.2) := by
  rw [ruleValue?_eq_foldl, foldl_outbid_eq_argmax, Option.map_map]
  rfl

/-! ## One sheet and another -/

/-- Rules whose order is of no account in a document: one is more specific than the other, or no
element is matched by both, or no property is declared by both. -/
def Rule.Apart (d : Document) (r r' : Rule) : Prop :=
  r.selector.specificity ≠ r'.selector.specificity ∨
  (∀ h, ¬ (r.selector.accepts d h = true ∧ r'.selector.accepts d h = true)) ∨
  ∀ property, ¬ (r.Declares property ∧ r'.Declares property)

theorem ruleValue?_swap (hr : r.Apart d r') :
    Sheet.ruleValue? ⟨before ++ r :: r' :: after⟩ d h property =
      Sheet.ruleValue? ⟨before ++ r' :: r :: after⟩ d h property := by
  simp only [ruleValue?_eq_foldl, List.filterMap_append, List.filterMap_cons, List.foldl_append]
  cases hx : r.bid? d h property with
  | none => rfl
  | some x =>
    cases hy : r'.bid? d h property with
    | none => rfl
    | some y =>
      obtain ⟨hmatch, hvalue, hspec⟩ := Rule.bid?_eq_some_iff.mp hx
      obtain ⟨hmatch', hvalue', hspec'⟩ := Rule.bid?_eq_some_iff.mp hy
      obtain hne | hnone | hnone := hr
      · rw [← hspec, ← hspec'] at hne
        simp only [List.foldl_cons, outbid_comm _ hne]
      · exact absurd ⟨hmatch, hmatch'⟩ (hnone h)
      · exact absurd ⟨r.declares_of_value? hvalue, r'.declares_of_value? hvalue'⟩ (hnone property)

theorem ruleValue?_insert (hne : Sheet.ruleValue? ⟨before ++ r :: after⟩ d h property ≠
      Sheet.ruleValue? ⟨before ++ after⟩ d h property) :
    r.Declares property ∧ r.selector.accepts d h = true := by
  simp only [ruleValue?_eq_foldl, List.filterMap_append, List.filterMap_cons] at hne
  cases hx : r.bid? d h property with
  | none =>
    rw [hx] at hne
    exact absurd rfl hne
  | some x =>
    obtain ⟨hmatch, hvalue, -⟩ := Rule.bid?_eq_some_iff.mp hx
    exact ⟨r.declares_of_value? hvalue, hmatch⟩

/-- The value at a node depends on the winners at the node and, for an inherited property, at the
nodes above it. -/
theorem resolve_congr (fuel : Nat) (hhere : sheet.ruleValue? d h property =
      sheet'.ruleValue? d h property)
    (habove : inheritedProperties.contains property = true → ∀ n a, d.ancestor? (n + 1) h = some a →
      sheet.ruleValue? d a property = sheet'.ruleValue? d a property) :
    sheet.resolve d property fuel h = sheet'.resolve d property fuel h := by
  induction fuel generalizing h with
  | zero => rfl
  | succ fuel ih =>
    rw [Sheet.resolve, Sheet.resolve, hhere]
    by_cases hinherited : inheritedProperties.contains property = true
    · cases hp : d.parent? h with
      | none => rfl
      | some p =>
        have hparent := habove hinherited 0 p (by rw [Document.ancestor?_of_parent? hp]; rfl)
        have hup := ih (h := p) hparent fun hi n a ha =>
          habove hi (n + 1) a (by rw [Document.ancestor?_of_parent? hp, ha])
        simp only [hup]
    · simp only [hinherited, Bool.false_eq_true, if_false]

/-- The name by which a property is looked up. -/
def propertyKey (property : String) : String := Text.lower (Text.trim property)

theorem computed_swap (hr : r.Apart d r') (h : Handle) (property : String) :
    Sheet.computed ⟨before ++ r :: r' :: after⟩ d h property =
      Sheet.computed ⟨before ++ r' :: r :: after⟩ d h property :=
  resolve_congr _ (ruleValue?_swap hr) fun _ _ _ _ => ruleValue?_swap hr

/-- A rule that declares nothing of the property, or matches neither the node nor, for an inherited
property, a node above it, can as well be left out. -/
theorem computed_insert (hne : Sheet.computed ⟨before ++ r :: after⟩ d h property ≠
      Sheet.computed ⟨before ++ after⟩ d h property) :
    r.Declares (propertyKey property) ∧ (r.selector.accepts d h = true ∨
      inheritedProperties.contains (propertyKey property) = true ∧
        ∃ n a, d.ancestor? (n + 1) h = some a ∧ r.selector.accepts d a = true) := by
  by_cases hhere : Sheet.ruleValue? ⟨before ++ r :: after⟩ d h (propertyKey property) =
      Sheet.ruleValue? ⟨before ++ after⟩ d h (propertyKey property)
  · -- the winner at the node is the same, so that the difference comes from above
    by_contra hnot
    refine hne (resolve_congr _ hhere fun hinherited n a ha => ?_)
    by_contra habove
    obtain ⟨hdeclares, haccepts⟩ := ruleValue?_insert habove
    exact hnot ⟨hdeclares, .inr ⟨hinherited, n, a, ha, haccepts⟩⟩
  · obtain ⟨hdeclares, haccepts⟩ := ruleValue?_insert hhere
    exact ⟨hdeclares, .inl haccepts⟩

/-- **Only the order among ties counts, and a rule counts only where it matches.** In any document
two neighbouring rules of a sheet can change places, unless they are equally specific, match a
common element and declare a common property. A rule that is put in at any place changes the value
of a property only if it declares the property and matches the node itself or, if the property is
inherited, a node above it. -/
theorem computed_swap_insert (d : Document) (before after : List Rule) (r r' : Rule) (h : Handle)
    (property : String) :
    (r.selector.specificity ≠ r'.selector.specificity ∨
        (∀ x, ¬ (r.selector.accepts d x = true ∧ r'.selector.accepts d x = true)) ∨
        (∀ name, ¬ (r.Declares name ∧ r'.Declares name)) →
      Sheet.computed ⟨before ++ r :: r' :: after⟩ d h property =
        Sheet.computed ⟨before ++ r' :: r :: after⟩ d h property) ∧
    (Sheet.computed ⟨before ++ r :: after⟩ d h property ≠
        Sheet.computed ⟨before ++ after⟩ d h property →
      r.Declares (propertyKey property) ∧ (r.selector.accepts d h = true ∨
        inheritedProperties.contains (propertyKey property) = true ∧
          ∃ n a, d.ancestor? (n + 1) h = some a ∧ r.selector.accepts d a = true)) :=
  ⟨fun hr => computed_swap hr h property, computed_insert⟩

/-- Two rules of which the more specific one wins in either order, and a third one whose font size
comes from above. -/
theorem computed_swap_insert_card :
    let d := Document.ofMarkup "<div class='card'><p>a</p></div>" "preview"
    let card : Compound := { classes := ["card"] }
    let red : Rule := ⟨{ subject := { tag := some "p" }, ancestors := [card] }, [⟨"color", "red"⟩]⟩
    let blue : Rule := ⟨{ subject := { tag := some "p" } }, [⟨"color", "blue"⟩]⟩
    let big : Rule := ⟨{ subject := card }, [⟨"font-size", "20px"⟩]⟩
    red.selector.specificity ≠ blue.selector.specificity ∧
      Sheet.computed ⟨[big, red, blue]⟩ d 2 "color" = "red" ∧
      Sheet.computed ⟨[big, blue, red]⟩ d 2 "color" = "red" ∧
      Sheet.computed ⟨[red, big, blue]⟩ d 2 " Font-Size" ≠
        Sheet.computed ⟨[red, blue]⟩ d 2 " Font-Size" ∧
      big.Declares "font-size" ∧ ∃ n a, d.ancestor? (n + 1) 2 = some a ∧
        big.selector.accepts d a = true := by
  intro d card red blue big
  have hne : red.selector.specificity ≠ blue.selector.specificity := by decide
  have hswap := (computed_swap_insert d [big] [] red blue 2 "color").1 (.inl hne)
  have hred : Sheet.computed ⟨[big, red, blue]⟩ d 2 "color" = "red" := by decide +kernel
  have hchange : Sheet.computed ⟨[red, big, blue]⟩ d 2 " Font-Size" ≠
      Sheet.computed ⟨[red, blue]⟩ d 2 " Font-Size" := by decide +kernel
  obtain ⟨hdeclares, hhere | ⟨-, habove⟩⟩ :=
    (computed_swap_insert d [red] [blue] big red 2 " Font-Size").2 hchange
  · have hnot : big.selector.accepts d 2 = false := by decide +kernel
    rw [hnot] at hhere
    cases hhere
  · exact ⟨hne, hred, hswap.symm.trans hred, hchange, hdeclares, habove⟩

/-! ## Any order -/

/-- One list of rules becomes another as neighbours that are apart change places. -/
inductive Reordered (d : Document) : List Rule → List Rule → Prop where
  | refl (rules : List Rule) : Reordered d rules rules
  | swap {r r' : Rule} {rules : List Rule} (before after : List Rule) : r.Apart d r' →
      Reordered d (before ++ r' :: r :: after) rules →
      Reordered d (before ++ r :: r' :: after) rules

/-- **A sheet can be put into any order that keeps the order of ties.** -/
theorem computed_of_reordered (hr : Reordered d rules rules') (h : Handle) (property : String) :
    Sheet.computed ⟨rules⟩ d h property = Sheet.computed ⟨rules'⟩ d h property := by
  induction hr with
  | refl => rfl
  | swap before after hapart _ ih => rw [computed_swap hapart, ih]

end Stylesheet
end Restyle
