import Restyle.Component.View
import Restyle.Proofs.Component.ReadBack
import Restyle.Proofs.Document.InlineStyle
import Restyle.Proofs.Script.Reads

/-!
# Restyle.Proofs.Component.Rendering

Values that stand for content of the page are rendered as that content (`gives_renderNode`). What
they stand for is read off the objects: lists of items, elements as components make them, with
the properties that give their attributes and what is inside.
-/

namespace Restyle
namespace Component

open Script Script.Run
open Markup (IsHostName)
open PageTree

variable {H : Array Obj} {w n left p : Nat} {ok : Prop} {h : Script.Host} {o proto : Obj}
  {attributes : List (String × Utf16)} {child v : Value} {k : Key} {name tag : String} {s : Utf16}

/-! ## Values that stand for content -/

/-- An attribute among the properties of an element. -/
def entry (a : String × Utf16) : Key × Slot := (.name (.whole a.1), .plain (.string a.2))

/-- What stands inside the element, among its properties. -/
def childEntry (child : Value) : Key × Slot := ("children", .plain child)

/-- Properties that give an element its attributes, and what is inside if there is something. -/
structure IsProps (o : Obj) (attributes : List (String × Utf16)) (child : Value) : Prop where
  kind : o.kind = .ordinary
  parent : o.parent = some Ref.objectProto
  props : o.props.toList = attributes.map entry ++ [childEntry child] ∨
    o.props.toList = attributes.map entry ∧ child = .undefined

/-- An element as an object. -/
structure IsElement (o : Obj) (tag : String) (props : Nat) : Prop where
  kind : o.kind = .ordinary
  mark : o.stored? "$$typeof" = some (.plain (.object Ref.elementMark))
  type : o.stored? "type" = some (.plain (.string (.whole tag)))
  props : o.stored? "props" = some (.plain (.object props))

/-- What all objects have does not show in elements. -/
structure IsClean (proto : Obj) : Prop where
  isQuiet : IsQuiet proto
  children : proto.own? "children" = none
  rawMarkup : proto.own? "dangerouslySetInnerHTML" = none

/-- Values that stand, one after the other, for content of the page; no list and no element has more
than `w` items or attributes. -/
inductive Stands (H : Array Obj) (w : Nat) : List Value → List PageTree → Prop where
  | nil : Stands H w [] []
  | nothing {v : Value} {vs : List Value} {ts : List PageTree} :
      v = .undefined ∨ v = .null ∨ (∃ b, v = .boolean b) → Stands H w vs ts → Stands H w (v :: vs) ts
  | text {s : Utf16} {vs : List Value} {ts : List PageTree} :
      Stands H w vs ts → Stands H w (.string s :: vs) (.text s :: ts)
  | items {ref : Nat} {o : Obj} {items vs : List Value} {ts ts' : List PageTree} :
      H[ref]? = some o → o.kind = .array (items.map some).toArray items.length →
      items.length ≤ w → Stands H w items ts → Stands H w vs ts' →
      Stands H w (.object ref :: vs) (ts ++ ts')
  | element {ref p : Nat} {o props : Obj} {tag : String} {attributes : List (String × Utf16)}
      {child : Value} {vs : List Value} {children ts : List PageTree} :
      H[ref]? = some o → IsElement o tag p → H[p]? = some props → IsProps props attributes child →
      attributes.length ≤ w → Stands H w [child] children → Stands H w vs ts →
      Stands H w (.object ref :: vs) (.element tag attributes children :: ts)

/-! ## Properties of elements -/

/-- The entry under a name. -/
theorem find?_entries (attributes : List (String × Utf16)) (name : String) :
    (attributes.map entry).find? (fun e => e.1 == .name (.whole name)) =
      (attributes.find? fun a => a.1 == name).map entry :=
  List.find?_map

/-- Names of attributes have no digits first, and none means anything else to the renderer. -/
theorem IsHost.name_ne (hh : IsHost tag attributes) {a : String × Utf16} (ha : a ∈ attributes) :
    IsHostName a.1 ∧ a.1 ≠ "style" ∧ a.1 ≠ "children" := by
  obtain ⟨hname, hne⟩ := hh.isAttribute a ha
  exact ⟨hname, fun heq => hne (by simp [heq]), fun heq => hne (by simp [heq])⟩

namespace IsProps

theorem isProxy (hp : IsProps o attributes child) : o.isProxy = false := isProxy_of_ordinary hp.kind

theorem own?_attribute (hp : IsProps o attributes child) (hh : IsHost tag attributes)
    {a : String × Utf16} (ha : a ∈ attributes) :
    o.own? (.name (.whole a.1)) = some (.plain (.string a.2)) := by
  have hfind : (attributes.map entry).find? (fun e => e.1 == .name (.whole a.1)) = some (entry a) := by
    rw [find?_entries, (InlineStyle.find?_eq_some_iff hh.nodup).mpr ha, Option.map_some]
  rw [own?_of_ordinary hp.kind]
  obtain hprops | ⟨hprops, -⟩ := hp.props
  · rw [hprops, List.find?_append, hfind]
    rfl
  · rw [hprops, hfind]
    rfl

theorem find?_none (name : String) (hne : ∀ a ∈ attributes, a.1 ≠ name) :
    (attributes.map entry).find? (fun e => e.1 == .name (.whole name)) = none := by
  rw [find?_entries, List.find?_eq_none.mpr fun a ha => by simpa using hne a ha, Option.map_none]

theorem own?_children (hp : IsProps o attributes child) (hh : IsHost tag attributes) :
    o.props.toList = attributes.map entry ++ [childEntry child] ∧
        o.own? "children" = some (.plain child) ∨
      o.props.toList = attributes.map entry ∧ o.own? "children" = none ∧ child = .undefined := by
  have hnone := find?_none "children" fun a ha => (IsHost.name_ne hh ha).2.2
  have hown := own?_of_ordinary hp.kind "children"
  obtain hprops | ⟨hprops, hchild⟩ := hp.props
  · left
    rw [hprops, List.find?_append, hnone] at hown
    exact ⟨hprops, hown⟩
  · right
    rw [hprops, hnone] at hown
    exact ⟨hprops, hown, hchild⟩

theorem own?_rawMarkup (hp : IsProps o attributes child) (hh : IsHost tag attributes) :
    o.own? "dangerouslySetInnerHTML" = none := by
  have hnone := find?_none "dangerouslySetInnerHTML" fun a ha heq => by
    have hall := (IsHost.name_ne hh ha).1.all
    rw [heq] at hall
    exact absurd (hall 'S' (by decide)) (by decide)
  have hown := own?_of_ordinary hp.kind "dangerouslySetInnerHTML"
  obtain hprops | ⟨hprops, -⟩ := hp.props
  · rw [hprops, List.find?_append, hnone] at hown
    exact hown
  · rw [hprops, hnone] at hown
    exact hown

theorem index?_of_isHostName (hname : IsHostName name) : (Key.name (.whole name)).index? = none := by
  obtain ⟨c, cs, hs, hc, -⟩ := hname
  have hdigit : c.isDigit = false := by
    rw [Bool.eq_false_iff]
    intro hdigit
    simp only [Char.isDigit, Bool.and_eq_true, decide_eq_true_eq, UInt32.le_iff_toNat_le] at hdigit
    exact absurd (Nat.le_trans (Markup.toNat_of_isLower hc).1 hdigit.2) (by decide)
  simp [Key.index?, hs, hdigit]

/-- The name of an attribute, or that of what is inside. -/
def nameOf (a : Option (String × Utf16)) : String := (a.map (·.1)).getD "children"

/-- The keys are those of the attributes, and perhaps that of what is inside. -/
theorem exists_isListed (hp : IsProps o attributes child) (hh : IsHost tag attributes) :
    ∃ last : List (Option (String × Utf16)), (last = [] ∨ last = [none]) ∧
      IsListed o ((attributes.map some ++ last).map fun a => .name (.whole (nameOf a))) := by
  obtain ⟨last, hlast, hchild, hnames⟩ : ∃ last : List (Option (String × Utf16)),
      (last = [] ∨ last = [none]) ∧ (last ≠ [] → o.own? "children" = some (.plain child)) ∧
      o.props.toList.map (·.1) =
        ((attributes.map some ++ last).map nameOf).map fun x => .name (.whole x) := by
    obtain ⟨hprops, hown⟩ | ⟨hprops, -⟩ := hp.own?_children hh
    · exact ⟨[none], .inr rfl, fun _ => hown, by simp [hprops, entry, childEntry, nameOf]⟩
    · exact ⟨[], .inl rfl, fun hne => absurd rfl hne, by simp [hprops, entry, nameOf]⟩
  have hmem : ∀ x ∈ (attributes.map some ++ last).map nameOf, (∃ a ∈ attributes, a.1 = x) ∨
      x = "children" ∧ o.own? "children" = some (.plain child) := by
    intro x hx
    obtain ⟨a, ha, rfl⟩ := List.mem_map.mp hx
    rcases List.mem_append.mp ha with ha | ha
    · obtain ⟨b, hb, rfl⟩ := List.mem_map.mp ha
      exact .inl ⟨b, hb, rfl⟩
    · obtain rfl | rfl := hlast
      · cases ha
      · rw [List.mem_singleton.mp ha]
        exact .inr ⟨rfl, hchild (by simp)⟩
  have hkeys : o.keys = _ := keys_of_names hp.kind hnames fun x hx => by
    obtain ⟨a, ha, rfl⟩ | ⟨rfl, -⟩ := hmem x hx
    · exact index?_of_isHostName (IsHost.name_ne hh ha).1
    · decide
  rw [List.map_map] at hkeys
  refine ⟨last, hlast, hp.isProxy, hkeys, fun k hk => ?_, fun k hk => ?_⟩
  · obtain ⟨a, -, rfl⟩ := List.mem_map.mp hk
    rfl
  · obtain ⟨a, ha, rfl⟩ := List.mem_map.mp hk
    obtain ⟨b, hb, hname⟩ | ⟨hname, hown⟩ := hmem _ (List.mem_map.mpr ⟨a, ha, rfl⟩)
    · rw [← hname]
      exact ⟨_, hp.own?_attribute hh hb, rfl⟩
    · rw [hname]
      exact ⟨_, hown, rfl⟩

end IsProps

/-! ## Attributes -/

theorem gives_eachKey {α β : Type} {f : Utf16 → Run (Option α)} (xs : List β) (key : β → Utf16)
    (g : β → Option α) (hf : ∀ x ∈ xs, Gives H ok n (f (key x)) (g x)) :
    Gives H ok (xs.length * (n + 1) + 1) ((View.surface h).eachKey f (xs.map key))
      (xs.filterMap g) := by
  induction xs with
  | nil =>
    rw [List.map_nil, Surface.eachKey]
    refine Gives.of_le (n := 1) (.bind_reads .countRound ?_) (Nat.le_add_left ..)
    exact .pure _
  | cons x xs ih =>
    have hx := hf x (List.mem_cons_self ..)
    have hrest := ih fun y hy => hf y (List.mem_cons_of_mem _ hy)
    have hjoin : (x :: xs).filterMap g = (g x).toList ++ xs.filterMap g := by
      cases hg : g x <;> simp [hg]
    have hcount : 1 + (n + (xs.length * (n + 1) + 1)) ≤ (x :: xs).length * (n + 1) + 1 := by
      simp only [List.length_cons, Nat.succ_mul]
      omega
    rw [List.map_cons, Surface.eachKey, hjoin]
    refine Gives.of_le (.bind .countRound (.bind hx (.bind_reads hrest ?_))) hcount
    exact .pure _

/-- The frames that are asked for are there, or the run is stopped. -/
theorem gives_need {wanted : Nat} (hok : ok → wanted ≤ left) :
    Gives H ok 0 ((View.surface h).need left wanted) () := by
  unfold Surface.need
  split
  · exact .stopped (fun h => by have := hok h; omega) fun m => ⟨_, _, rfl⟩
  · exact .pure ()

theorem gives_text (left : Nat) (s : Utf16) (hok : ok → 0 < left) :
    Gives H ok 0 (View.text left (.string s)) s := by
  cases left with
  | zero => exact .stopped (fun h => absurd (hok h) (by decide)) fun m => ⟨_, _, rfl⟩
  | succ left => exact fun m _ => .inl ⟨0, Nat.le_refl _, rfl⟩

/-- Names of the page are their own attributes, and attributes of their own. -/
theorem attribute_of_isHostName (hname : IsHostName name)
    (hne : name ∉ ["style", "key", "ref", "children", "constructor"]) :
    isListed unshown (.whole name) = false ∧ isHandler (.whole name) = false ∧
      (Utf16.whole name == .whole "style") = false ∧ attributeName (.whole name) = .whole name := by
  have hlisted : ∀ x ∈ unshown ++ commonNames, x.toList.all Markup.isHostChar = true →
      x ∈ ["style", "key", "ref", "children", "constructor"] := by decide
  have hnamed : ∀ x ∈ attributeNames, x.1.toList.all Markup.isHostChar = false := by decide
  have hall : name.toList.all Markup.isHostChar = true := List.all_eq_true.mpr hname.all
  have hnot : name ∉ unshown ++ commonNames := fun hmem => hne (hlisted name hmem hall)
  refine ⟨?_, ?_, ?_, ?_⟩
  · simpa [isListed, not_or] using hnot
  · rw [isHandler, chars]
    split
    · rename_i c cs heq
      have hc := hname.all c (by rw [heq]; simp)
      have hcapital := Markup.of_isHostChar (p := fun c => !isCapital c) (by decide) hc
      simpa using hcapital
    · rfl
  · have hstyle : name ≠ "style" := fun heq => hne (by simp [heq])
    have hbeq : (name == "style") = false := beq_eq_false_iff_ne.mpr hstyle
    exact hbeq
  · have hlookup : attributeNames.lookup name = none := by
      rw [List.lookup_eq_none_iff]
      intro x hx
      have hupper := hnamed x hx
      rw [bne_iff_ne]
      rintro rfl
      rw [hall] at hupper
      cases hupper
    rw [attributeName, hlookup]
    rfl

/-- The attribute of a property that a host element has. -/
theorem gives_attributeFor {props : Obj} (hprops : H[p]? = some props)
    (hp : IsProps props attributes child) (hh : IsHost tag attributes) {a : String × Utf16}
    (ha : a ∈ attributes) :
    Gives H (3 ≤ left) 0 ((View.surface h).attributeFor left (.object p) (.whole a.1))
      (some ⟨.whole a.1, some a.2⟩) := by
  obtain ⟨hname, hne⟩ := hh.isAttribute a ha
  obtain ⟨hshown, hhandler, hstyle, hsame⟩ := attribute_of_isHostName hname hne
  have hown := hp.own?_attribute hh ha
  unfold Surface.attributeFor
  refine .after (gives_need fun h => Nat.le_of_succ_le h) ?_
  refine .after_reads (reads_hasOwn hprops hp.isProxy) ?_
  rw [hown, hshown]
  simp only [Option.isSome_some, Bool.not_true, Bool.or_self, Bool.false_eq_true, if_false]
  refine .after_reads (reads_getProp hprops hp.isProxy hown) ?_
  refine .after_reads (.pure (Datum.text a.2)) ?_
  dsimp only
  rw [hhandler, hstyle]
  simp only [Bool.false_eq_true, if_false]
  rw [hsame]
  refine .after (gives_need id) ?_
  refine .after (gives_text (left - 2) a.2 fun h => by omega) ?_
  exact .pure _

theorem gives_attributeFor_children {props : Obj} (hprops : H[p]? = some props)
    (hp : IsProps props attributes child) :
    Gives H (3 ≤ left) 0 ((View.surface h).attributeFor left (.object p) "children") none := by
  unfold Surface.attributeFor
  refine .after (gives_need fun h => Nat.le_of_succ_le h) ?_
  refine .after_reads (reads_hasOwn hprops hp.isProxy) ?_
  have hunshown : isListed unshown "children" = true := by decide
  rw [hunshown, Bool.or_true, if_pos rfl]
  exact .pure _

/-- **The attributes of an element are what its properties say.** -/
theorem gives_attributes (hclean : IsClean proto) (hproto : H[Ref.objectProto]? = some proto)
    {props : Obj} (hprops : H[p]? = some props) (hp : IsProps props attributes child)
    (hh : IsHost tag attributes)
    (hok : ok → 3 ≤ left ∧ attributes.length + 1 + walkEnd proto < itemBound) :
    Gives H ok (attributes.length + 2)
      ((View.surface h).keys (.object p) >>=
        (View.surface h).eachKey ((View.surface h).attributeFor left (.object p)))
      (attributes.map fun a => ⟨.whole a.1, some a.2⟩) := by
  obtain ⟨last, hlast, hlisted⟩ := hp.exists_isListed hh
  have hlength : (attributes.map some ++ last).length ≤ attributes.length + 1 := by
    obtain rfl | rfl := hlast <;> simp
  have hkeys : Gives H ok 0 ((View.surface h).keys (.object p))
      ((attributes.map some ++ last).map fun a => .whole (IsProps.nameOf a)) := by
    have hwalk := gives_keysAlong (h := h) hprops hlisted hp.parent hproto hclean.isQuiet
    rw [List.length_map] at hwalk
    refine (hwalk.imp fun hw => by have := hok hw; omega).bind_reads ?_
    rw [List.filterMap_map]
    intro m _
    exact congrArg (EStateM.Result.ok · m)
      (congrFun (List.filterMap_eq_map (f := fun a => Utf16.whole (IsProps.nameOf a))) _)
  have heach : Gives H ok ((attributes.map some ++ last).length * (0 + 1) + 1)
      ((View.surface h).eachKey ((View.surface h).attributeFor left (.object p))
        ((attributes.map some ++ last).map fun a => .whole (IsProps.nameOf a)))
      ((attributes.map some ++ last).filterMap
        (Option.map fun a => (⟨.whole a.1, some a.2⟩ : Attribute))) := by
    refine gives_eachKey _ _ _ fun a ha => ?_
    cases a with
    | none => exact (gives_attributeFor_children hprops hp).imp fun h => (hok h).1
    | some a =>
      have hmem : a ∈ attributes := by
        obtain rfl | rfl := hlast <;> simpa using ha
      exact (gives_attributeFor hprops hp hh hmem).imp fun h => (hok h).1
  have hall : (attributes.map some ++ last).filterMap
      (Option.map fun a => (⟨.whole a.1, some a.2⟩ : Attribute)) =
      attributes.map fun a => ⟨.whole a.1, some a.2⟩ := by
    have hsome : (attributes.map some).filterMap
        (Option.map fun a => (⟨.whole a.1, some a.2⟩ : Attribute)) =
        attributes.map fun a => ⟨.whole a.1, some a.2⟩ := by
      rw [List.filterMap_map]
      exact congrFun List.filterMap_eq_map attributes
    obtain rfl | rfl := hlast <;> simp [List.filterMap_append, hsome]
  rw [hall] at heach
  exact (hkeys.after heach).of_le (by omega)

/-! ## Content -/

/-- Lists of so many items and elements of so many attributes can be gone through. -/
def Passable (proto : Obj) (w : Nat) : Prop := w ≤ 100000000 ∧ w + 1 + walkEnd proto < itemBound

/-- With enough frames, rounds and slots of the stack a value is rendered as content; with fewer it
is that, or nothing at all. -/
def Renders (h : Script.Host) (H : Array Obj) (proto : Obj) (w : Nat) (v : Value)
    (rs : List Rendered) : Prop :=
  ∃ n, ∀ left, Gives H (n ≤ left ∧ Passable proto w) n ((View.surface h).renderNode left v) rs

/-- With enough of everything there is a result, and there is no other. -/
theorem Renders.runs {rs : List Rendered} (hv : Renders h H proto w v rs) :
    ∃ n, ∀ (left : Nat) (m : Machine), m.heap = H →
      (n ≤ left → Passable proto w → m.rounds + n ≤ m.bounds.iterations →
        m.stack + n ≤ m.bounds.stack →
        ∃ rs m', (View.surface h).renderNode left v m = .ok rs m') ∧
      ∀ rs' m', (View.surface h).renderNode left v m = .ok rs' m' → rs' = rs := by
  obtain ⟨n, hv⟩ := hv
  refine ⟨n, fun left m hm => ⟨fun hleft hw hrounds hstack => ?_, fun rs' m' hrs => ?_⟩⟩
  · obtain ⟨m', hok⟩ := (hv left).exists_ok ⟨hleft, hw⟩ hm hrounds hstack
    exact ⟨_, m', hok⟩
  · exact (hv left).eq_of_ok hm hrs

/-- Some machine has enough of everything. -/
theorem Renders.exists_ok {rs : List Rendered} (hv : Renders h H proto w v rs)
    (hw : Passable proto w) : ∃ left m m', m.heap = H ∧
      (View.surface h).renderNode left v m = .ok rs m' := by
  obtain ⟨n, hv⟩ := hv
  have hroom : 0 + n ≤ n := Nat.le_of_eq (Nat.zero_add n)
  obtain ⟨m', hok⟩ := (hv n).exists_ok ⟨Nat.le_refl n, hw⟩
    (m := { heap := H, bounds := ⟨n, n, n⟩ }) rfl hroom hroom
  exact ⟨n, _, m', rfl, hok⟩

/-- Values are rendered as content, one after the other. -/
def RendersAll (h : Script.Host) (H : Array Obj) (proto : Obj) (w : Nat) :
    List Value → List PageTree → Prop
  | [], ts => ts = []
  | v :: vs, ts => ∃ a b, ts = a ++ b ∧ Renders h H proto w v (a.map rendered) ∧
      RendersAll h H proto w vs b

variable {vs items : List Value} {ts ts' children : List PageTree} {rs : List Rendered}
  {as : List Attribute} {ref : Nat}

/-- A value is rendered in a frame of its own. -/
theorem Renders.of_body {body : Nat → Run (List Rendered)}
    (hnode : ∀ left, (View.surface h).renderNode (left + 1) v = framed 1 (body left))
    (hbody : ∀ left, Gives H (n ≤ left ∧ Passable proto w) n (body left) rs) :
    Renders h H proto w v rs := by
  refine ⟨n + 1 + frameSize, fun left => ?_⟩
  cases left with
  | zero =>
    rw [Surface.renderNode]
    exact .stopped (by unfold frameSize; omega) fun m => ⟨_, _, rfl⟩
  | succ left =>
    rw [hnode]
    exact .framed 1 ((hbody left).imp fun hok => ⟨by unfold frameSize at hok; omega, hok.2⟩)

theorem renders_nothing (hv : v = .undefined ∨ v = .null ∨ ∃ b, v = .boolean b) :
    Renders h H proto w v [] := by
  refine .of_body (n := 0) (fun left => by rw [Surface.renderNode]; rfl) fun left => ?_
  obtain rfl | rfl | ⟨b, rfl⟩ := hv
  all_goals exact .pure _

theorem renders_text (s : Utf16) : Renders h H proto w (.string s) [.text s] := by
  refine .of_body (n := 2) (fun left => by rw [Surface.renderNode]; rfl) fun left => ?_
  refine .after_reads (.pure (Content.text s)) ?_
  refine Gives.of_le (n := 0) (.after (gives_need fun hok => hok.1) ?_) (Nat.zero_le _)
  exact .pure _

theorem RendersAll.gives_each (hall : RendersAll h H proto w vs ts) :
    ∃ n, ∀ left, Gives H (n ≤ left ∧ Passable proto w) n
      ((View.surface h).each ((View.surface h).renderNode left) vs) (ts.map rendered) := by
  induction vs generalizing ts with
  | nil =>
    obtain rfl := hall
    refine ⟨0, fun left => ?_⟩
    rw [Surface.each]
    exact .pure _
  | cons v vs ih =>
    obtain ⟨a, b, rfl, ⟨n, hv⟩, hvs⟩ := hall
    obtain ⟨n', hvs⟩ := ih hvs
    refine ⟨n + (1 + n'), fun left => ?_⟩
    rw [Surface.each, List.map_append]
    refine .bind ((hv left).imp fun hok => ⟨by omega, hok.2⟩) ?_
    refine .bind .countRound ?_
    refine .bind_reads ((hvs left).imp fun hok => ⟨by omega, hok.2⟩) ?_
    exact .pure _

theorem renders_items (ho : H[ref]? = some o)
    (hkind : o.kind = .array (items.map some).toArray items.length) (hw : items.length ≤ w)
    (hall : RendersAll h H proto w items ts) :
    Renders h H proto w (.object ref) (ts.map rendered) := by
  obtain ⟨n, heach⟩ := hall.gives_each
  refine .of_body (n := n + 1) (fun left => by rw [Surface.renderNode]; rfl) fun left => ?_
  have hcontent : Gives H (n + 1 ≤ left ∧ Passable proto w) 0
      ((View.surface h).content (.object ref)) (.items items) := by
    refine .after_reads (reads_isArray ho hkind) ?_
    rw [if_pos rfl]
    have hlist : Gives H (n + 1 ≤ left ∧ Passable proto w) 0 (listItems h (.object ref)) items :=
      (gives_listItems ho hkind).imp fun hok => by have := hok.2.1; omega
    exact hlist.bind_reads (.pure _)
  refine .after hcontent ?_
  dsimp only
  refine .after (gives_need fun hok => by omega) ?_
  exact (heach left).mono (fun hok => ⟨by omega, hok.2⟩) (by omega)

/-! ## Elements -/

/-- An element is known by its mark. -/
theorem reads_content_element (ho : H[ref]? = some o) (he : IsElement o tag p) :
    Reads H ((View.surface h).content (.object ref))
      (.element (.string (.whole tag)) (.object p)) := by
  have hproxy := isProxy_of_ordinary he.kind
  have hown : ∀ {k : Key} {s : Option Slot}, o.stored? k = s → o.own? k = s := by
    intro k s hs
    rwa [Obj.own?, he.kind]
  have hmark : Reads H (Toolkit.isMarked h (.object ref) Ref.elementMark) true := by
    refine (reads_isCallable_ordinary ho he.kind).bind ?_
    refine (reads_getProp ho hproxy (hown he.mark)).bind ?_
    exact .pure _
  refine (reads_isArray_ordinary ho he.kind).bind ?_
  refine (reads_isCallable_ordinary ho he.kind).bind ?_
  refine hmark.bind ?_
  refine (reads_getProp ho hproxy (hown he.type)).bind ?_
  refine (reads_getProp ho hproxy (hown he.props)).bind ?_
  exact .pure _

/-- What the renderer finds in the properties of an element: its attributes, what is inside, and no
markup that is given as such. -/
structure Shows (h : Script.Host) (H : Array Obj) (proto : Obj) (w : Nat) (props : Value)
    (as : List Attribute) (child : Value) : Prop where
  attributes : ∃ n, ∀ left, Gives H (n ≤ left ∧ Passable proto w) n
    ((View.surface h).keys props >>=
      (View.surface h).eachKey ((View.surface h).attributeFor left props)) as
  rawMarkup : Reads H ((View.surface h).rawMarkup props) none
  children : Reads H ((View.surface h).field props "children") child

/-- **An element of the page is rendered with its attributes and what is inside.** -/
theorem renders_element (ho : H[ref]? = some o) (he : IsElement o tag p)
    (hprops : Shows h H proto w (.object p) as child) (hchild : Renders h H proto w child rs) :
    Renders h H proto w (.object ref)
      [.element (.whole tag) as (if isListed voidTags (.whole tag) then [] else rs)] := by
  obtain ⟨n, hattributes⟩ := hprops.attributes
  obtain ⟨n', hchild⟩ := hchild
  have hhost : ∀ left, Gives H (n + n' + 2 + frameSize ≤ left ∧ Passable proto w)
      (n + n' + 2 + frameSize) ((View.surface h).renderHost left (.whole tag) (.object p))
      [.element (.whole tag) as (if isListed voidTags (.whole tag) then [] else rs)] := by
    intro left
    cases left with
    | zero =>
      rw [Surface.renderHost]
      exact .stopped (by omega) fun m => ⟨_, _, rfl⟩
    | succ left =>
      rw [Surface.renderHost, ← bind_assoc]
      refine .framed 2 (.bind ((hattributes left).imp fun hok => ⟨by omega, hok.2⟩) ?_)
      split
      · -- nothing is inside a void element, whatever its properties say
        exact (Gives.pure _).of_le (Nat.zero_le _)
      · refine .after_reads hprops.rawMarkup ?_
        refine .after_reads hprops.children ?_
        refine .bind_reads ((hchild left).imp fun hok => ⟨by omega, hok.2⟩) ?_
        exact .pure _
  refine .of_body (n := n + n' + 2 + frameSize + 1 + frameSize)
    (fun left => by rw [Surface.renderNode]; rfl) fun left => ?_
  refine .after_reads (reads_content_element ho he) ?_
  dsimp only
  cases left with
  | zero =>
    rw [Surface.renderElement]
    exact .stopped (by omega) fun m => ⟨_, _, rfl⟩
  | succ left =>
    rw [Surface.renderElement]
    refine .framed 1 ?_
    refine .after_reads (.pure (ElementKind.host (.whole tag))) ?_
    exact (hhost left).imp fun hok => ⟨by omega, hok.2⟩

theorem IsProps.shows (hclean : IsClean proto) (hproto : H[Ref.objectProto]? = some proto)
    {props : Obj} (hprops : H[p]? = some props) (hp : IsProps props attributes child)
    (hh : IsHost tag attributes) (hw : attributes.length ≤ w) :
    Shows h H proto w (.object p) (attributes.map fun a => ⟨.whole a.1, some a.2⟩) child where
  attributes := by
    refine ⟨attributes.length + 3, fun left => ?_⟩
    refine (gives_attributes hclean hproto hprops hp hh fun hok => ?_).of_le (Nat.le_succ _)
    have := hok.2.2
    omega
  rawMarkup := by
    refine (reads_getProp_absent hprops hp.isProxy (hp.own?_rawMarkup hh) hp.parent hproto
      hclean.isQuiet.isProxy hclean.rawMarkup hclean.isQuiet.parent).bind ?_
    exact .pure _
  children := by
    obtain ⟨-, hown⟩ | ⟨-, hown, rfl⟩ := hp.own?_children hh
    · exact reads_getProp hprops hp.isProxy hown
    · exact reads_getProp_absent hprops hp.isProxy hown hp.parent hproto hclean.isQuiet.isProxy
        hclean.children hclean.isQuiet.parent

/-! ## Whole pages -/

theorem isPage_append (h : IsPage (ts ++ ts')) : IsPage ts ∧ IsPage ts' := by
  induction ts with
  | nil => exact ⟨.nil, h⟩
  | cons t ts ih =>
    cases h with
    | text h => exact ⟨.text (ih h).1, (ih h).2⟩
    | element hhost hvoid hc h => exact ⟨.element hhost hvoid hc (ih h).1, (ih h).2⟩

/-- **Values that stand for content are rendered as that content.** -/
theorem Stands.rendersAll (hclean : IsClean proto) (hproto : H[Ref.objectProto]? = some proto)
    (hs : Stands H w vs ts) (hpage : IsPage ts) : RendersAll h H proto w vs ts := by
  induction hs with
  | nil => rfl
  | nothing hv _ ih => exact ⟨[], _, rfl, renders_nothing hv, ih hpage⟩
  | @text s vs ts _ ih =>
    cases hpage with
    | text hpage =>
      refine ⟨[.text s], ts, rfl, ?_, ih hpage⟩
      rw [List.map_singleton, rendered]
      exact renders_text s
  | @items ref o items vs ts ts' ho hkind hw _ _ ihItems ih =>
    obtain ⟨hitems, hrest⟩ := isPage_append hpage
    exact ⟨ts, ts', rfl, renders_items ho hkind hw (ihItems hitems), ih hrest⟩
  | @element ref p o props tag attributes child vs children ts ho he hprops hp hw _ _ ihChild ih =>
    cases hpage with
    | element hhost hvoid hc hpage =>
      -- what is inside is one value, and all of its content
      obtain ⟨a, b, heq, hchild, rfl⟩ := ihChild hc
      obtain rfl := heq.trans (List.append_nil a)
      have helement := renders_element ho he (hp.shows hclean hproto hprops hhost hw) hchild
      rw [isListed_voidTags hhost.isTag.1 (ne_constructor hhost.isTag.2)] at helement
      refine ⟨[.element tag attributes children], ts, rfl, ?_, ih hpage⟩
      rw [List.map_singleton, rendered]
      by_cases htag : tag ∈ Markup.voidTags
      · rw [if_pos (by simpa using htag)] at helement
        rwa [hvoid htag]
      · rwa [if_neg (by simpa using htag)] at helement

end Component
end Restyle
