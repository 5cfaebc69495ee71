import Restyle.Document.Locate
import Restyle.Proofs.Document.Tree
import Restyle.Proofs.Path.Text

/-!
# Restyle.Proofs.Markup.Tree

Documents in which the tag of every element is a name. Their paths have names for tags
(`IsNamed.identify`).

Every document read from markup is a tree (`isTree_ofMarkup`) whose tags are names
(`isNamed_ofMarkup`), however malformed the markup is. The reader keeps `Building`: this holds of
the document so far, and what is open are elements of it.
-/

namespace Restyle
namespace Document

variable {d d' : Document} {h p c root : Handle} {kind : NodeKind}

/-! ## Tags -/

theorem tag?_withRoot (tag cls : String) : (withRoot tag cls).tag? 0 = some (Text.lower tag) := by
  unfold withRoot
  dsimp only
  split <;> rfl

/-- What holds of the tags there were and of that of a new element holds of all tags. -/
theorem tags_create {P : String → Prop} (hd : ∀ h tag, d.tag? h = some tag → P tag)
    (hk : ∀ e, kind = .element e → P e.tag) (h : Handle) (tag : String)
    (ht : (d.create kind).1.tag? h = some tag) : P tag := by
  by_cases hh : h = d.size
  · unfold tag? element? at ht
    rw [node?_create, if_pos hh] at ht
    cases kind with
    | element e => cases ht; exact hk e rfl
    | text content => cases ht
  · refine hd h tag ?_
    unfold tag? element? at ht ⊢
    rwa [node?_create, if_neg hh] at ht

@[simp] theorem tag?_append : (d.append p c).tag? h = d.tag? h := by
  rw [tag?, element?_append, ← tag?]

/-- The tag of every element is a name. -/
def IsNamed (d : Document) : Prop := ∀ h tag, d.tag? h = some tag → Markup.Tag.IsName tag

theorem IsNamed.withRoot {tag : String} (hn : Markup.Tag.IsName tag) (cls : String) :
    (withRoot tag cls).IsNamed := by
  intro h t ht
  rcases h with _ | h
  · rw [tag?_withRoot] at ht
    cases ht
    exact Markup.Tag.isName_lower hn
  · simp [Document.withRoot, tag?, element?, node?] at ht

theorem IsNamed.create (hd : d.IsNamed) (hk : ∀ e, kind = .element e → Markup.Tag.IsName e.tag) :
    (d.create kind).1.IsNamed :=
  tags_create hd hk

theorem IsNamed.append (hd : d.IsNamed) (p c : Handle) : (d.append p c).IsNamed := by
  intro h t ht
  exact hd h t (tag?_append ▸ ht)

theorem IsNamed.of_sameShape (hd : d.IsNamed) (hs : SameShape d d') : d'.IsNamed := by
  intro h t ht
  exact hd h t (hs.tag? h ▸ ht)

/-- What holds of every step that is recorded on the way up holds of the steps of a climb. -/
theorem climb_steps {P : Step → Prop}
    (hP : ∀ h p tag, d.parent? h = some p → d.tag? h = some tag → P ⟨tag, d.indexAmong p tag h⟩)
    (stop : Handle → Bool) (fuel : Nat) (h : Handle) :
    ∀ below, (∀ s ∈ below, P s) → ∀ s ∈ d.climb stop fuel h below, P s := by
  induction fuel generalizing h with
  | zero => exact fun below hb => hb
  | succ fuel ih =>
    intro below hb
    unfold Document.climb
    split
    · exact hb
    · split
      · rename_i tag hp ht
        exact ih _ _ (List.forall_mem_cons.mpr ⟨hP h _ tag hp ht, hb⟩)
      · exact hb

theorem IsNamed.climb (hd : d.IsNamed) (stop : Handle → Bool) (fuel : Nat) (h : Handle) :
    ∀ below, (∀ s ∈ below, s.IsNamed) → ∀ s ∈ d.climb stop fuel h below, s.IsNamed :=
  climb_steps (fun h _ tag _ ht => hd h tag ht) stop fuel h

theorem IsNamed.identify (hd : d.IsNamed) (h root : Handle) : (d.identify h root).IsNamed :=
  hd.climb _ _ h [] fun _ hs => by cases hs

end Document

/-! ## Documents read from markup -/

namespace Markup

variable {base p h : Handle} {d : Document} {opened : List Handle}

/-- The document is a tree of named tags, and the base and all that is open are elements of
it. -/
structure Building (base : Handle) (d : Document) (opened : List Handle) : Prop where
  isTree : d.IsTree
  isNamed : d.IsNamed
  isElement : ∀ h ∈ base :: opened, d.isElement h = true

/-- What is still open after an end tag was open before. -/
theorem close_suffix (d : Document) (name : String) (opened : List Handle) :
    close d name opened <:+ opened := by
  unfold close
  split
  · exact List.suffix_refl _
  · rename_i inner outer hdrop
    have hsuffix := List.dropWhile_suffix (fun h => d.tag? h != some name) (l := opened)
    rw [hdrop] at hsuffix
    exact (List.suffix_cons inner outer).trans hsuffix

namespace Building

theorem current (hb : Building base d opened) : d.isElement (opened.headD base) = true := by
  cases opened with
  | nil => exact hb.isElement _ (List.mem_cons_self ..)
  | cons h opened => exact hb.isElement _ (List.mem_cons_of_mem _ (List.mem_cons_self ..))

theorem add {kind : NodeKind} (hb : Building base d opened) (hp : d.isElement p = true)
    (hk : ∀ e, kind = .element e → Tag.IsName e.tag) :
    Building base ((d.create kind).1.append p d.size) opened where
  isTree := hb.isTree.add hp kind
  isNamed := (hb.isNamed.create hk).append _ _
  isElement h hh := by
    rw [Document.isElement_append]
    exact Document.isElement_create (hb.isElement h hh)

theorem addText (hb : Building base d opened) (hp : d.isElement p = true) (content : List Char) :
    Building base (addText d p content) opened := by
  unfold Markup.addText
  split
  · exact hb
  · exact hb.add hp fun _ h => by cases h

theorem push (hb : Building base d opened) (hh : d.isElement h = true) :
    Building base d (h :: opened) where
  isTree := hb.isTree
  isNamed := hb.isNamed
  isElement x hx := by
    rcases List.mem_cons.mp hx with rfl | hx
    · exact hb.isElement _ (List.mem_cons_self ..)
    · rcases List.mem_cons.mp hx with rfl | hx
      · exact hh
      · exact hb.isElement x (List.mem_cons_of_mem _ hx)

theorem close (hb : Building base d opened) (name : String) :
    Building base d (close d name opened) where
  isTree := hb.isTree
  isNamed := hb.isNamed
  isElement x hx := by
    refine hb.isElement x ?_
    rcases List.mem_cons.mp hx with rfl | hx
    · exact List.mem_cons_self ..
    · exact List.mem_cons_of_mem _ ((close_suffix d name opened).mem hx)

/-- A tag that was read describes an element with a name for a tag. -/
theorem addTag {c : Char} {cs rest : List Char} {t : Tag} (hb : Building base d opened)
    (hp : d.isElement p = true) (h : Piece.next c cs = (.tag t, rest)) :
    Building base ((d.create (.element t.element)).1.append p d.size) opened :=
  hb.add hp fun _ he => by cases he; exact Tag.isName_element (Tag.isName_next h)

theorem isElement_addTag (e : Element) :
    ((d.create (.element e)).1.append p d.size).isElement d.size = true := by
  rw [Document.isElement_append]
  exact Document.isElement_create_new e

theorem readInto {cs : List Char} (hb : Building base d opened) :
    (readInto base d opened cs).IsTree ∧ (readInto base d opened cs).IsNamed := by
  fun_induction Markup.readInto base d opened cs with
  | case1 => exact ⟨hb.isTree, hb.isNamed⟩
  | case2 d opened c cs current content rest _ ih => exact ih (hb.addText hb.current _)
  | case3 d opened c cs rest _ ih => exact ih hb
  | case4 d opened c cs t rest _ _ ih => exact ih (hb.close _)
  | case5 d opened c cs current t rest hnext _ d' e heq d'' _ ih =>
    cases heq
    exact ih (hb.addTag hb.current hnext)
  | case6 d opened c cs current t rest hnext _ d' e heq d'' _ _ content after _ ih =>
    cases heq
    exact ih ((hb.addTag hb.current hnext).addText (isElement_addTag _) _)
  | case7 d opened c cs current t rest hnext _ d' e heq d'' _ _ ih =>
    cases heq
    exact ih ((hb.addTag hb.current hnext).push (isElement_addTag _))

end Building
end Markup

namespace Document

/-- Reading begins with the root alone. -/
theorem building_withRoot (cls : String) : Markup.Building 0 (withRoot "div" cls) [] where
  isTree := .withRoot "div" cls
  isNamed := .withRoot (List.all_eq_true.mp (by decide)) cls
  isElement h hh := by
    rw [List.mem_singleton.mp hh]
    exact (IsTree.withRoot "div" cls).isElement_root

/-- Reading keeps what adding a node keeps, wherever it adds the nodes. -/
theorem readMarkup_induction {P : Document → Prop} {d : Document}
    (hadd : ∀ (d : Document) (p : Handle) (kind : NodeKind), P d →
      P ((d.create kind).1.append p d.size))
    (hd : P d) (parent : Handle) (markup : String) : P (d.readMarkup parent markup) := by
  have haddText : ∀ {d : Document}, P d → ∀ p content, P (Markup.addText d p content) := by
    intro d hd p content
    unfold Markup.addText
    split
    · exact hd
    · exact hadd _ _ _ hd
  unfold Document.readMarkup
  generalize ([] : List Handle) = opened
  fun_induction Markup.readInto parent d opened markup.toList with
  | case1 => exact hd
  | case2 d opened c cs current content rest _ ih => exact ih (haddText hd _ _)
  | case3 d opened c cs rest _ ih => exact ih hd
  | case4 d opened c cs t rest _ _ ih => exact ih hd
  | case5 d opened c cs current t rest _ _ d' e heq d'' _ ih =>
    cases heq
    exact ih (hadd _ _ _ hd)
  | case6 d opened c cs current t rest _ _ d' e heq d'' _ _ content after _ ih =>
    cases heq
    exact ih (haddText (hadd _ _ _ hd) _ _)
  | case7 d opened c cs current t rest _ _ d' e heq d'' _ _ ih =>
    cases heq
    exact ih (hadd _ _ _ hd)

theorem Linked.readMarkup {d : Document} (hl : d.Linked) (parent : Handle) (markup : String) :
    (d.readMarkup parent markup).Linked :=
  readMarkup_induction (fun _ p kind hl => (hl.create kind).append p _) hl parent markup

theorem isTree_ofMarkup (markup cls : String) : (ofMarkup markup cls).IsTree :=
  (building_withRoot cls).readInto.1

theorem isNamed_ofMarkup (markup cls : String) : (ofMarkup markup cls).IsNamed :=
  (building_withRoot cls).readInto.2

end Document
end Restyle
