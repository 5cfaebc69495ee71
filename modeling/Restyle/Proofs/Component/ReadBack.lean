import Restyle.Proofs.Markup.Written

/-!
# Restyle.Proofs.Component.ReadBack

Markup that the renderer writes for texts and elements of the page is read back as what it stands
for: the same elements with the same attributes, and of the texts the runs between them
(`outline_ofMarkup`).

The reader stands in the middle of a text when an element begins, so that the induction carries the
text that was written and not yet read.
-/

namespace Restyle

/-! ## Pages -/

namespace Component

open Script (Utf16)
open Markup (IsHostName)

/-- Content of a page as components describe it: texts, and elements with their attributes. -/
inductive PageTree where
  | text (s : Utf16)
  | element (tag : String) (attributes : List (String × Utf16)) (children : List PageTree)

namespace PageTree

/-- An element that is only what it is on the page: its tag and the names of its attributes mean
nothing else to the renderer or to the reader. -/
structure IsHost (tag : String) (attributes : List (String × Utf16)) : Prop where
  isTag : IsHostName tag ∧ tag ∉ ["script", "style", "constructor"]
  isAttribute : ∀ a ∈ attributes,
    IsHostName a.1 ∧ a.1 ∉ ["style", "key", "ref", "children", "constructor"]
  nodup : (attributes.map (·.1)).Nodup

/-- What is inside such an element is not raw text. -/
theorem not_mem_rawTags {tag : String} (h : tag ∉ ["script", "style", "constructor"]) :
    tag ∉ Markup.rawTags := fun hmem => h (List.mem_append_left ["constructor"] hmem)

theorem ne_constructor {tag : String} (h : tag ∉ ["script", "style", "constructor"]) :
    tag ≠ "constructor" := fun heq => h (by simp [heq])

inductive IsPage : List PageTree → Prop where
  | nil : IsPage []
  | text {s : Utf16} {ts : List PageTree} : IsPage ts → IsPage (.text s :: ts)
  | element {tag : String} {attributes : List (String × Utf16)} {children ts : List PageTree} :
      IsHost tag attributes → (tag ∈ Markup.voidTags → children = []) → IsPage children →
      IsPage ts → IsPage (.element tag attributes children :: ts)

/-- What is rendered. -/
def rendered : PageTree → Rendered
  | text s => .text s
  | element tag attributes children =>
    .element (.whole tag) (attributes.map fun a => ⟨.whole a.1, some a.2⟩) (children.map rendered)

/-- What attributes are on the page. -/
def spelledAttributes (attributes : List (String × Utf16)) : List (String × String) :=
  attributes.map fun a => (a.1, a.2.spell)

/-- The element on the page. -/
def shown (tag : String) (attributes : List (String × Utf16)) : Element :=
  { tag, attributes := spelledAttributes attributes }

/-- A run of text, unless it is empty. -/
def run (s : Utf16) : List Outline := if s.isEmpty then [] else [.text s.spell]

/-- What stands on the page, after a text: texts next to each other are one. -/
def settleFrom (s : Utf16) : List PageTree → List Outline
  | [] => run s
  | text t :: ts => settleFrom (s ++ t) ts
  | element tag attributes children :: ts =>
    run s ++ .element (shown tag attributes) (settleFrom "" children) :: settleFrom "" ts

def settle (ts : List PageTree) : List Outline := settleFrom "" ts

end PageTree
end Component

/-! ## Steps of the reader -/

namespace Markup

variable {base : Handle} {d : Document} {opened : List Handle} {c : Char} {cs rest : List Char}
  {t : Tag}

theorem readInto_text {content : List Char} (h : Piece.next c cs = (.text content, rest)) :
    readInto base d opened (c :: cs) =
      readInto base (addText d (opened.headD base) (Entity.decode content)) opened rest := by
  rw [readInto]
  split <;> rename_i heq <;> rw [h] at heq <;> cases heq
  rfl

theorem readInto_end (h : Piece.next c cs = (.tag t, rest)) (hclosing : t.closing = true) :
    readInto base d opened (c :: cs) = readInto base d (close d t.name opened) rest := by
  rw [readInto]
  split <;> rename_i heq <;> rw [h] at heq <;> cases heq
  rw [if_pos hclosing]

theorem readInto_start (h : Piece.next c cs = (.tag t, rest)) (hclosing : t.closing = false)
    (hself : t.selfClosing = false) (hraw : t.name ∉ rawTags) :
    readInto base d opened (c :: cs) =
      readInto base (d.add (opened.headD base) (.element t.element))
        (if t.name ∈ voidTags then opened else d.size :: opened) rest := by
  rw [readInto]
  split <;> rename_i heq <;> rw [h] at heq <;> cases heq
  have hraw' : rawTags.contains t.name = false := by simpa using hraw
  by_cases hvoid : t.name ∈ voidTags
  · simp [hclosing, hself, hvoid]
    rfl
  · simp [hclosing, hself, hvoid, hraw]
    rfl

end Markup

/-! ## What planting leaves -/

namespace Document

variable {d : Document} {p h : Handle}

theorem element?_add_of_isSome {kind : NodeKind} (hh : (d.element? h).isSome = true) :
    (d.add p kind).element? h = d.element? h := by
  have hlt := lt_size_of_isElement (d := d) hh
  rw [add, element?_append, element?, element?, node?_create, if_neg (Nat.ne_of_lt hlt)]

theorem element?_add_size (e : Element) : (d.add p (.element e)).element? d.size = some e := by
  rw [add, element?_append, element?, node?_create, if_pos rfl]

mutual

theorem element?_plantOne (d : Document) (p : Handle) (hh : (d.element? h).isSome = true) :
    ∀ o, (d.plantOne p o).element? h = d.element? h
  | .text content => by rw [plantOne, element?_add_of_isSome hh]
  | .element e children => by
    have hadd : (d.add p (.element e)).element? h = d.element? h := element?_add_of_isSome hh
    rw [plantOne, element?_plant _ d.size (by rwa [hadd]) children, hadd]

/-- Elements that are there stay what they are. -/
theorem element?_plant (d : Document) (p : Handle) (hh : (d.element? h).isSome = true) :
    ∀ os, (d.plant p os).element? h = d.element? h
  | [] => by rw [plant]
  | o :: os => by
    have hone := element?_plantOne d p hh o
    rw [plant, element?_plant _ p (by rwa [hone]) os, hone]

end

end Document

/-! ## What is written -/

namespace Component

open Script (Utf16)
open Script.Utf16 (spelled)
open Markup (IsHostName writtenAttribute)

open PageTree Rendered

theorem spelled_attributes (attributes : List (String × Utf16)) (us : List UInt16) :
    spelled ((concat ((attributes.map fun a => (⟨.whole a.1, some a.2⟩ : Attribute)).map
      Attribute.markup)).units ++ us) =
      (spelledAttributes attributes).flatMap writtenAttribute ++ spelled us := by
  induction attributes with
  | nil => rfl
  | cons a attributes ih =>
    have hvalue : spelled (a.2.units.flatMap (escapedUnit true)) =
        a.2.spell.toList.flatMap (escaped true) := by
      rw [spelled_escaped, Utf16.toList_spell]
    simp only [List.map_cons, concat, Attribute.markup, Utf16.units_append, List.append_assoc,
      units_escapeAttribute, Utf16.spelled_whole_append]
    rw [Utf16.spelled_append_whole _ (by decide), ih, hvalue]
    simp [spelledAttributes, writtenAttribute]

/-- No tag of the page is listed because all objects have a property of that name. -/
theorem isListed_voidTags {tag : String} (h : IsHostName tag) (hne : tag ≠ "constructor") :
    isListed voidTags (.whole tag) = decide (tag ∈ Markup.voidTags) := by
  have hcommon : ∀ name ∈ commonNames, name ≠ "constructor" →
      name.toList.all Markup.isHostChar = false := by decide
  have hnot : commonNames.contains tag = false := by
    rw [Bool.eq_false_iff]
    intro hmem
    have := hcommon tag (by simpa using hmem) hne
    rw [List.all_eq_true.mpr h.all] at this
    cases this
  have hsame : Markup.voidTags.contains tag = voidTags.contains tag := rfl
  rw [isListed, hnot, Bool.or_false, ← hsame, List.contains_eq_mem]

theorem spelled_element {tag : String} (h : IsHostName tag) (hne : tag ≠ "constructor")
    (attributes : List (String × Utf16)) (children : List PageTree) (us vs : List UInt16) :
    spelled (us ++ ((rendered (.element tag attributes children)).markup.units ++ vs)) =
      spelled us ++ '<' :: (tag.toList ++ ((spelledAttributes attributes).flatMap writtenAttribute ++
        '>' :: if tag ∈ Markup.voidTags then spelled vs
          else spelled (markupAll (children.map rendered)).units ++
            '<' :: '/' :: (tag.toList ++ '>' :: spelled vs))) := by
  rw [rendered, markup, isListed_voidTags h hne]
  by_cases hvoid : tag ∈ Markup.voidTags
  · simp only [hvoid, decide_true, if_true, Utf16.units_append, List.append_assoc]
    rw [Utf16.spelled_append_whole us (by decide)]
    simp only [Utf16.spelled_whole_append, spelled_attributes]
    simp
  · simp only [hvoid, decide_false, Bool.false_eq_true, if_false, Utf16.units_append, List.append_assoc]
    rw [Utf16.spelled_append_whole us (by decide)]
    simp only [Utf16.spelled_whole_append, spelled_attributes]
    rw [Utf16.spelled_append_whole _ (by decide), Utf16.spelled_whole_append,
      Utf16.spelled_whole_append]
    simp

end Component

/-! ## What is read back -/

namespace Markup

open Script (Utf16)
open Script.Utf16 (spelled)
open Component Component.PageTree Component.Rendered

variable {base : Handle} {ts : List PageTree} {rest : List Char}

/-- A text is read up to the next tag, or to the end. -/
theorem readInto_run (d : Document) (opened : List Handle) (s : Utf16)
    (hrest : ∀ c, rest.head? = some c → c = '<') :
    readInto base d opened (spelled (s.units.flatMap (escapedUnit false)) ++ rest) =
      readInto base (d.plant (opened.headD base) (run s)) opened rest := by
  rw [spelled_escaped, run]
  by_cases hempty : s.isEmpty = true
  · -- the reader does not even see it
    rw [(Utf16.isEmpty_iff s).mp hempty, if_pos hempty, Document.plant]
    rfl
  · have hne : spelled s.units ≠ [] := by
      rw [Ne, Utf16.spelled_eq_nil_iff, ← Utf16.isEmpty_iff]
      exact hempty
    have hplain : ∀ c ∈ (spelled s.units).flatMap (escaped false), c ≠ '<' := by
      intro c hc
      obtain ⟨x, -, hx⟩ := List.mem_flatMap.mp hc
      exact (ne_of_mem_escaped hx).1
    have hdecode := decode_escaped false (spelled s.units)
    have hwritten : (spelled s.units).flatMap (escaped false) ≠ [] := by
      intro hnil
      rw [hnil, Entity.decode] at hdecode
      exact hne hdecode.symm
    obtain ⟨c, cs, hcs⟩ := List.exists_cons_of_ne_nil hwritten
    rw [hcs] at hplain hdecode ⊢
    have hnext := next_text (hplain c (List.mem_cons_self ..))
      (fun x hx => hplain x (List.mem_cons_of_mem _ hx)) hrest
    have hadd : ∀ p, addText d p (spelled s.units) = d.add p (.text s.spell) := by
      intro p
      rw [addText, if_neg (by simpa using hne), ← Utf16.toList_spell, String.ofList_toList]
      rfl
    rw [List.cons_append, readInto_text hnext, hdecode, if_neg hempty, hadd, Document.plant,
      Document.plantOne, Document.plant]

theorem isHostName_spelled {tag : String} {attributes : List (String × Utf16)}
    (h : IsHost tag attributes) :
    ∀ a ∈ spelledAttributes attributes, IsHostName a.1 ∧ a.1 ≠ "style" := by
  intro a ha
  obtain ⟨b, hb, rfl⟩ := List.mem_map.mp ha
  obtain ⟨hname, hne⟩ := h.isAttribute b hb
  exact ⟨hname, fun heq => hne (by simp [show b.1 = "style" from heq])⟩

theorem element_shown {tag : String} {attributes : List (String × Utf16)}
    (h : IsHost tag attributes) :
    Tag.element { name := tag, attributes := spelledAttributes attributes } =
      shown tag attributes := by
  refine element_written h.isTag.1 (isHostName_spelled h) ?_
  rw [spelledAttributes, List.map_map]
  exact h.nodup

theorem readInto_opening {tag : String} {attributes : List (String × String)} (h : IsHostName tag)
    (hraw : tag ∉ rawTags) (ha : ∀ a ∈ attributes, IsHostName a.1) (d : Document)
    (opened : List Handle) :
    readInto base d opened ('<' :: (tag.toList ++ (attributes.flatMap writtenAttribute ++ '>' :: rest))) =
      readInto base (d.add (opened.headD base) (.element (Tag.element { name := tag, attributes })))
        (if tag ∈ voidTags then opened else d.size :: opened) rest :=
  readInto_start (next_start h ha rest) rfl rfl hraw

theorem readInto_closing {tag : String} (h : IsHostName tag) {d : Document} {x : Handle}
    (hx : d.tag? x = some tag) (opened : List Handle) :
    readInto base d (x :: opened) ('<' :: '/' :: (tag.toList ++ '>' :: rest)) =
      readInto base d opened rest := by
  rw [readInto_end (next_end h rest) rfl, close, List.dropWhile_cons_of_neg (by simp [hx])]

/-- **What was written is read.** Before it stands a text that is not yet read. -/
theorem readInto_markupAll (h : IsPage ts) (d : Document) (opened : List Handle) (s : Utf16)
    (hrest : ∀ c, rest.head? = some c → c = '<') :
    readInto base d opened
        (spelled (s.units.flatMap (escapedUnit false) ++ (markupAll (ts.map rendered)).units) ++ rest) =
      readInto base (d.plant (opened.headD base) (settleFrom s ts)) opened rest := by
  induction h generalizing d opened s rest with
  | nil =>
    rw [List.map_nil, markupAll, settleFrom, ← readInto_run d opened s hrest]
    simp
  | @text t ts _ ih =>
    have hjoin : s.units.flatMap (escapedUnit false) ++
        (markupAll ((PageTree.text t :: ts).map rendered)).units =
        (s ++ t).units.flatMap (escapedUnit false) ++ (markupAll (ts.map rendered)).units := by
      rw [List.map_cons, rendered, markupAll, markup, Utf16.units_append, units_escapeText,
        Utf16.units_append, List.flatMap_append, List.append_assoc]
    rw [hjoin, ih d opened (s ++ t) hrest, settleFrom]
  | @element tag attributes children ts hhost hvoid _ _ ihc ih =>
    -- Behind a tag no text waits.
    have hfresh : ∀ ts : List PageTree, spelled (markupAll (ts.map rendered)).units =
        spelled ((Utf16.whole "").units.flatMap (escapedUnit false) ++
          (markupAll (ts.map rendered)).units) := fun ts => rfl
    have hnone : settleFrom "" [] = [] := by
      rw [settleFrom, run]
      rfl
    obtain ⟨hname, hnot⟩ := hhost.isTag
    have hnames := fun a ha => (isHostName_spelled hhost a ha).1
    rw [List.map_cons, markupAll, Utf16.units_append, spelled_element hname (ne_constructor hnot),
      List.append_assoc, readInto_run d opened s (by simp), List.cons_append, List.append_assoc,
      List.append_assoc, List.cons_append,
      readInto_opening hname (not_mem_rawTags hnot) hnames, element_shown hhost, settleFrom,
      Document.plant_append, Document.plant, Document.plantOne]
    generalize d.plant (opened.headD base) (run s) = before
    by_cases htag : tag ∈ voidTags
    · rw [if_pos htag, if_pos htag, hvoid htag, hnone, Document.plant, hfresh ts,
        ih _ opened "" hrest]
    · have hnew := Document.element?_add_size (d := before) (p := opened.headD base)
        (shown tag attributes)
      have htagged : ((before.add (opened.headD base) (.element (shown tag attributes))).plant
          before.size (settleFrom "" children)).tag? before.size = some tag := by
        rw [Document.tag?, Document.element?_plant _ _ (by rw [hnew]; rfl), hnew]
        rfl
      rw [if_neg htag, if_neg htag, List.append_assoc, hfresh children, ihc _ _ "" (by simp),
        List.headD_cons, List.cons_append, List.cons_append, List.append_assoc, List.cons_append,
        readInto_closing hname htagged, hfresh ts, ih _ opened "" hrest]

end Markup

namespace Document

open Component Component.PageTree Component.Rendered

/-- **What is rendered is what is read.** -/
theorem outline_ofMarkup {ts : List PageTree} (h : IsPage ts) (cls : String) :
    (ofMarkup (markupAll (ts.map rendered)).spell cls).outline 0 =
      [.element (if cls.isEmpty then Element.ofTag "div"
        else (Element.ofTag "div").setAttribute "class" cls) (settle ts)] := by
  have hread : ofMarkup (markupAll (ts.map rendered)).spell cls =
      (withRoot "div" cls).plant 0 (settle ts) := by
    have hend : ∀ c, ([] : List Char).head? = some c → c = '<' := by simp
    have hmain := @Markup.readInto_markupAll 0 ts [] h (withRoot "div" cls) [] "" hend
    rw [List.append_nil, Markup.readInto] at hmain
    rw [ofMarkup, readMarkup, Script.Utf16.toList_spell]
    exact hmain
  have htree := isTree_ofMarkup (markupAll (ts.map rendered)).spell cls
  rw [hread] at htree ⊢
  exact outline_plant rfl htree

/-- An element with nothing inside is read back with what its attributes say, also its style. -/
theorem outline_ofMarkup_element {tag : String} {attributes : List (String × Script.Utf16)}
    (htag : Markup.IsHostName tag) (hnot : tag ∉ ["script", "style", "constructor"])
    (ha : ∀ a ∈ spelledAttributes attributes, Markup.IsHostName a.1) (cls : String) :
    (ofMarkup (markupAll [rendered (.element tag attributes [])]).spell cls).outline 0 =
      [.element (if cls.isEmpty then Element.ofTag "div"
          else (Element.ofTag "div").setAttribute "class" cls)
        [.element (Markup.Tag.element { name := tag, attributes := spelledAttributes attributes }) []]] := by
  have hread : ofMarkup (markupAll [rendered (.element tag attributes [])]).spell cls =
      (withRoot "div" cls).add 0 (.element (Markup.Tag.element
        { name := tag, attributes := spelledAttributes attributes })) := by
    have hspelled := spelled_element htag (ne_constructor hnot) attributes [] [] []
    have hall : (markupAll [rendered (.element tag attributes [])]).units =
        (rendered (.element tag attributes [])).markup.units ++ [] := by
      rw [markupAll, Script.Utf16.units_append]
      rfl
    rw [List.nil_append, ← hall] at hspelled
    have hempty : Script.Utf16.spelled ([] : List UInt16) = [] := rfl
    have hinside : Script.Utf16.spelled (markupAll (([] : List PageTree).map rendered)).units = [] := rfl
    rw [ofMarkup, readMarkup, Script.Utf16.toList_spell, hspelled, hempty, hinside, List.nil_append,
      Markup.readInto_opening htag (not_mem_rawTags hnot) ha]
    by_cases hvoid : tag ∈ Markup.voidTags
    · rw [if_pos hvoid, if_pos hvoid, Markup.readInto]
      rfl
    · have hnew := element?_add_size (d := withRoot "div" cls) (p := 0) (Markup.Tag.element
        { name := tag, attributes := spelledAttributes attributes })
      have htagged : ((withRoot "div" cls).add 0 (.element (Markup.Tag.element
          { name := tag, attributes := spelledAttributes attributes }))).tag? 1 = some tag := by
        rw [tag?, show (1 : Handle) = (withRoot "div" cls).size from rfl, hnew, Option.map_some,
          Markup.Tag.tag_element, htag.lower]
      rw [if_neg hvoid, if_neg hvoid, List.nil_append]
      exact (Markup.readInto_closing htag htagged []).trans (by rw [Markup.readInto])
  have htree := isTree_ofMarkup (markupAll [rendered (.element tag attributes [])]).spell cls
  rw [hread] at htree ⊢
  have hplant := @outline_plant (withRoot "div" cls) [.element (Markup.Tag.element
    { name := tag, attributes := spelledAttributes attributes }) []] _ rfl
  simp only [plant, plantOne] at hplant
  exact hplant htree

end Document
end Restyle
