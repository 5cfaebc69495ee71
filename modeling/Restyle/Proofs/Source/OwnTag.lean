import Restyle.Proofs.Document.Tree
import Restyle.Proofs.Markup.Tree
import Restyle.Proofs.Source.StaticMarkup

/-!
# Restyle.Proofs.Source.OwnTag

Which tag of the source a path is patched at, where a document shows static markup.

A path ends with the tag of an element and its index among the siblings of that tag; the patcher
takes this index for a count of tags in the whole source. `Prints` says by which tag of the source
an element is printed. The patcher takes this tag exactly when the two counts agree
(`patches_own_tag_iff`). They do for siblings that hold no element of their tag, and do not for an
element inside another one of its tag (`nested_not_own`).
-/

namespace Restyle
namespace Source

variable {d : Document} {T : Contents} {e h : Handle} {hs : List Handle}

/-! ## Documents that show static markup -/

/-- The elements `hs` and what is below them are those of the markup, in order. -/
inductive Shows (d : Document) : Contents → List Handle → Prop where
  | done : Shows d .done []
  | text {content : List Char} {rest : Contents} {hs : List Handle} :
      Shows d rest hs → Shows d (.text content rest) hs
  | element {tag : StaticTag} {inside rest : Contents} {h : Handle} {hs : List Handle} :
      d.tag? h = some (Text.lower (String.ofList tag.name)) →
      Shows d inside (d.elementChildren h) → Shows d rest hs →
      Shows d (.element tag inside rest) (h :: hs)
  | closed {tag : StaticTag} {rest : Contents} {h : Handle} {hs : List Handle} :
      d.tag? h = some (Text.lower (String.ofList tag.name)) → d.elementChildren h = [] →
      Shows d rest hs → Shows d (.closed tag rest) (h :: hs)

/-- A tag of printed markup: the text before and after it, and the tags opened before it. -/
structure Place where
  before : List Char := []
  tag : StaticTag
  selfClosing : Bool
  after : List Char
  opened : List StaticTag := []

namespace Place

def site (p : Place) : TagSite where
  before := p.before
  name := p.tag.name
  attributes := p.tag.attributeText
  closing := StaticTag.ends p.selfClosing
  selfClosing := p.selfClosing
  after := p.after

/-- The place with more text around it, where tags are opened before. -/
def within (p : Place) (before after : List Char) (opened : List StaticTag) : Place :=
  { p with
    before := before ++ p.before
    after := p.after ++ after
    opened := opened ++ p.opened }

/-- The text from the tag on. -/
def text (p : Place) : List Char := p.tag.opening p.selfClosing ++ p.after

end Place

/-- The element is printed by the tag at a place of the markup that the elements `hs` show. -/
inductive Prints (d : Document) : Contents → List Handle → Handle → Place → Prop where
  | text {content : List Char} {rest : Contents} {hs : List Handle} {e : Handle} {p : Place} :
      Prints d rest hs e p → Prints d (.text content rest) hs e (p.within content [] [])
  | element {tag : StaticTag} {inside rest : Contents} {h : Handle} {hs : List Handle} :
      Prints d (.element tag inside rest) (h :: hs) h
        { tag, selfClosing := false, after := inside.print ++ (tag.closing ++ rest.print) }
  | closed {tag : StaticTag} {rest : Contents} {h : Handle} {hs : List Handle} :
      Prints d (.closed tag rest) (h :: hs) h { tag, selfClosing := true, after := rest.print }
  | inside {tag : StaticTag} {inside rest : Contents} {h e : Handle} {hs : List Handle}
      {p : Place} : Prints d inside (d.elementChildren h) e p →
      Prints d (.element tag inside rest) (h :: hs) e
        (p.within (tag.opening false) (tag.closing ++ rest.print) [tag])
  | afterElement {tag : StaticTag} {inside rest : Contents} {h e : Handle} {hs : List Handle}
      {p : Place} : Prints d rest hs e p →
      Prints d (.element tag inside rest) (h :: hs) e
        (p.within (tag.opening false ++ (inside.print ++ tag.closing)) [] (tag :: inside.tags))
  | afterClosed {tag : StaticTag} {rest : Contents} {h e : Handle} {hs : List Handle}
      {p : Place} : Prints d rest hs e p →
      Prints d (.closed tag rest) (h :: hs) e (p.within (tag.opening true) [] [tag])

/-- Every element at or below those shown is printed somewhere. -/
theorem Shows.exists_prints {n : Nat} (hl : d.Linked) (hshows : Shows d T hs) :
    h ∈ hs → d.Below h n e → ∃ p, Prints d T hs e p := by
  induction hshows generalizing h n with
  | done => intro hm; cases hm
  | text _ ih =>
    intro hm hb
    obtain ⟨p, hp⟩ := ih hm hb
    exact ⟨_, .text hp⟩
  | element _ _ _ ih ih' =>
    intro hm hb
    rcases List.mem_cons.mp hm with rfl | hm
    · rcases hb.eq_or_exists_child hl with rfl | ⟨c, m, hc, hbc⟩
      · exact ⟨_, .element⟩
      · obtain ⟨p, hp⟩ := ih hc hbc
        exact ⟨_, .inside hp⟩
    · obtain ⟨p, hp⟩ := ih' hm hb
      exact ⟨_, .afterElement hp⟩
  | closed _ hnone _ ih =>
    intro hm hb
    rcases List.mem_cons.mp hm with rfl | hm
    · rcases hb.eq_or_exists_child hl with rfl | ⟨c, m, hc, -⟩
      · exact ⟨_, .closed⟩
      · rw [hnone] at hc
        cases hc
    · obtain ⟨p, hp⟩ := ih hm hb
      exact ⟨_, .afterClosed hp⟩

namespace Prints

variable {p : Place}

/-- The element carries the name of its tag in small letters. -/
theorem tag? (hp : Prints d T hs e p) (hshows : Shows d T hs) :
    d.tag? e = some (Text.lower (String.ofList p.tag.name)) := by
  induction hp with
  | text _ ih => cases hshows with | text h => exact ih h
  | element => cases hshows with | element ht _ _ => exact ht
  | closed => cases hshows with | closed ht _ _ => exact ht
  | inside _ ih => cases hshows with | element _ h _ => exact ih h
  | afterElement _ ih => cases hshows with | element _ _ h => exact ih h
  | afterClosed _ ih => cases hshows with | closed _ _ h => exact ih h

theorem isStatic (hp : Prints d T hs e p) (hT : T.IsStatic) : p.tag.IsStatic := by
  induction hp with
  | text _ ih => exact ih hT.2
  | element => exact hT.1
  | closed => exact hT.1
  | inside _ ih => exact ih hT.2.1
  | afterElement _ ih => exact ih hT.2.2
  | afterClosed _ ih => exact ih hT.2

/-- The pieces around the tag are the markup. -/
theorem print_eq (hp : Prints d T hs e p) : T.print = p.before ++ p.text := by
  induction hp with
  | text _ ih => simp [Contents.print, ih, Place.within, Place.text]
  | element => simp [Contents.print, Place.text]
  | closed => simp [Contents.print, Place.text]
  | inside _ ih => simp [Contents.print, ih, Place.within, Place.text]
  | afterElement _ ih => simp [Contents.print, ih, Place.within, Place.text]
  | afterClosed _ ih => simp [Contents.print, ih, Place.within, Place.text]

/-- The openings before the tag are those of the tags opened before it. -/
theorem openings_before {name after : List Char} (hname : IsPlainName name)
    (hp : Prints d T hs e p) (hT : T.IsStatic) :
    openings name p.before after = total (·.openings name) p.opened := by
  induction hp generalizing after with
  | text _ ih =>
    rw [Place.within, openings_append, openings_of_not_mem hT.1, ih hT.2, Nat.zero_add]
    rfl
  | element => rfl
  | closed => rfl
  | inside _ ih =>
    obtain ⟨htag, hinside, -⟩ := hT
    rw [Place.within, openings_append, openings_opening hname htag, ih hinside]
    rfl
  | afterElement _ ih =>
    obtain ⟨htag, hinside, hrest⟩ := hT
    rw [Place.within, openings_append, openings_append, openings_append,
      openings_opening hname htag, openings_print hname hinside, openings_closing hname htag,
      ih hrest]
    simp only [List.cons_append, total, total_append]
    omega
  | afterClosed _ ih =>
    rw [Place.within, openings_append, openings_opening hname hT.1, ih hT.2]
    rfl

end Prints

/-! ## Where a path is patched -/

/-- The tag whose attributes are rewritten when a path is patched. -/
def patchedSite? (source : String) (path : Path) : Option TagSite :=
  path.steps.getLast?.bind fun step => locateTag? source step.tag step.index

theorem locateTag?_eq (source : String) {name : String} (h : name ≠ "") (k : Nat) :
    locateTag? source name k = findSite? name.toList k source.toList := by
  unfold locateTag?
  rw [if_neg (by simpa using h)]

/-- **Patching** rewrites the attributes of one tag of the source, and nothing else of it. -/
theorem patchPath_spec {source after : String} {path : Path} {edits : Styles}
    (h : patchPath source path edits = .ok after) :
    ∃ hit attributes, patchedSite? source path = some hit ∧ hit.source = source.toList ∧
      rewriteAttributes hit.attributes edits = .ok attributes ∧
      after = String.ofList (hit.withAttributes attributes) := by
  unfold patchPath at h
  split at h
  · cases h
  · rename_i step hstep
    unfold patch at h
    split at h
    · cases h
    · rename_i hit hhit
      split at h
      · cases h
      · rename_i attributes hrewrite
        cases h
        have hsource : hit.source = source.toList := by
          unfold locateTag? at hhit
          split at hhit
          · cases hhit
          · exact (findSite?_spec hhit).2.1
        refine ⟨hit, attributes, ?_, hsource, hrewrite, rfl⟩
        rw [patchedSite?, hstep]
        exact hhit

/-- The tag at a place is the first of its name from there on. -/
theorem Place.findSite?_text {p : Place} (h : p.tag.IsStatic) (post : List Char) :
    findSite? p.tag.name 0 (p.text ++ post) =
      some { p.site with before := [], after := p.after ++ post } := by
  have htext : p.text ++ post = '<' :: (p.tag.name ++ (p.tag.attributeText ++
      (StaticTag.ends p.selfClosing ++ (p.after ++ post)))) := by
    simp [Place.text, StaticTag.opening]
  rw [htext, findSite?_zero (opens?_name h _ _), h.siteOf?]
  rfl

/-- The tag at a place is found exactly at the occurrence that counts the openings before it. -/
theorem Prints.findSite?_eq_some_iff {p : Place} (hp : Prints d T hs e p) (hT : T.IsStatic)
    (pre post : List Char) (k : Nat) :
    findSite? p.tag.name k (pre ++ (T.print ++ post)) = some (p.within pre post []).site ↔
      openings p.tag.name pre (T.print ++ post) + total (·.openings p.tag.name) p.opened = k := by
  have hstatic := hp.isStatic hT
  have hown := Place.findSite?_text hstatic post
  have hsource : pre ++ (T.print ++ post) = (pre ++ p.before) ++ (p.text ++ post) := by
    simp [hp.print_eq]
  have hcount : openings p.tag.name (pre ++ p.before) (p.text ++ post) =
      openings p.tag.name pre (T.print ++ post) + total (·.openings p.tag.name) p.opened := by
    rw [openings_append, hp.openings_before hstatic.name hT, hp.print_eq, List.append_assoc]
  rw [hsource, ← hcount, ← Source.findSite?_eq_some_iff hown rfl]
  simp [TagSite.behind, Place.site, Place.within]

/-- **The tag that a path is patched at.** Let a document show static markup that stands in a
source, between any texts. Every element below the root is printed by a tag of the source. The path
of the element is patched at this tag exactly when the name of the tag is written in small letters
and the openings of that name before the tag are as many as the earlier siblings of that name; and
whatever patching gives is the source with other attributes at the tag that is patched. -/
theorem patches_own_tag_iff (pre post : List Char) (hd : d.IsTree) (hT : T.IsStatic)
    (hshows : Shows d T (d.elementChildren d.root)) (he : d.isElement e = true)
    (hne : e ≠ d.root) :
    (∃ p, Prints d T (d.elementChildren d.root) e p) ∧
    ∀ p, Prints d T (d.elementChildren d.root) e p →
      let source := String.ofList (pre ++ (T.print ++ post))
      let path := d.identify e d.root
      let name := p.tag.name
      let own := (p.within pre post []).site
      own.source = source.toList ∧
      (∃ parent, d.parent? e = some parent ∧
        (patchedSite? source path = some own ↔
          name.map Char.toLower = name ∧
            openings name pre (T.print ++ post) + total (·.openings name) p.opened =
              d.indexAmong parent (String.ofList name) e)) ∧
      ∀ edits after, patchPath source path edits = .ok after →
        ∃ hit attributes, patchedSite? source path = some hit ∧ hit.source = source.toList ∧
          rewriteAttributes hit.attributes edits = .ok attributes ∧
          after = String.ofList (hit.withAttributes attributes) := by
  obtain ⟨n, hb, hn⟩ := hd.below he
  refine ⟨?_, ?_⟩
  · rcases hb.eq_or_exists_child hd.toLinked with heq | ⟨c, m, hc, hbc⟩
    · exact absurd heq hne
    · exact hshows.exists_prints hd.toLinked hc hbc
  · intro p hp source path name own
    refine ⟨?_, ?_, fun edits after h => patchPath_spec h⟩
    · simp [own, source, hp.print_eq, Place.site, Place.within, Place.text, TagSite.source,
        TagSite.withAttributes, StaticTag.opening]
    · have hsize : n ≤ d.size := Nat.le_trans hn (Nat.le_of_lt (Document.lt_size_of_isElement he))
      obtain ⟨parent, hparent, hlast⟩ := hb.getLast?_identify hd.toLinked hsize hne (hp.tag? hshows)
      have hnil : name.map Char.toLower ≠ [] := by simpa using (hp.isStatic hT).name.ne_nil
      have hlower : Text.lower (String.ofList name) = String.ofList (name.map Char.toLower) := by
        simp [Text.lower]
      have hsite : patchedSite? source path = findSite? (name.map Char.toLower)
          (d.indexAmong parent (String.ofList (name.map Char.toLower)) e)
          (pre ++ (T.print ++ post)) := by
        rw [patchedSite?, hlast, Option.bind_some, hlower, locateTag?_eq _ (by simpa using hnil)]
        simp [source]
      refine ⟨parent, hparent, ?_⟩
      rw [hsite]
      by_cases hsmall : name.map Char.toLower = name
      · rw [hsmall, hp.findSite?_eq_some_iff hT]
        exact ⟨fun h => ⟨rfl, h⟩, fun h => h.2⟩
      · constructor
        · intro h
          exact absurd (findSite?_spec h).1.symm hsmall
        · intro h
          exact absurd h.1 hsmall

/-- A second item of a list is patched at its own tag. -/
theorem patches_own_tag_second :
    let d := Document.ofMarkup "<ul><li>a</li><li>b</li></ul>" "preview"
    let site : TagSite :=
      { before := "return <ul><li>a</li>".toList, name := "li".toList, attributes := [],
        closing := ['>'], selfClosing := false, after := "b</li></ul>;".toList }
    patchedSite? "return <ul><li>a</li><li>b</li></ul>;" (d.identify 4 d.root) = some site := by
  intro d site
  let list : StaticTag := { name := "ul".toList }
  let item : StaticTag := { name := "li".toList }
  let items : Contents :=
    .element item (.text ['a'] .done) (.element item (.text ['b'] .done) .done)
  let T : Contents := .element list items .done
  have hlist : list.IsStatic := .bare ⟨by decide, List.all_eq_true.mp (by decide)⟩
  have hitem : item.IsStatic := .bare ⟨by decide, List.all_eq_true.mp (by decide)⟩
  have hT : T.IsStatic :=
    ⟨hlist, ⟨hitem, ⟨by decide, trivial⟩, hitem, ⟨by decide, trivial⟩, trivial⟩, trivial⟩
  have hroot : d.elementChildren d.root = [1] := by decide +kernel
  have hinside : d.elementChildren 1 = [2, 4] := by decide +kernel
  have hleaf : d.elementChildren 2 = [] ∧ d.elementChildren 4 = [] := by decide +kernel
  have hitems : Shows d items (d.elementChildren 1) := by
    rw [hinside]
    refine .element (by decide +kernel) ?_ (.element (by decide +kernel) ?_ .done)
    · rw [hleaf.1]; exact .text .done
    · rw [hleaf.2]; exact .text .done
  have hshows : Shows d T (d.elementChildren d.root) := by
    rw [hroot]
    exact .element (by decide +kernel) hitems .done
  let last : Place := { tag := item, selfClosing := false, after := "b</li>".toList }
  let second := last.within "<li>a</li>".toList [] [item]
  have hprints : Prints d items (d.elementChildren 1) 4 second := by
    rw [hinside]
    exact .afterElement .element
  have hplace : Prints d T (d.elementChildren d.root) 4
      (second.within "<ul>".toList "</ul>".toList [list]) := by
    rw [hroot]
    exact .inside hprints
  obtain ⟨-, ⟨parent, hparent, hiff⟩, -⟩ := (patches_own_tag_iff "return ".toList [';']
    (Document.isTree_ofMarkup _ _) hT hshows (by decide +kernel) (by decide +kernel)).2 _ hplace
  obtain rfl : parent = 1 := by
    have : d.parent? 4 = some 1 := by decide +kernel
    exact Option.some.inj (hparent.symm.trans this)
  exact hiff.mpr ⟨by decide, by decide +kernel⟩

/-- An element inside another one of its tag is patched at the tag of the outer one. -/
theorem nested_not_own :
    ¬ ∀ (d : Document) (T : Contents) (pre post : List Char) (e : Handle) (p : Place)
        (edits : Styles) (after : String),
      d.IsTree → T.IsStatic → Shows d T (d.elementChildren d.root) → d.isElement e = true →
      e ≠ d.root → Prints d T (d.elementChildren d.root) e p →
      patchPath (String.ofList (pre ++ (T.print ++ post))) (d.identify e d.root) edits =
        .ok after →
      patchedSite? (String.ofList (pre ++ (T.print ++ post))) (d.identify e d.root) =
        some (p.within pre post []).site := by
  intro hclaim
  let d := Document.ofMarkup "<div><div>a</div></div>" "preview"
  let tag : StaticTag := { name := "div".toList }
  let inner : Contents := .element tag (.text ['a'] .done) .done
  let T : Contents := .element tag inner .done
  have htag : tag.IsStatic := .bare ⟨by decide, List.all_eq_true.mp (by decide)⟩
  have hT : T.IsStatic := ⟨htag, ⟨htag, ⟨by decide, trivial⟩, trivial⟩, trivial⟩
  have hroot : d.elementChildren d.root = [1] := by decide +kernel
  have hinside : d.elementChildren 1 = [2] := by decide +kernel
  have hleaf : d.elementChildren 2 = [] := by decide +kernel
  have hinner : Shows d inner (d.elementChildren 1) := by
    rw [hinside]
    refine .element (by decide +kernel) ?_ .done
    rw [hleaf]
    exact .text .done
  have hshows : Shows d T (d.elementChildren d.root) := by
    rw [hroot]
    exact .element (by decide +kernel) hinner .done
  let own : Place := { tag, selfClosing := false, after := "a</div>".toList }
  have hprints : Prints d inner (d.elementChildren 1) 2 own := by
    rw [hinside]
    exact .element
  have hplace : Prints d T (d.elementChildren d.root) 2
      (own.within "<div>".toList "</div>".toList [tag]) := by
    rw [hroot]
    exact .inside hprints
  have hok : (patchPath (String.ofList ([] ++ (T.print ++ []))) (d.identify 2 d.root)
      { padding := some "1px" }).toOption.isSome = true := by decide +kernel
  obtain ⟨after, hafter⟩ : ∃ after, patchPath (String.ofList ([] ++ (T.print ++ [])))
      (d.identify 2 d.root) { padding := some "1px" } = .ok after := by
    revert hok
    cases patchPath (String.ofList ([] ++ (T.print ++ []))) (d.identify 2 d.root)
        { padding := some "1px" } with
    | error e => intro h; cases h
    | ok after => exact fun _ => ⟨after, rfl⟩
  have hsite := hclaim d T [] [] 2 _ _ after (Document.isTree_ofMarkup _ _) hT hshows
    (by decide +kernel) (by decide +kernel) hplace hafter
  revert hsite
  decide +kernel

end Source
end Restyle
