import Restyle.Proofs.Document.Tree
import Restyle.Proofs.Markup.Tree
import Restyle.Proofs.Path.Text

/-!
# Restyle.Proofs.Document.Identified

Paths name the elements of a subtree, each element by one path (`identify_locate_inverse`).

A document that is built in any way may hold nodes that go round in a circle, but not below its
root: what is below an element under the root stands on one level only (`Below.level_unique`), and
there are no more levels than nodes (`Below.level_lt_size`).

Paths may be kept as text. In a document read from markup tags are names in small letters
(`foldedTags_ofMarkup`), and no index is larger than the markup is long (`size_ofMarkup`). So the
text of the path of an element reads as that path and leads back to the element, unless one of the
tags on the way has a colon in it: markup allows colons in names, and the grammar of paths does not.
-/

namespace Restyle
namespace Document

variable {d : Document} {r h p c e : Handle} {k m n : Nat}

/-- Documents that are made by creating nodes, attaching them and reading markup, with any handles
and in any order. -/
inductive Built : Document → Prop where
  | withRoot (tag cls : String) : Built (withRoot tag cls)
  | create {d : Document} (kind : NodeKind) : Built d → Built (d.create kind).1
  | append {d : Document} (p c : Handle) : Built d → Built (d.append p c)
  | readMarkup {d : Document} (parent : Handle) (markup : String) : Built d →
      Built (d.readMarkup parent markup)

theorem Built.ofMarkup (markup cls : String) : Built (ofMarkup markup cls) :=
  .readMarkup 0 markup (.withRoot "div" cls)

theorem Built.linked (hd : Built d) : d.Linked := by
  induction hd with
  | withRoot tag cls => exact .withRoot tag cls
  | create kind _ ih => exact ih.create kind
  | append p c _ ih => exact ih.append p c
  | readMarkup parent markup _ ih => exact ih.readMarkup parent markup

/-! ## Levels -/

theorem Below.isElement (hr : d.isElement r = true) (hb : Below d r n h) : d.isElement h = true := by
  cases hb with
  | root => exact hr
  | child _ _ _ he => exact he

theorem Below.level_unique (hm : Below d r m h) (hn : Below d r n h) : m = n := by
  induction hm generalizing n with
  | root =>
    cases hn with
    | root => rfl
    | child _ _ hne _ => exact absurd rfl hne
  | @child m p h _ hp hne _ ih =>
    cases hn with
    | root => exact absurd rfl hne
    | @child n p' _ hb hp' _ _ =>
      have hpp : p = p' := Option.some.inj (hp.symm.trans hp')
      rw [ih (hpp ▸ hb)]

/-- An element has a chain of different elements above it, one on each level. -/
theorem Below.level_lt_size (hr : d.isElement r = true) (hb : Below d r n h) : n < d.size := by
  obtain ⟨l, hlen, hnodup, hl⟩ : ∃ l : List Handle, l.length = n + 1 ∧ l.Nodup ∧
      ∀ x ∈ l, ∃ k ≤ n, Below d r k x := by
    induction hb with
    | root =>
      refine ⟨[r], rfl, by simp, ?_⟩
      intro x hx
      rw [List.mem_singleton.mp hx]
      exact ⟨0, Nat.le_refl 0, .root⟩
    | @child n p h hb hp hne he ih =>
      obtain ⟨l, hlen, hnodup, hl⟩ := ih
      have hbh : Below d r (n + 1) h := .child hb hp hne he
      refine ⟨h :: l, by simp [hlen], List.nodup_cons.mpr ⟨?_, hnodup⟩, ?_⟩
      · intro hmem
        obtain ⟨k, hk, hbk⟩ := hl h hmem
        have := hbk.level_unique hbh
        omega
      · intro x hx
        rcases List.mem_cons.mp hx with rfl | hx
        · exact ⟨n + 1, Nat.le_refl _, hbh⟩
        · obtain ⟨k, hk, hbk⟩ := hl x hx
          exact ⟨k, Nat.le_succ_of_le hk, hbk⟩
  have hsub : l ⊆ List.range d.size := by
    intro x hx
    obtain ⟨k, -, hbk⟩ := hl x hx
    exact List.mem_range.mpr (lt_size_of_isElement (hbk.isElement hr))
  have hle := hnodup.length_le_of_subset hsub
  rw [hlen, List.length_range] at hle
  exact hle

/-! ## Under the root -/

/-- Below an element that is itself below the root. -/
theorem Below.trans (hl : d.Linked) (hr : Below d d.root m r) (hb : Below d r n h) :
    Below d d.root (m + n) h := by
  induction hb with
  | root => exact hr
  | @child n p h _ hp _ he ih =>
    refine .child ih hp ?_ he
    intro hroot
    rw [hroot, hl.parent?_root] at hp
    cases hp

/-- No circle leads from an element under the root back to it. -/
theorem Below.ne_of_parent (hl : d.Linked) (hr : Below d d.root m r) (hb : Below d r n p)
    (hp : d.parent? h = some p) : h ≠ r := by
  rintro rfl
  have hbp := hr.trans hl hb
  cases hr with
  | root =>
    rw [hl.parent?_root] at hp
    cases hp
  | @child m p' _ hb' hp' _ _ =>
    have hpp : p' = p := Option.some.inj (hp'.symm.trans hp)
    have := (hpp ▸ hb').level_unique hbp
    omega

/-! ## From paths to elements and back -/

/-- The child that a step leads to has the tag and the index of the step. -/
theorem of_stepDown? (hl : d.Linked) {s : Step} (h : d.stepDown? p s = some c) :
    d.parent? c = some p ∧ d.isElement c = true ∧ d.tag? c = some s.tag ∧
      d.indexAmong p s.tag c = s.index := by
  have hmem : c ∈ d.tagged p s.tag := List.mem_of_getElem? h
  obtain ⟨hchild, htag⟩ := List.mem_filter.mp hmem
  obtain ⟨hchild, he⟩ := List.mem_filter.mp hchild
  have hnodup : (d.tagged p s.tag).Nodup := ((hl.children_nodup p).filter _).filter _
  refine ⟨hl.mem_children_iff.mp hchild, he, beq_iff_eq.mp htag, ?_⟩
  have hback : (d.tagged p s.tag)[d.indexAmong p s.tag c]? = some c := getElem?_findIdx? hmem
  obtain ⟨hlt, -⟩ := List.getElem?_eq_some_iff.mp hback
  exact (List.getElem?_inj hlt hnodup).mp (hback.trans h.symm)

/-- Steps lead down to an element below, and climbing from it records them. -/
theorem climb_of_foldlM (hl : d.Linked) (hr : Below d d.root m r) (steps : List Step)
    (h : steps.foldlM d.stepDown? r = some e) :
    Below d r steps.length e ∧ ∀ fuel below, steps.length ≤ fuel →
      d.climb (· == r) fuel e below = steps ++ below := by
  -- the last step is the one that climbing records first
  induction hlen : steps.length generalizing steps e with
  | zero =>
    obtain rfl := List.eq_nil_of_length_eq_zero hlen
    cases h
    refine ⟨.root, fun fuel below _ => ?_⟩
    cases fuel <;> simp [climb]
  | succ n ih =>
    obtain rfl | ⟨steps, s, rfl⟩ := steps.eq_nil_or_concat
    · cases hlen
    rw [List.concat_eq_append] at h hlen ⊢
    rw [List.foldlM_append] at h
    obtain ⟨p, hp, hstep⟩ := Option.bind_eq_some_iff.mp h
    rw [List.foldlM_cons] at hstep
    obtain ⟨e', hstep, he'⟩ := Option.bind_eq_some_iff.mp hstep
    cases he'
    have hlen : steps.length = n := by simpa using hlen
    obtain ⟨hbelow, hclimb⟩ := ih steps hp hlen
    obtain ⟨hparent, he, htag, hindex⟩ := of_stepDown? hl hstep
    have hne : e ≠ r := hr.ne_of_parent hl hbelow hparent
    refine ⟨.child hbelow hparent hne he, fun fuel below hfuel => ?_⟩
    obtain ⟨fuel, rfl⟩ : ∃ k, fuel = k + 1 := ⟨fuel - 1, by omega⟩
    have hup := hclimb fuel (s :: below) (by omega)
    rw [List.append_assoc, List.singleton_append, ← hup]
    simp [climb, hne, hparent, htag, hindex]

theorem exists_below_of_locate {path : Path} (hl : d.Linked) (hr : Below d d.root m r)
    (h : d.locate r path = some e) : (∃ n, Below d r n e) ∧ d.identify e r = path := by
  unfold locate at h
  split at h
  · rename_i e' hsteps
    split at h
    · cases h
      obtain ⟨hbelow, hclimb⟩ := climb_of_foldlM hl hr path.steps hsteps
      have hlt := hbelow.level_lt_size (hr.isElement hl.isElement_root)
      refine ⟨⟨_, hbelow⟩, ?_⟩
      unfold identify
      rw [hclimb d.size [] (Nat.le_of_lt hlt), List.append_nil]
    · cases h
  · cases h

/-- **Paths and elements correspond.** Take the root of a document that was built in any way, or an
element under it. The path of each element at or below it leads back to that element; a path that
leads anywhere leads to an element at or below it, and is the path of that element; so elements with
the same path are the same. -/
theorem identify_locate_inverse (hd : Built d) (hr : Below d d.root k r) :
    (∀ n e, Below d r n e → d.locate r (d.identify e r) = some e) ∧
    (∀ path e, d.locate r path = some e → (∃ n, Below d r n e) ∧ d.identify e r = path) ∧
    (∀ m n e e', Below d r m e → Below d r n e' → d.identify e r = d.identify e' r → e = e') := by
  have hl := hd.linked
  have he := hr.isElement hl.isElement_root
  have hback : ∀ n e, Below d r n e → d.locate r (d.identify e r) = some e := by
    intro n e hb
    exact locate_identify hl hb (Nat.le_of_lt (hb.level_lt_size he)) (hb.isElement he)
  refine ⟨hback, fun path e h => exists_below_of_locate hl hr h, ?_⟩
  intro m n e e' hb hb' heq
  have h := hback m e hb
  rw [heq, hback n e' hb'] at h
  exact (Option.some.inj h).symm

/-- The second of two paragraphs, looked for from the element around them. -/
theorem identify_locate_inverse_paragraph :
    let d := ofMarkup "<div>a<p>b</p><p>c</p></div>" "preview"
    d.identify 5 1 = ⟨[⟨"p", 1⟩]⟩ ∧ d.locate 1 ⟨[⟨"p", 1⟩]⟩ = some 5 ∧
      d.locate 1 (d.identify 5 1) = some 5 := by
  intro d
  have hd : Built d := .ofMarkup _ _
  have hr : Below d d.root 1 1 := .child .root (by decide +kernel) (by decide) (by decide +kernel)
  have hb : Below d 1 1 5 := .child .root (by decide +kernel) (by decide) (by decide +kernel)
  obtain ⟨hback, hforth, -⟩ := identify_locate_inverse hd hr
  have hpath : d.locate 1 ⟨[⟨"p", 1⟩]⟩ = some 5 := by decide +kernel
  exact ⟨(hforth _ 5 hpath).2, hpath, hback 1 5 hb⟩

end Document

namespace Markup

variable {base : Handle} {d : Document} {opened : List Handle} {cs : List Char}

/-! ## Tags of what is read -/

theorem Tag.ne_nil_readNamed? {closing : Bool} {rest : List Char} {t : Tag}
    (h : Tag.readNamed? closing cs = some (t, rest)) : t.name.toList ≠ [] := by
  unfold Tag.readNamed? at h
  split at h
  · cases h
  · rename_i hname
    rw [Tag.name_readAttributes? h]
    simpa [Tag.folded] using hname

/-- A tag that was read has a name. -/
theorem Tag.ne_nil_next {c : Char} {rest : List Char} {t : Tag}
    (h : Piece.next c cs = (.tag t, rest)) : t.name.toList ≠ [] := by
  unfold Piece.next at h
  split at h
  · cases h
  · split at h
    · cases h
    · cases h
    · cases h
    · split at h
      · rename_i hread
        cases h
        unfold Tag.read? at hread
        split at hread <;> exact Tag.ne_nil_readNamed? hread
      · cases h

theorem tags_add {P : String → Prop} {kind : NodeKind} (hd : ∀ h tag, d.tag? h = some tag → P tag)
    (hk : ∀ e, kind = .element e → P e.tag) (p : Handle) :
    ∀ h tag, ((d.create kind).1.append p d.size).tag? h = some tag → P tag := by
  intro h tag ht
  rw [Document.tag?_append] at ht
  exact Document.tags_create hd hk h tag ht

theorem tags_addText {P : String → Prop} (hd : ∀ h tag, d.tag? h = some tag → P tag) (p : Handle)
    (content : List Char) : ∀ h tag, (addText d p content).tag? h = some tag → P tag := by
  unfold addText
  split
  · exact hd
  · exact tags_add hd (fun e he => by cases he) p

theorem readInto_tags {P : String → Prop}
    (hread : ∀ {c cs t rest}, Piece.next c cs = (.tag t, rest) → P t.element.tag)
    (hd : ∀ h tag, d.tag? h = some tag → P tag) :
    ∀ h tag, (readInto base d opened cs).tag? h = some tag → P tag := by
  have haddTag : ∀ {d : Document} {c cs t rest} (p : Handle),
      (∀ h tag, d.tag? h = some tag → P tag) → Piece.next c cs = (.tag t, rest) →
      ∀ h tag, ((d.create (.element t.element)).1.append p d.size).tag? h = some tag → P tag :=
    fun p hd hnext => tags_add hd (fun e he => by cases he; exact hread hnext) p
  fun_induction readInto base d opened cs with
  | case1 => exact hd
  | case2 d opened c cs current content rest _ ih => exact ih (tags_addText hd _ _)
  | case3 d opened c cs rest _ ih => exact ih hd
  | case4 d opened c cs t rest _ _ ih => exact ih hd
  | case5 d opened c cs current t rest hnext _ d' e heq d'' _ ih =>
    cases heq
    exact ih (haddTag _ hd hnext)
  | case6 d opened c cs current t rest hnext _ d' e heq d'' _ _ content after _ ih =>
    cases heq
    exact ih (tags_addText (haddTag _ hd hnext) _ _)
  | case7 d opened c cs current t rest hnext _ d' e heq d'' _ _ ih =>
    cases heq
    exact ih (haddTag _ hd hnext)

/-! ## Number of nodes -/

theorem size_addText_le (d : Document) (p : Handle) (content : List Char) :
    (addText d p content).size ≤ d.size + min 1 content.length := by
  unfold addText
  split
  · exact Nat.le_add_right ..
  · rename_i hcontent
    have : 0 < content.length := List.length_pos_iff.mpr (by simpa using hcontent)
    simp only [Document.createText, Document.size_append, Document.size_create]
    omega

theorem length_rawText_le (closing cs : List Char) :
    (rawText closing cs).1.length + (rawText closing cs).2.length ≤ cs.length := by
  induction cs with
  | nil => simp [rawText]
  | cons c cs ih =>
    unfold rawText
    split
    · have := length_afterMark_le ['>'] ((c :: cs).drop closing.length)
      simp only [List.length_drop, List.length_nil] at this ⊢
      omega
    · simp only [List.length_cons]
      omega

/-- There are no more nodes than characters: a text has one at least, and a tag the `<` it begins
with. -/
theorem size_readInto_le : (readInto base d opened cs).size ≤ d.size + cs.length := by
  have hnext {c : Char} {cs rest : List Char} {piece : Piece}
      (h : Piece.next c cs = (piece, rest)) : rest.length + 1 ≤ (c :: cs).length := by
    have := Piece.length_next c cs
    rw [h] at this
    exact Nat.succ_le_succ this
  have hadd (d : Document) (p : Handle) (e : Element) :
      (Document.append ⟨d.nodes.push { kind := .element e }⟩ p d.nodes.size).size = d.size + 1 := by
    rw [Document.size_append]
    exact Array.size_push ..
  fun_induction readInto base d opened cs with
  | case1 => exact Nat.le_add_right ..
  | case2 d opened c cs current content rest hpiece ih =>
    have htext := size_addText_le d current (Entity.decode content)
    have := hnext hpiece
    omega
  | case3 d opened c cs rest hpiece ih =>
    have := hnext hpiece
    omega
  | case4 d opened c cs t rest hpiece _ ih =>
    have := hnext hpiece
    omega
  | case5 d opened c cs current t rest hpiece _ d' e heq d'' _ ih =>
    cases heq
    have helement : d''.size = d.size + 1 := hadd d current _
    have := hnext hpiece
    omega
  | case6 d opened c cs current t rest hpiece _ d' e heq d'' _ _ content after hraw ih =>
    cases heq
    have helement : d''.size = d.size + 1 := hadd d current _
    have htext := size_addText_le d'' d.nodes.size content
    have hcut := length_rawText_le ('<' :: '/' :: t.name.toList) rest
    rw [hraw] at hcut
    dsimp only at hcut
    have := hnext hpiece
    omega
  | case7 d opened c cs current t rest hpiece _ d' e heq d'' _ _ ih =>
    cases heq
    have helement : d''.size = d.size + 1 := hadd d current _
    have := hnext hpiece
    omega

end Markup

namespace Document

variable {d : Document} {h p : Handle} {tag : String}

/-! ## Steps of paths -/

/-- An element has no more children than the document has nodes. -/
theorem Linked.length_children_le (hl : d.Linked) (p : Handle) : (d.children p).length ≤ d.size := by
  have hsub : d.children p ⊆ List.range d.size := by
    intro c hc
    rw [List.mem_range, lt_size_iff]
    have hparent := hl.mem_children_iff.mp hc
    unfold parent? at hparent
    cases hnode : d.node? c with
    | none => rw [hnode] at hparent; cases hparent
    | some n => rfl
  have hle := (hl.children_nodup p).length_le_of_subset hsub
  rwa [List.length_range] at hle

/-- An index is below the number of nodes. -/
theorem indexAmong_lt_size (hl : d.Linked) (hp : d.parent? h = some p) (ht : d.tag? h = some tag) :
    d.indexAmong p tag h < d.size := by
  have hmem := getElem?_findIdx? (mem_tagged hl hp ht)
  have hlt : d.indexAmong p tag h < (d.tagged p tag).length := (List.getElem?_eq_some_iff.mp hmem).1
  have htagged : (d.tagged p tag).length ≤ (d.elementChildren p).length :=
    (List.filter_sublist).length_le
  have hchildren : (d.elementChildren p).length ≤ (d.children p).length :=
    (List.filter_sublist).length_le
  have hsize := hl.length_children_le p
  omega

/-! ## Documents of markup -/

/-- Tags are names in small letters. -/
theorem foldedTags_ofMarkup (markup cls : String) (ht : (ofMarkup markup cls).tag? h = some tag) :
    tag.toList ≠ [] ∧ Text.lower tag = tag := by
  refine Markup.readInto_tags (P := fun tag => tag.toList ≠ [] ∧ Text.lower tag = tag)
    (fun hnext => ?_) (fun h tag ht => ?_) h tag ht
  · rw [Markup.Tag.tag_element, Text.lower_lower, Markup.Tag.lower_next hnext]
    exact ⟨Markup.Tag.ne_nil_next hnext, rfl⟩
  · rcases h with _ | h
    · rw [tag?_withRoot] at ht
      cases ht
      decide
    · simp [withRoot, tag?, element?, node?] at ht

/-- There are no more nodes than the root and the characters of the markup. -/
theorem size_ofMarkup (markup cls : String) : (ofMarkup markup cls).size ≤ markup.length + 1 := by
  have hroot : (withRoot "div" cls).size = 1 := rfl
  have h := @Markup.size_readInto_le 0 (withRoot "div" cls) [] markup.toList
  rw [hroot, String.length_toList] at h
  exact Nat.le_trans h (Nat.le_of_eq (Nat.add_comm ..))

theorem identify_steps (markup cls : String) (h : Handle) :
    ∀ s ∈ ((ofMarkup markup cls).identify h 0).steps, s.IsFolded ∧ s.index ≤ markup.length := by
  have hl := (isTree_ofMarkup markup cls).toLinked
  refine climb_steps (P := fun s => s.IsFolded ∧ s.index ≤ markup.length) (fun h p tag hp ht => ?_)
    _ _ _ [] (fun s hs => by cases hs)
  obtain ⟨hne, hlower⟩ := foldedTags_ofMarkup markup cls ht
  have hindex := Nat.lt_of_lt_of_le (indexAmong_lt_size hl hp ht) (size_ofMarkup markup cls)
  exact ⟨⟨isNamed_ofMarkup markup cls h tag ht, hne, hlower⟩, Nat.le_of_lt_succ hindex⟩

/-- **Paths kept as text.** No index in the path of an element of a document of markup is larger
than the markup is long. The text of the path, or the JSON string of the text, reads as the path,
and leads back to the element, exactly if the tags on the path have no colons (and the indices fit
their type). -/
theorem parse_identify_iff (markup cls : String)
    (he : (ofMarkup markup cls).isElement h = true) :
    let d := ofMarkup markup cls
    let path := d.identify h d.root
    (∀ s ∈ path.steps, s.index ≤ markup.length) ∧
      (Path.parse path.text = .ok path ↔ ∀ s ∈ path.steps, s.IsReadable) ∧
      (Path.ofJson? (Json.quote path.text) = some path ↔ ∀ s ∈ path.steps, s.IsReadable) ∧
      ((Path.parse path.text).toOption.bind (d.locate d.root) = some h ↔
        ∀ s ∈ path.steps, s.IsReadable) := by
  intro d path
  have hsteps := identify_steps markup cls h
  have hfolded : ∀ s ∈ path.steps, s.IsFolded := fun s hs => (hsteps s hs).1
  have hparse {q : Path} := Path.parse_text (p := path) (q := q) hfolded
  have hlocate : d.locate d.root path = some h := (isTree_ofMarkup markup cls).locate_identify he
  refine ⟨fun s hs => (hsteps s hs).2, ?_, ?_, ?_⟩
  · rw [hparse, and_iff_right rfl]
  · rw [Path.ofJson?_quote hfolded, and_iff_right rfl]
  · cases hread : Path.parse path.text with
    | error e =>
      refine iff_of_false (fun h => by cases h) fun hall => ?_
      rw [hparse.mpr ⟨rfl, hall⟩] at hread
      cases hread
    | ok q =>
      obtain ⟨rfl, hall⟩ := hparse.mp hread
      exact iff_of_true hlocate hall

/-- The second of two paragraphs, kept as text and found again. -/
theorem parse_identify_paragraph :
    let d := ofMarkup "<p>a</p><p>b</p>" "preview"
    (d.identify 3 0).text = "p[1]" ∧ (Path.parse "p[1]").toOption.bind (d.locate 0) = some 3 := by
  intro d
  have hread := parse_identify_iff "<p>a</p><p>b</p>" "preview" (h := 3) (by decide +kernel)
  have htext : (d.identify 3 0).text = "p[1]" := by decide +kernel
  have hall : ∀ s ∈ (d.identify 3 0).steps, s.IsReadable := by decide +kernel
  refine ⟨htext, ?_⟩
  rw [← htext]
  exact hread.2.2.2.mpr hall

/-- The text of the path of an element `svg:a` does not read, and is not found again. -/
theorem colon_not_read :
    let d := ofMarkup "<svg:a></svg:a>" "preview"
    d.isElement 1 = true ∧ (d.identify 1 0).text = "svg:a[0]" ∧
      (Path.parse "svg:a[0]").toOption = none ∧ Path.ofJson? (Json.quote "svg:a[0]") = none ∧
      (Path.parse (d.identify 1 0).text).toOption.bind (d.locate 0) ≠ some 1 := by
  intro d
  have htext : (d.identify 1 0).text = "svg:a[0]" := by decide +kernel
  have hread : (Path.parse "svg:a[0]").toOption = none := by decide +kernel
  refine ⟨by decide +kernel, htext, hread, by decide +kernel, ?_⟩
  rw [htext, hread]
  decide

end Document
end Restyle
