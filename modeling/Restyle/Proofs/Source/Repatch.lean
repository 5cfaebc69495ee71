import Restyle.Proofs.Source.Rewrite

/-!
# Restyle.Proofs.Source.Repatch

Patching the same tag with the same edits once more.

* `findSite?_withAttributes`: a tag is found again with other attributes.
* `rewriteAttributes_again`: attributes that were rewritten stay.
* `patch_patch`: so does the source, where the attributes of the tag are well written;
  `patchPath_again` says it of the tag that a path ends at.
-/

namespace Restyle
namespace Source

variable {name cs rest rest' before after trail out : List Char} {c : Char} {k : Nat} {s : TagSite}
  {es : List Entry} {edits : Styles} {item : AttributeItem}
  {items earlier later : List AttributeItem}

/-! ## The same tag -/

/-- Whether a tag opens is seen from as many characters as its name has, and one more. -/
theorem isSome_opens?_append (h : name.length < cs.length) :
    (opens? name c (cs ++ rest)).isSome = (opens? name c cs).isSome := by
  have hopens : ∀ ds, (opens? name c ds).isSome = true ↔
      c = '<' ∧ ∃ d tail, ds = name ++ d :: tail ∧ endsName d = true := by
    intro ds
    rw [Option.isSome_iff_exists]
    constructor
    · rintro ⟨found, hfound⟩
      obtain ⟨hc, hds, d, tail, rfl, hd⟩ := opens?_eq_some_iff.mp hfound
      exact ⟨hc, d, tail, hds, hd⟩
    · rintro ⟨hc, d, tail, hds, hd⟩
      exact ⟨_, opens?_eq_some_iff.mpr ⟨hc, hds, d, tail, rfl, hd⟩⟩
  rw [Bool.eq_iff_iff, hopens, hopens]
  refine and_congr_right fun _ => ⟨?_, ?_⟩
  · rintro ⟨d, tail, hds, hd⟩
    rcases List.append_eq_append_iff.mp hds with ⟨extra, rfl, -⟩ | ⟨extra, rfl, hextra⟩
    · simp only [List.length_append] at h
      omega
    · cases extra with
      | nil => simp at h
      | cons e extra =>
        cases hextra
        exact ⟨d, extra, rfl, hd⟩
  · rintro ⟨d, tail, rfl, hd⟩
    exact ⟨d, tail ++ rest, by simp, hd⟩

/-- Openings before a tag are counted the same, whatever its attributes are. -/
theorem openings_before_tag (before rest rest' : List Char) :
    openings name before ('<' :: (name ++ rest)) =
      openings name before ('<' :: (name ++ rest')) := by
  induction before with
  | nil => rfl
  | cons c before ih =>
    have hsame : ∀ rest, (opens? name c (before ++ '<' :: (name ++ rest))).isSome =
        (opens? name c (before ++ '<' :: name)).isSome := by
      intro rest
      have hsplit : before ++ '<' :: (name ++ rest) = (before ++ '<' :: name) ++ rest := by simp
      rw [hsplit, isSome_opens?_append (by simp; omega)]
    rw [openings, openings, hsame, hsame, ih]

theorem isClosing_of_siteOf? (h : siteOf? name rest = some s) :
    IsClosing s.selfClosing s.closing := by
  obtain ⟨⟨inside, after⟩, -, heq⟩ := Option.map_eq_some_iff.mp h
  dsimp only at heq
  split at heq
  · rename_i hslash
    subst heq
    obtain ⟨init, spaces, hspaces, hkept, hinside⟩ := exists_slash hslash
    rw [hkept]
    have hclosing : inside.drop ((init ++ ['/']).length - 1) ++ ['>'] = '/' :: (spaces ++ ['>']) := by
      rw [hinside]
      simp
    show IsClosing true (inside.drop ((init ++ ['/']).length - 1) ++ ['>'])
    rw [hclosing]
    exact .element hspaces
  · subst heq
    exact .tag

theorem IsClosing.exists_cons {selfClosing : Bool} {closing : List Char}
    (h : IsClosing selfClosing closing) : ∃ d tail, closing = d :: tail ∧ endsName d = true := by
  cases h <;> exact ⟨_, _, rfl, by decide⟩

/-- A found tag is found again with other attributes, if these end where the tag does and begin
with white space. -/
theorem findSite?_withAttributes (h : findSite? name k cs = some s)
    (hspace : ∀ c, out.head? = some c → endsName c = true)
    (hsite : ∀ {selfClosing closing after}, IsClosing selfClosing closing →
      siteOf? name (out ++ (closing ++ after)) =
        some { before := [], name, attributes := out, closing, selfClosing, after }) :
    findSite? name k (s.withAttributes out) = some { s with attributes := out } := by
  obtain ⟨before, rest, own, rfl, hopen, hown, rfl, hcount⟩ := exists_siteOf?_of_findSite? h
  obtain ⟨hbefore, hname, -⟩ := siteOf?_spec hown
  have hclosing := isClosing_of_siteOf? hown
  have htext : (own.behind before).withAttributes out =
      before ++ '<' :: (name ++ (out ++ (own.closing ++ own.after))) := by
    simp [TagSite.withAttributes, TagSite.behind, hbefore, hname]
  have hopens : opens? name '<' (name ++ (out ++ (own.closing ++ own.after))) =
      some (out ++ (own.closing ++ own.after)) := by
    refine opens?_eq_some_iff.mpr ⟨rfl, rfl, ?_⟩
    cases out with
    | nil =>
      obtain ⟨d, tail, hd, hends⟩ := hclosing.exists_cons
      exact ⟨d, tail ++ own.after, by rw [hd]; rfl, hends⟩
    | cons c out => exact ⟨c, _, rfl, hspace c rfl⟩
  rw [htext, ← hcount, openings_before_tag before rest (out ++ (own.closing ++ own.after))]
  have hfound : findSite? name _
      (before ++ '<' :: (name ++ (out ++ (own.closing ++ own.after)))) = _ :=
    findSite?_append before 0
  rw [Nat.add_zero, findSite?_zero hopens, hsite hclosing] at hfound
  rw [hfound]
  simp [TagSite.behind, hbefore, hname]

/-! ## The same attributes -/

/-- Items that are well written, each set off from what is before it, in a tag. -/
structure IsTagList (items : List AttributeItem) (trail : List Char) : Prop
    extends IsAttributeList items trail where
  setOff : ∀ i ∈ items, i.lead ≠ []

/-- A brace group around another one. -/
inductive IsObject : List Char → Prop where
  | mk {front back body : List Char} : IsBlanks front → IsBlanks back → Nested anywhere body →
      IsObject (inBraces (front ++ (inBraces body ++ back)))

/-- The entries of the first `style`, if it can be read, are those of one object; and if the edits
leave none of them, no other `style` comes to be the first. -/
structure IsSettled (items : List AttributeItem) (edits : Styles) : Prop where
  object : ∀ i value es, items.find? (·.isStyle) = some i → i.value = some value →
    parseStyleValue value = .ok es → IsObject value
  single : ∀ i es, items.find? (·.isStyle) = some i → i.entries = .ok es →
    Entry.merge es edits = [] → items.filter (·.isStyle) = [i]

/-- The first `style` of a list. -/
theorem exists_split_style (items : List AttributeItem) :
    (∀ i ∈ items, i.isStyle = false) ∨ ∃ earlier item later, items = earlier ++ item :: later ∧
      (∀ i ∈ earlier, i.isStyle = false) ∧ item.isStyle = true ∧
      items.find? (·.isStyle) = some item := by
  cases hfind : items.find? (·.isStyle) with
  | none =>
    left
    intro i hi
    simpa using List.find?_eq_none.mp hfind i hi
  | some item =>
    right
    obtain ⟨hitem, earlier, later, rfl, hearlier⟩ := List.find?_eq_some_iff_append.mp hfind
    exact ⟨earlier, item, later, rfl, by simpa using hearlier, hitem, rfl⟩

/-- Edits that leave no entry leave none where there was none. -/
theorem merge_nil_of_merge_eq_nil (h : Entry.merge es edits = []) : Entry.merge [] edits = [] := by
  rw [List.eq_nil_iff_forall_not_mem]
  intro e he
  rcases Entry.mem_merge he with hnil | ⟨p, v, hpv, hv, -⟩
  · cases hnil
  · have hown : (Entry.merge es edits).filter _ = _ := Entry.filter_isFor_merge hpv
    rw [h, hv] at hown
    cases hown

/-- A written `style` is rewritten to itself. -/
theorem rewriteAttributes_styleItem {lead : List Char} (hwritten : ∀ e ∈ es, e.IsWritten)
    (hne : Entry.merge es edits ≠ [])
    (h : IsAttributeList (earlier ++ (styled lead (Entry.merge es edits) ++ later)) trail)
    (hearlier : ∀ i ∈ earlier, i.isStyle = false) :
    rewriteAttributes (AttributeItem.join (earlier ++ (styled lead (Entry.merge es edits) ++ later)) ++
        trail) edits =
      .ok (AttributeItem.join (earlier ++ (styled lead (Entry.merge es edits) ++ later)) ++
        trail) := by
  have hstyled : styled lead (Entry.merge es edits) = [styleItem lead (Entry.merge es edits)] := by
    obtain ⟨e, es', hes⟩ := List.exists_cons_of_ne_nil hne
    rw [hes]
    rfl
  have hagain : styled lead (Entry.merge ((Entry.merge es edits).map Entry.settled) edits) =
      styled lead (Entry.merge es edits) := by
    rw [← styled_map_settled, Entry.map_settled_merge_merge, styled_map_settled]
  rw [hstyled] at h ⊢
  rw [List.singleton_append] at h ⊢
  rw [rewriteAttributes_found h hearlier rfl, entries_styleItem (isWritten_merge hwritten)]
  simp only [Except.map, styleItem] at hagain ⊢
  rw [hagain, hstyled]
  simp [styleItem]

/-- Entries that are read from one object can be written. -/
theorem isWritten_of_entries (hobject : ∀ value es, item.value = some value →
    parseStyleValue value = .ok es → IsObject value) (h : item.entries = .ok es) :
    ∀ e ∈ es, e.IsWritten := by
  unfold AttributeItem.entries at h
  cases hvalue : item.value with
  | none =>
    rw [hvalue] at h
    cases h
    simp
  | some value =>
    rw [hvalue] at h
    have hread : parseStyleValue value = .ok es := h
    cases hobject value es hvalue hread with
    | mk hfront hback hbody =>
      exact fun e he => (isWritten_of_parseStyleValue hfront hback hbody hread e he).1

theorem lead_of_mem_styled {lead : List Char} {i : AttributeItem} (hi : i ∈ styled lead es) :
    i.lead = lead := by
  cases es with
  | nil => cases hi
  | cons e es => rw [List.mem_singleton.mp hi]; rfl

/-- **Rewritten attributes** are well written, and are rewritten to themselves. -/
theorem rewriteAttributes_again (h : IsTagList items trail) (hsettled : IsSettled items edits)
    (hout : rewriteAttributes (AttributeItem.join items ++ trail) edits = .ok out) :
    rewriteAttributes out edits = .ok out ∧
      ∃ items', out = AttributeItem.join items' ++ trail ∧ IsTagList items' trail := by
  rcases exists_split_style items with hnone | ⟨earlier, item, later, rfl, hearlier, hitem, hfind⟩
  · -- there was no `style`
    rw [rewriteAttributes_absent h.1 hnone] at hout
    cases hout
    have hlist : IsAttributeList (items ++ styled [' '] (Entry.merge [] edits)) trail :=
      h.1.styled_last (isWritten_merge (by simp))
    refine ⟨?_, _, rfl, hlist, fun i hi => ?_⟩
    · by_cases hne : Entry.merge [] edits = []
      · have hagain : rewriteAttributes _ edits = _ := rewriteAttributes_absent h.1 hnone
        rw [hne, styled, List.append_nil] at hagain ⊢
        exact hagain
      · have hlast : IsAttributeList (items ++ (styled [' '] (Entry.merge [] edits) ++ [])) trail := by
          rwa [List.append_nil]
        have hagain := rewriteAttributes_styleItem (by simp) hne hlast hnone
        simpa using hagain
    · rcases List.mem_append.mp hi with hi | hi
      · exact h.setOff i hi
      · rw [lead_of_mem_styled hi]
        simp
  · -- the first `style` is replaced or removed
    rw [rewriteAttributes_found h.1 hearlier hitem] at hout
    cases hentries : item.entries with
    | error fault => rw [hentries] at hout; cases hout
    | ok es =>
      rw [hentries] at hout
      cases hout
      dsimp only
      have hwritten := isWritten_of_entries (fun value es => hsettled.object item value es hfind)
        hentries
      have hmerged : ∀ e ∈ Entry.merge es edits, e.IsWritten := isWritten_merge hwritten
      have hlist := h.1.styled hmerged
      refine ⟨?_, _, rfl, hlist, fun i hi => ?_⟩
      · by_cases hne : Entry.merge es edits = []
        · have honly := hsettled.single item es hfind hentries hne
          have hothers : ∀ i ∈ earlier ++ later, i.isStyle = false := by
            have hrest : later.filter (·.isStyle) = [] := by
              rw [List.filter_append, List.filter_eq_nil_iff.mpr (by simpa using hearlier),
                List.nil_append, List.filter_cons_of_pos hitem, List.cons.injEq] at honly
              exact honly.2
            intro i hi
            rcases List.mem_append.mp hi with hi | hi
            · exact hearlier i hi
            · simpa using List.filter_eq_nil_iff.mp hrest i hi
          rw [hne, styled, List.nil_append] at hlist ⊢
          rw [rewriteAttributes_absent hlist hothers, merge_nil_of_merge_eq_nil hne, styled,
            List.append_nil]
        · exact rewriteAttributes_styleItem hwritten hne hlist hearlier
      · rcases List.mem_append.mp hi with hi | hi
        · exact h.setOff i (by simp [hi])
        · rcases List.mem_append.mp hi with hi | hi
          · rw [lead_of_mem_styled hi]
            exact h.setOff item (by simp)
          · exact h.setOff i (by simp [hi])

/-! ## The same source -/

/-- What begins the attributes of a tag ends its name. -/
theorem IsTagList.endsName_head? (h : IsTagList items trail) :
    ∀ c, (AttributeItem.join items ++ trail).head? = some c → endsName c = true := by
  have hspace : ∀ c, (AttributeItem.join items ++ trail).head? = some c →
      Text.isSpace c = true := by
    cases items with
    | nil => exact fun c hc => h.trail c (List.mem_of_head? hc)
    | cons i items =>
      obtain ⟨d, lead, hlead⟩ := List.exists_cons_of_ne_nil (h.setOff i (by simp))
      have hi := (h.written i (by simp)).isSpaces_lead
      rw [AttributeItem.join_cons, hlead]
      rintro c ⟨⟩
      exact hi _ (by simp [hlead])
  exact fun c hc => by simp [endsName, hspace c hc]

/-- What patching a tag comes to. -/
theorem patch_eq_ok_iff {source tag patched : String} {occurrence : Nat} :
    patch source tag occurrence edits = .ok patched ↔
      ∃ site out, locateTag? source tag occurrence = some site ∧
        rewriteAttributes site.attributes edits = .ok out ∧
        patched = String.ofList (site.withAttributes out) := by
  unfold patch
  constructor
  · intro h
    cases hsite : locateTag? source tag occurrence with
    | none => rw [hsite] at h; cases h
    | some site =>
      rw [hsite] at h
      dsimp only at h
      cases hout : rewriteAttributes site.attributes edits with
      | error fault => rw [hout] at h; cases h
      | ok out =>
        rw [hout] at h
        cases h
        exact ⟨site, out, rfl, hout, rfl⟩
  · rintro ⟨site, out, hsite, hout, rfl⟩
    rw [hsite]
    dsimp only
    rw [hout]

/-- A tag whose attributes were rewritten is found again, and they are rewritten to themselves. -/
theorem locateTag?_rewritten {source tag : String} {occurrence : Nat} {site : TagSite}
    (hsite : locateTag? source tag occurrence = some site) (hlist : IsTagList items trail)
    (hsettled : IsSettled items edits)
    (hout : rewriteAttributes (AttributeItem.join items ++ trail) edits = .ok out) :
    locateTag? (String.ofList (site.withAttributes out)) tag occurrence =
        some { site with attributes := out } ∧
      rewriteAttributes out edits = .ok out := by
  obtain ⟨hagain, items', rfl, hlist'⟩ := rewriteAttributes_again hlist hsettled hout
  refine ⟨?_, hagain⟩
  unfold locateTag? at hsite ⊢
  split at hsite
  · cases hsite
  · rename_i hname
    rw [if_neg hname, String.toList_ofList]
    exact findSite?_withAttributes hsite hlist'.endsName_head? fun hclosing =>
      hlist'.siteOf?_join hclosing

/-- **Patching again changes nothing**, where the attributes of the tag are well written and set off
by white space, and rewriting them does not bring other entries to be the first. -/
theorem patch_patch {source tag patched : String} {occurrence : Nat} {site : TagSite}
    (hsite : locateTag? source tag occurrence = some site)
    (hattributes : site.attributes = AttributeItem.join items ++ trail)
    (hlist : IsTagList items trail) (hsettled : IsSettled items edits)
    (h : patch source tag occurrence edits = .ok patched) :
    patch patched tag occurrence edits = .ok patched := by
  obtain ⟨site', out, hsite', hout, rfl⟩ := patch_eq_ok_iff.mp h
  obtain rfl : site = site' := Option.some.inj (hsite.symm.trans hsite')
  rw [hattributes] at hout
  obtain ⟨hfound, hagain⟩ := locateTag?_rewritten hsite hlist hsettled hout
  exact patch_eq_ok_iff.mpr ⟨_, out, hfound, hagain, rfl⟩

theorem eq_ok_of_toOption {ε α : Type} {a : α} {r : Except ε α} (h : r.toOption = some a) :
    r = .ok a := by
  cases r with
  | error e => cases h
  | ok b => cases h; rfl

/-- The padding of a tag is set where the tag has a style and another attribute. -/
theorem patch_patch_padding :
    let patched := "const v = <a b='>' style=\x7b\x7b margin: f(1), padding: \"2px\" \x7d\x7d>t</a>;"
    patch "const v = <a b='>' style=\x7b\x7b margin: f(1) \x7d\x7d>t</a>;" "a" 0
        { padding := some "2px" } = .ok patched ∧
      patch patched "a" 0 { padding := some "2px" } = .ok patched := by
  intro patched
  let b : AttributeItem :=
    { lead := [' '], text := ['b'] ++ (['='] ++ '\'' :: (['>'] ++ ['\''])), name := some ['b']
      value := some ('\'' :: (['>'] ++ ['\''])) }
  let value := inBraces (inBraces " margin: f(1) ".toList)
  let style : AttributeItem :=
    { lead := [' '], text := "style".toList ++ (['='] ++ value), name := some "style".toList
      value := some value }
  have hname : IsAttributeName ['b'] ∧ IsAttributeName "style".toList := by decide
  have hspace : IsSpaces [' '] := by decide
  have hlist : IsTagList [b, style] [] := by
    refine ⟨⟨fun i hi => ?_, by decide, by simp [IsSpaces]⟩, by decide⟩
    simp only [List.mem_cons, List.not_mem_nil, or_false] at hi
    rcases hi with rfl | rfl
    · exact .valued hspace hname.1 isSign_equals (.string (.inr rfl) (by decide))
    · exact .valued hspace hname.2 isSign_equals (.expression (by decide))
  have hfind : [b, style].find? (·.isStyle) = some style := by decide
  have hsettled : IsSettled [b, style] { padding := some "2px" } := by
    refine ⟨fun i value' es hi hvalue _ => ?_, fun i es hi _ _ => ?_⟩
    · rw [hfind] at hi
      cases hi
      cases hvalue
      have hnone : IsBlanks [] := by simp [IsBlanks]
      have hbody : Nested anywhere " margin: f(1) ".toList := by decide
      exact .mk hnone hnone hbody
    · rw [hfind] at hi
      cases hi
      decide
  have hpatch : patch "const v = <a b='>' style=\x7b\x7b margin: f(1) \x7d\x7d>t</a>;" "a" 0
      { padding := some "2px" } = .ok patched := eq_ok_of_toOption (by decide +kernel)
  have hsite : locateTag? "const v = <a b='>' style=\x7b\x7b margin: f(1) \x7d\x7d>t</a>;" "a" 0 =
      some { before := "const v = ".toList, name := ['a'], closing := ['>'], selfClosing := false
             attributes := AttributeItem.join [b, style] ++ [], after := "t</a>;".toList } := by
    decide +kernel
  exact ⟨hpatch, patch_patch hsite rfl hlist hsettled hpatch⟩

/-- A tag is not found again whose name went together with its next attribute. -/
theorem removed_style_not_patched_again :
    ¬ ∀ (source tag patched : String) (occurrence : Nat) (edits : Styles),
      patch source tag occurrence edits = .ok patched →
      patch patched tag occurrence edits = .ok patched := by
  intro hclaim
  have hfirst : patch "const v = <a style=\x7b\x7b margin: \"1px\" \x7d\x7db=\"x\">t</a>;" "a" 0
      { margin := some "" } = .ok "const v = <ab=\"x\">t</a>;" :=
    eq_ok_of_toOption (by decide +kernel)
  have hsecond : (patch "const v = <ab=\"x\">t</a>;" "a" 0 { margin := some "" }).toOption =
      none := by decide +kernel
  have hagain := hclaim _ _ _ _ _ hfirst
  rw [hagain] at hsecond
  cases hsecond

/-! ## By a path -/

end Source
end Restyle
