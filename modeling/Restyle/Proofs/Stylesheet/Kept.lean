import Restyle.Proofs.Document.InlineStyle
import Restyle.Stylesheet.Declaration

/-!
# Restyle.Proofs.Stylesheet.Kept

Which values a `style` attribute keeps. The text `name:value` is read as that one declaration just
when the value has no comment, no semicolon that ends it, and nothing that is squeezed
(`ofDeclarations_eq_set_iff`). Reading never makes a value longer, so that one that comes out as it
went in was not touched at any step.
-/

namespace Restyle

/-! ## Ends of texts -/

namespace Text

variable {p : Char → Bool} {cs : List Char}

theorem trim_length_le (s : String) : (trim s).toList.length ≤ s.toList.length := by
  rw [trim, String.toList_ofList]
  exact (trimBy_sublist _ _).length_le

/-- Nothing is dropped at the end of a trimmed text. -/
theorem reverse_dropWhile_of_trimBy (h : trimBy p cs = cs) : cs.reverse.dropWhile p = cs.reverse := by
  have hlength := congrArg List.length h
  have hsub := List.dropWhile_sublist p (l := cs)
  have hfirst : cs.dropWhile p = cs := by
    refine hsub.eq_of_length (Nat.le_antisymm hsub.length_le ?_)
    rw [trimBy, List.length_reverse] at hlength
    have := (List.dropWhile_sublist p (l := (cs.dropWhile p).reverse)).length_le
    rw [List.length_reverse] at this
    omega
  have hboth := h
  rw [trimBy, hfirst] at hboth
  rw [← List.reverse_eq_iff]
  exact hboth

theorem dropWhile_append_of_neg {c : Char} (hc : p c = false) (cs after : List Char) :
    (cs ++ c :: after).dropWhile p = cs.dropWhile p ++ c :: after := by
  induction cs with
  | nil => simp [hc]
  | cons d cs ih =>
    cases hd : p d with
    | true => simp [hd, ih]
    | false => simp [hd]

/-- Behind visible characters only the end is trimmed. -/
theorem trimBy_append {c d : Char} (hc : p c = false) (hd : p d = false) (before cs : List Char) :
    trimBy p (c :: before ++ d :: cs) = c :: before ++ d :: trimEndBy p cs := by
  have hfirst : (c :: before ++ d :: cs).dropWhile p = c :: before ++ d :: cs := by simp [hc]
  have hreverse : (c :: before ++ d :: cs).reverse = cs.reverse ++ d :: (c :: before).reverse := by
    simp
  rw [trimBy, hfirst, hreverse, dropWhile_append_of_neg hd, trimEndBy]
  simp

theorem length_trimEndBy_le (p : Char → Bool) (cs : List Char) :
    (trimEndBy p cs).length ≤ cs.length := by
  have h := (List.dropWhile_sublist p (l := cs.reverse)).length_le
  rwa [List.length_reverse, ← @List.length_reverse _ (cs.reverse.dropWhile p)] at h

theorem trimEndBy_of_trimBy (h : trimBy p cs = cs) : trimEndBy p cs = cs := by
  rw [trimEndBy, reverse_dropWhile_of_trimBy h, List.reverse_reverse]

end Text

/-! ## Lengths -/

namespace Stylesheet

variable {target : Char} {cs before after : List Char} {q : Quote} {d : Declaration}

theorem afterComment_sublist (cs : List Char) : (afterComment cs).Sublist cs := by
  fun_induction afterComment cs with
  | case1 => exact .refl _
  | case2 rest => exact ((List.Sublist.refl rest).cons _).cons _
  | case3 c rest _ ih => exact ih.cons _

theorem stripComments_sublist (q : Quote) (cs : List Char) : (stripComments q cs).Sublist cs := by
  fun_induction stripComments q cs with
  | case1 => exact .refl _
  | case2 q c rest q' hfeed ih => exact ih.cons_cons _
  | case3 q c rest q' hfeed after hpast ih =>
    have hafter : after.Sublist rest := by
      unfold pastComment? at hpast
      split at hpast
      · cases hpast
        exact (afterComment_sublist _).cons _
      · cases hpast
    exact (ih.trans hafter).cons _
  | case4 q c rest q' hfeed hpast ih => exact ih.cons_cons _

theorem length_squeezeValue_le (q : Quote) (spaced : Bool) (cs : List Char) :
    (squeezeValue q spaced cs).length ≤ cs.length := by
  induction cs generalizing q spaced with
  | nil => simp [squeezeValue]
  | cons c cs ih =>
    rw [squeezeValue]
    generalize (if c.toNat < 128 then q.feed c else (q, false)) = fed
    obtain ⟨q', inside⟩ := fed
    have hfalse := ih q' false
    have htrue := ih q' true
    dsimp only
    repeat' split
    all_goals simp only [List.length_cons]; omega

theorem length_normalizeValue_le (cs : List Char) :
    (normalizeValue cs).toList.length ≤ cs.length := by
  rw [normalizeValue, String.toList_ofList]
  exact Nat.le_trans (Text.trimBy_sublist _ _).length_le (length_squeezeValue_le _ _ _)

/-- A declaration is longer than its value. -/
theorem length_parse?_lt (h : Declaration.parse? cs = some d) :
    d.value.toList.length < cs.length := by
  unfold Declaration.parse? at h
  split at h
  · cases h
  · rename_i before after hcut
    have hlength := length_cutTop hcut
    have htrim := (Text.trimBy_sublist Text.isBlank cs).length_le
    have hvalue := length_normalizeValue_le after
    dsimp only at h
    split at h
    · cases h
    · obtain rfl := Option.some.inj h
      dsimp only
      omega

theorem length_splitTop_le {piece : List Char} (h : piece ∈ splitTop target cs) :
    piece.length ≤ cs.length := by
  fun_induction splitTop target cs with
  | case1 cs hcut =>
    exact Nat.le_of_eq (congrArg List.length (List.mem_singleton.mp h))
  | case2 cs before after hcut ih =>
    have hlength := length_cutTop hcut
    rcases List.mem_cons.mp h with rfl | h
    · omega
    · have := ih h
      omega

/-! ## Texts before -/

/-- Characters that begin and end nothing. -/
def IsPlain (target c : Char) : Prop := c ∉ ['\'', '"', '(', ')', '[', ']', '/', target]

theorem feed_of_isPlain {c : Char} (h : IsPlain target c) : Quote.feed {} c = ({}, false) := by
  simp only [IsPlain, List.mem_cons, not_or] at h
  simp [Quote.feed, h.1, h.2.1]

theorem cutTop_append (h : ∀ c ∈ before, IsPlain target c) (cs : List Char) :
    cutTop target (before ++ cs) = (cutTop target cs).map fun x => (before ++ x.1, x.2) := by
  induction before with
  | nil => cases hcut : cutTop target cs <;> simp [hcut]
  | cons c before ih =>
    have hc := h c (List.mem_cons_self ..)
    have hfeed := feed_of_isPlain hc
    simp only [IsPlain, List.mem_cons, not_or] at hc
    have hrest := ih fun c hc => h c (List.mem_cons_of_mem _ hc)
    unfold cutTop at hrest ⊢
    rw [List.cons_append, cutTopFrom, hfeed]
    simp [hc, hrest, Function.comp_def]

theorem stripComments_append (h : ∀ c ∈ before, IsPlain target c) (cs : List Char) :
    stripComments {} (before ++ cs) = before ++ stripComments {} cs := by
  induction before with
  | nil => rfl
  | cons c before ih =>
    have hc := h c (List.mem_cons_self ..)
    have hfeed := feed_of_isPlain hc
    have hpast : pastComment? c (before ++ cs) = none := by
      simp only [IsPlain, List.mem_cons, not_or] at hc
      unfold pastComment?
      split
      · exact absurd rfl hc.2.2.2.2.2.2.1
      · rfl
    rw [List.cons_append, stripComments, hfeed]
    dsimp only
    split
    · rename_i heq; rw [hpast] at heq; cases heq
    · rw [ih fun c hc => h c (List.mem_cons_of_mem _ hc)]
      rfl

theorem cutTop_target (h : ∀ c ∈ before, IsPlain target c) (ht : target ∉ ['\'', '"', '(', ')', '[', ']'])
    (after : List Char) : cutTop target (before ++ target :: after) = some (before, after) := by
  have hhere : cutTop target (target :: after) = some ([], after) := by
    simp only [List.mem_cons, not_or] at ht
    unfold cutTop
    rw [cutTopFrom]
    simp [Quote.feed, ht]
  rw [cutTop_append h, hhere]
  simp

/-! ## One declaration -/

variable {p : Property} {v : List Char}

/-- The text of a style with one property, as scripts write it. -/
def styleText (p : Property) (v : List Char) : List Char := p.cssName.toList ++ ':' :: v

theorem isPlain_cssName (p : Property) :
    (∀ c ∈ p.cssName.toList, IsPlain ':' c) ∧ ∀ c ∈ p.cssName.toList ++ [':'], IsPlain ';' c := by
  cases p <;> simp [IsPlain, Property.cssName]

theorem parse?_styleText (p : Property) (v : List Char) :
    Declaration.parse? (styleText p v) =
      if (normalizeValue (Text.trimEndBy Text.isBlank v)).isEmpty then none
      else some ⟨p.cssName, normalizeValue (Text.trimEndBy Text.isBlank v)⟩ := by
  have hname : Text.lower (Text.squeeze (String.ofList p.cssName.toList)) = p.cssName := by
    cases p <;> decide
  have hne : p.cssName.isEmpty = false := by cases p <;> decide
  obtain ⟨c, cs, hcs, hc⟩ : ∃ c cs, p.cssName.toList = c :: cs ∧ Text.isBlank c = false := by
    cases p <;> exact ⟨_, _, rfl, by decide⟩
  have htrim : Text.trimBy Text.isBlank (styleText p v) =
      p.cssName.toList ++ ':' :: Text.trimEndBy Text.isBlank v := by
    rw [styleText, hcs, Text.trimBy_append hc (by decide)]
  unfold Declaration.parse?
  rw [htrim, cutTop_target (isPlain_cssName p).1 (by decide)]
  dsimp only
  rw [hname, hne, Bool.false_or]

theorem value_of_parse? (h : Declaration.parse? (styleText p v) = some d) :
    d.value = normalizeValue (Text.trimEndBy Text.isBlank v) := by
  rw [parse?_styleText] at h
  split at h
  · cases h
  · obtain rfl := Option.some.inj h
    rfl

theorem cutTop_styleText (p : Property) (v : List Char) : cutTop ';' (styleText p v) =
    (cutTop ';' v).map fun x => (styleText p x.1, x.2) := by
  have h := cutTop_append (isPlain_cssName p).2 v
  simpa [styleText] using h

theorem stripComments_styleText (p : Property) (v : List Char) :
    stripComments {} (styleText p v) = styleText p (stripComments {} v) := by
  have h := stripComments_append (isPlain_cssName p).2 v
  simpa [styleText] using h

theorem splitTop_styleText (h : cutTop ';' v = none) :
    splitTop ';' (styleText p v) = [styleText p v] := by
  rw [splitTop]
  split
  · rfl
  · rename_i heq
    rw [cutTop_styleText, h] at heq
    cases heq

/-- No value is longer than the text after the name, and each is shorter if there is more than one
piece. -/
theorem length_value_le (h : d ∈ parseDeclarations (String.ofList (styleText p v))) :
    d.value.toList.length ≤ (stripComments {} v).length ∧
      (cutTop ';' (stripComments {} v) ≠ none →
        d.value.toList.length < (stripComments {} v).length) := by
  have hfirst : ∀ {b}, Declaration.parse? (styleText p b) = some d →
      d.value.toList.length ≤ b.length := by
    intro b hb
    rw [value_of_parse? hb]
    exact Nat.le_trans (length_normalizeValue_le _) (Text.length_trimEndBy_le _ _)
  unfold parseDeclarations at h
  rw [String.toList_ofList, stripComments_styleText] at h
  obtain ⟨piece, hpiece, hparse⟩ := List.mem_filterMap.mp h
  rw [splitTop] at hpiece
  split at hpiece
  · rename_i hcut
    rw [cutTop_styleText, Option.map_eq_none_iff] at hcut
    rw [List.mem_singleton.mp hpiece] at hparse
    exact ⟨hfirst hparse, fun hne => absurd hcut hne⟩
  · rename_i before after hcut
    rw [cutTop_styleText] at hcut
    obtain ⟨⟨b, a⟩, hv, hba⟩ := Option.map_eq_some_iff.mp hcut
    cases hba
    have hlength := length_cutTop hv
    -- whichever piece it comes from, the semicolon is not in it
    have hlt : d.value.toList.length < (stripComments {} v).length := by
      rcases List.mem_cons.mp hpiece with rfl | hpiece
      · have := hfirst hparse
        dsimp only at this
        omega
      · have := length_splitTop_le hpiece
        have := length_parse?_lt hparse
        dsimp only at *
        omega
    exact ⟨Nat.le_of_lt hlt, fun _ => hlt⟩

/-- Text without comments and in one piece is at most one declaration. -/
theorem parseDeclarations_of_cutTop (hcomments : stripComments {} v = v)
    (hcut : cutTop ';' v = none) : parseDeclarations (String.ofList (styleText p v)) =
      (Declaration.parse? (styleText p v)).toList := by
  unfold parseDeclarations
  rw [String.toList_ofList, stripComments_styleText, hcomments, splitTop_styleText hcut]
  cases h : Declaration.parse? (styleText p v) <;> simp [h]

/-- A value that stands in the text of a style as it is: it has no comment, no semicolon that ends
it, and nothing that is squeezed. -/
structure IsKept (v : List Char) : Prop where
  comments : stripComments {} v = v
  semicolon : cutTop ';' v = none
  squeezed : (normalizeValue v).toList = v

/-- A value that is kept is read back. -/
theorem parseDeclarations_styleText (hk : IsKept v) (hne : v ≠ []) (ht : Text.trimBy Text.isBlank v = v) :
    parseDeclarations (String.ofList (styleText p v)) = [⟨p.cssName, String.ofList v⟩] := by
  have hvalue : normalizeValue v = String.ofList v := by
    rw [← hk.squeezed, String.ofList_toList, hk.squeezed]
  have hparse : Declaration.parse? (styleText p v) = some ⟨p.cssName, String.ofList v⟩ := by
    rw [parse?_styleText, Text.trimEndBy_of_trimBy ht, hvalue, if_neg (by simpa using hne)]
  rw [parseDeclarations_of_cutTop hk.comments hk.semicolon, hparse, Option.toList_some]

end Stylesheet

namespace InlineStyle

open Stylesheet

/-- What stands in a style was in one of the declarations. -/
theorem exists_of_mem_ofDeclarations {ds : List (String × String)} {e : String × String}
    (he : e ∈ (ofDeclarations ds).declarations) : ∃ d ∈ ds, e.2 = Text.trim d.2 := by
  have hall : ∀ e ∈ (ofDeclarations ds).declarations, ∃ d ∈ ds, e.2 = Text.trim d.2 := by
    refine List.foldlRecOn
      (motive := fun s : InlineStyle => ∀ e ∈ s.declarations, ∃ d ∈ ds, e.2 = Text.trim d.2)
      ds _ (fun e h => by cases h) fun s hs d hd e he => ?_
    obtain he | ⟨rfl, -⟩ := mem_set he
    · exact hs e he
    · exact ⟨d, hd, rfl⟩
  exact hall e he

/-- **A style is read back as the one that sets the property just when the value is kept.** The text
may have lost some of the value before it is read. -/
theorem ofDeclarations_eq_set_iff (p : Property) {v : String} (hne : v ≠ "") (ht : Text.trim v = v)
    {written : List Char} (hw : written.Sublist v.toList) :
    ofDeclarations ((parseDeclarations (String.ofList (styleText p written))).map fun d =>
        (d.name, d.value)) = ({} : InlineStyle).set p.cssName v ↔
      written = v.toList ∧ IsKept v.toList := by
  have hnil : v.toList ≠ [] := by simpa using hne
  have htrim : Text.trimBy Text.isBlank v.toList = v.toList := by
    have := congrArg String.toList ht
    rwa [Text.trim, String.toList_ofList] at this
  have hset : ({} : InlineStyle).set p.cssName v = ⟨[(p.cssName, v)]⟩ := by
    unfold InlineStyle.set
    rw [ht, if_neg (by simpa using hne), Property.lower_trim_cssName]
    rfl
  rw [hset]
  constructor
  · intro hread
    have hmem : (p.cssName, v) ∈ (⟨[(p.cssName, v)]⟩ : InlineStyle).declarations :=
      List.mem_singleton.mpr rfl
    rw [← hread] at hmem
    obtain ⟨_, hpair, hv⟩ := exists_of_mem_ofDeclarations hmem
    obtain ⟨d, hd, rfl⟩ := List.mem_map.mp hpair
    replace hv : Text.trim d.value = v := hv.symm
    -- no step has made the value shorter
    obtain ⟨hle, hlt⟩ := length_value_le hd
    have hend := Text.trim_length_le d.value
    rw [hv] at hend
    have hstrip := stripComments_sublist {} written
    have hwritten : written = v.toList := by
      refine hw.eq_of_length (Nat.le_antisymm hw.length_le ?_)
      have := hstrip.length_le
      omega
    subst hwritten
    have hcomments : stripComments {} v.toList = v.toList :=
      hstrip.eq_of_length (Nat.le_antisymm hstrip.length_le (by omega))
    rw [hcomments] at hle hlt
    have hsemicolon : cutTop ';' v.toList = none :=
      Classical.byContradiction fun hcut => by
        have := hlt hcut
        omega
    rw [parseDeclarations_of_cutTop hcomments hsemicolon, Option.mem_toList] at hd
    have hvalue := value_of_parse? hd
    rw [Text.trimEndBy_of_trimBy htrim] at hvalue
    refine ⟨rfl, hcomments, hsemicolon, ?_⟩
    rw [hvalue] at hv hend
    have hsub := Text.trimBy_sublist Text.isBlank (normalizeValue v.toList).toList
    have hlist := congrArg String.toList hv
    rw [Text.trim, String.toList_ofList] at hlist
    rw [hlist] at hsub
    exact (hsub.eq_of_length (Nat.le_antisymm hsub.length_le (length_normalizeValue_le _))).symm
  · rintro ⟨rfl, hk⟩
    rw [parseDeclarations_styleText hk hnil htrim, String.ofList_toList]
    simp only [List.map_cons, List.map_nil, ofDeclarations, List.foldl_cons, List.foldl_nil]
    exact hset

end InlineStyle
end Restyle
