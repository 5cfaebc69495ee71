import Restyle.Source.StyleLiteral

/-!
# Restyle.Proofs.Source.Merge

What merging edits into the entries of a style object leaves: the entries that no edit is for, as
they were (`filter_untouched_merge`), and for each edit its own entry, or none where its value is
empty (`filter_isFor_merge`). Merging once more changes no text (`map_text_merge_merge`).

Where the entries of a merged style object stand. Edits are merged one property after the other,
each into what the ones before it left. `inPlace` and `appended` say at once what comes of all of
them: an edit stands where the first entry for its property stood, or behind all entries if there
was none (`foldl_mergeOne`). Only what is appended follows the order of the edits
(`merge_inPlace_append`).
-/

namespace Restyle
namespace Source
namespace Entry

variable {e : Entry} {es : List Entry} {p q : Property} {v : String} {edits : Styles}

/-! ## Entries and properties -/

theorem isFor_iff : e.isFor p = true ↔ e.key? = some p.key ∨ e.key? = some p.name := by
  unfold isFor
  cases e.key? <;> simp

/-- An entry is for one property. -/
theorem isFor_unique (hp : e.isFor p = true) (hq : e.isFor q = true) : p = q := by
  rw [isFor_iff] at hp hq
  have names : ∀ p q : Property, p.key = q.key ∨ p.key = q.name ∨ p.name = q.key ∨
      p.name = q.name → p = q := by
    intro p q
    cases p <;> cases q <;> decide
  apply names
  rcases hp with hp | hp <;> rcases hq with hq | hq <;>
    · have h := Option.some.inj (hp.symm.trans hq)
      simp [h]

theorem isFor_edited : (edited p v).isFor q = true ↔ p = q := by
  constructor
  · intro h
    exact isFor_unique (isFor_iff.mpr (.inl rfl)) h
  · rintro rfl
    exact isFor_iff.mpr (.inl rfl)

/-- Is no edit for this entry? -/
def isUntouched (edits : Styles) (e : Entry) : Bool := edits.toList.all fun (p, _) => !e.isFor p

/-! ## One edit -/

theorem filter_isFor_mergeOne_self :
    (mergeOne es p v).filter (·.isFor p) = if v.isEmpty then [] else [edited p v] := by
  unfold mergeOne
  split
  · simp
  · induction es with
    | nil => simp [replace?, isFor_edited]
    | cons e es ih =>
      rw [replace?]
      split
      · simp [isFor_edited]
      · rename_i he
        cases hreplace : replace? p v es with
        | none => simp_all
        | some es' => simp_all

/-- An edit leaves the entries alone that are not for it. -/
theorem filter_mergeOne {keep : Entry → Bool} (hkeep : ∀ e, e.isFor p = true → keep e = false) :
    (mergeOne es p v).filter keep = es.filter keep := by
  have hedited : keep (edited p v) = false := hkeep _ (isFor_edited.mpr rfl)
  have hothers : ∀ es : List Entry,
      (es.filter (!·.isFor p)).filter keep = es.filter keep := by
    intro es
    rw [List.filter_filter]
    refine List.filter_congr fun e _ => ?_
    cases he : e.isFor p with
    | true => simp [hkeep e he]
    | false => simp
  unfold mergeOne
  split
  · exact hothers es
  · induction es with
    | nil => simp [replace?, hedited]
    | cons e es ih =>
      rw [replace?]
      split
      · rename_i he
        simp [hedited, hkeep e he, hothers es]
      · cases hreplace : replace? p v es with
        | none => simp_all [List.filter_cons]
        | some es' => simp_all [List.filter_cons]

theorem filter_isFor_mergeOne (h : p ≠ q) :
    (mergeOne es p v).filter (·.isFor q) = es.filter (·.isFor q) := by
  apply filter_mergeOne
  intro e hp
  rw [Bool.eq_false_iff]
  exact fun hq => h (isFor_unique hp hq)

/-! ## All edits -/

/-- The properties with a value come once each. -/
theorem nodup_map_toList (edits : Styles) : (edits.toList.map (·.1)).Nodup := by
  have hmap : edits.toList.map (·.1) = Property.all.filter fun p => (edits.get? p).isSome := by
    unfold Styles.toList
    generalize Property.all = all
    induction all with
    | nil => rfl
    | cons p all ih =>
      cases hp : edits.get? p with
      | none => simp [hp, ih]
      | some v => simp [hp, ih]
  rw [hmap]
  exact List.Pairwise.sublist List.filter_sublist (by decide : Property.all.Nodup)

/-- **Entries that no edit is for** are left as they were, in order. -/
theorem filter_untouched_merge :
    (merge es edits).filter (isUntouched edits) = es.filter (isUntouched edits) := by
  have hkeep : ∀ pv ∈ edits.toList, ∀ e : Entry, e.isFor pv.1 = true →
      isUntouched edits e = false := by
    intro pv hpv e he
    rw [isUntouched, List.all_eq_false]
    exact ⟨pv, hpv, by simp [he]⟩
  unfold merge
  generalize isUntouched edits = keep at hkeep ⊢
  generalize edits.toList = pairs at hkeep ⊢
  induction pairs generalizing es with
  | nil => rfl
  | cons pv pairs ih =>
    obtain ⟨hpv, hpairs⟩ := List.forall_mem_cons.mp hkeep
    rw [List.foldl_cons, ih hpairs]
    exact filter_mergeOne hpv

/-- Edits for other properties leave the entries of a property alone. -/
theorem filter_isFor_foldl {pairs : List (Property × String)} (h : q ∉ pairs.map (·.1)) :
    (pairs.foldl (fun es (p, v) => mergeOne es p v) es).filter (·.isFor q) =
      es.filter (·.isFor q) := by
  induction pairs generalizing es with
  | nil => rfl
  | cons pv pairs ih =>
    simp only [List.map_cons, List.mem_cons, not_or] at h
    rw [List.foldl_cons, ih h.2]
    exact filter_isFor_mergeOne (Ne.symm h.1)

/-- **For each edit** its entry is there once, or none is if the value is empty. -/
theorem filter_isFor_merge (h : (p, v) ∈ edits.toList) :
    (merge es edits).filter (·.isFor p) = if v.isEmpty then [] else [edited p v] := by
  have hnodup := nodup_map_toList edits
  unfold merge
  generalize edits.toList = pairs at h hnodup ⊢
  induction pairs generalizing es with
  | nil => cases h
  | cons pv pairs ih =>
    obtain ⟨hfresh, hnodup⟩ := List.nodup_cons.mp hnodup
    rw [List.foldl_cons]
    rcases List.mem_cons.mp h with rfl | h
    · rw [filter_isFor_foldl hfresh]
      exact filter_isFor_mergeOne_self
    · exact ih h hnodup

/-- What is not an edit was there before. -/
theorem mem_merge (h : e ∈ merge es edits) :
    e ∈ es ∨ ∃ p v, (p, v) ∈ edits.toList ∧ v.isEmpty = false ∧ e = edited p v := by
  by_cases hu : isUntouched edits e = true
  · left
    have hmem : e ∈ (merge es edits).filter (isUntouched edits) := List.mem_filter.mpr ⟨h, hu⟩
    rw [filter_untouched_merge] at hmem
    exact (List.mem_filter.mp hmem).1
  · right
    rw [Bool.not_eq_true, isUntouched, List.all_eq_false] at hu
    obtain ⟨⟨p, v⟩, hpv, he⟩ := hu
    have hmem : e ∈ (merge es edits).filter (·.isFor p) :=
      List.mem_filter.mpr ⟨h, by simpa using he⟩
    rw [filter_isFor_merge hpv] at hmem
    split at hmem
    · cases hmem
    · rename_i hv
      exact ⟨p, v, hpv, by simpa using hv, by simpa using hmem⟩

/-! ## Merging again -/

/-- The entry with the text that it is written with. -/
def settled (e : Entry) : Entry :=
  match e with
  | quoted key value _ => quoted key value (some e.text)
  | raw key text => raw key text

@[simp] theorem text_settled (e : Entry) : e.settled.text = e.text := by
  cases e with
  | quoted key value text => rfl
  | raw key text => rfl

@[simp] theorem key?_settled (e : Entry) : e.settled.key? = e.key? := by cases e <;> rfl

@[simp] theorem isFor_settled (e : Entry) : e.settled.isFor p = e.isFor p := by
  simp [isFor]

@[simp] theorem settled_settled (e : Entry) : e.settled.settled = e.settled := by
  cases e <;> simp [settled, text]

theorem filter_map_settled : (es.map settled).filter (·.isFor p) =
    (es.filter (·.isFor p)).map settled := by
  rw [List.filter_map]
  congr 2
  funext e
  simp

/-- An edit whose entry is there already, once, changes nothing but how the entry is held. -/
theorem map_settled_mergeOne
    (h : (es.map settled).filter (·.isFor p) =
      if v.isEmpty then [] else [(edited p v).settled]) :
    (mergeOne es p v).map settled = es.map settled := by
  rw [filter_map_settled] at h
  unfold mergeOne
  split
  · rename_i hv
    rw [if_pos hv, List.map_eq_nil_iff, List.filter_eq_nil_iff] at h
    rw [List.filter_eq_self.mpr fun e he => by simpa using h e he]
  · rename_i hv
    rw [if_neg hv] at h
    induction es with
    | nil => cases h
    | cons e es ih =>
      rw [replace?]
      split
      · rename_i he
        rw [List.filter_cons_of_pos he, List.map_cons, List.cons.injEq, List.map_eq_nil_iff,
          List.filter_eq_nil_iff] at h
        obtain ⟨hsame, hothers⟩ := h
        rw [Option.getD_some, List.map_cons, List.map_cons, hsame,
          List.filter_eq_self.mpr fun e he => by simpa using hothers e he]
      · rename_i he
        rw [List.filter_cons_of_neg he] at h
        have htail := ih h
        cases hreplace : replace? p v es with
        | none => simp [hreplace] at htail
        | some es' => simpa [hreplace] using htail

/-- **Merging again** changes nothing but how entries are held. -/
theorem map_settled_merge_merge :
    (merge ((merge es edits).map settled) edits).map settled = (merge es edits).map settled := by
  have hall : ∀ (pairs : List (Property × String)) (es : List Entry),
      (∀ pv ∈ pairs, (es.map settled).filter (·.isFor pv.1) =
        if pv.2.isEmpty then [] else [(edited pv.1 pv.2).settled]) →
      (pairs.foldl (fun es (p, v) => mergeOne es p v) es).map settled = es.map settled := by
    intro pairs
    induction pairs with
    | nil => intro es _; rfl
    | cons pv pairs ih =>
      intro es h
      obtain ⟨hpv, hpairs⟩ := List.forall_mem_cons.mp h
      have hone := map_settled_mergeOne hpv
      rw [List.foldl_cons, ih _ (by rw [hone]; exact hpairs), hone]
  have hsettled : ((merge es edits).map settled).map settled = (merge es edits).map settled := by
    simp
  refine (hall edits.toList _ fun pv hpv => ?_).trans hsettled
  rw [hsettled, filter_map_settled, filter_isFor_merge hpv]
  split <;> simp

end Entry
end Source

/-! ## Where the entries stand -/

namespace Source
namespace Entry

variable {e : Entry} {es before before' : List Entry} {p q : Property} {v : String}
  {pairs pairs' : List (Property × String)}

/-- The edit for an entry, if there is one. -/
def editFor? (pairs : List (Property × String)) (e : Entry) : Option (Property × String) :=
  pairs.find? fun (p, _) => e.isFor p

/-- What edits leave of an entry that stands behind others: the entry if no edit is for it, the
edit's own entry if it is the first for its property, and nothing if it is a later one or the value
of the edit is empty. -/
def standing (pairs : List (Property × String)) (before : List Entry) (e : Entry) : List Entry :=
  match editFor? pairs e with
  | none => [e]
  | some (p, v) => if v.isEmpty || before.any (·.isFor p) then [] else [edited p v]

/-- What edits leave of entries that stand behind others, each in its place. -/
def inPlace (pairs : List (Property × String)) : List Entry → List Entry → List Entry
  | _, [] => []
  | before, e :: es => standing pairs before e ++ inPlace pairs (before ++ [e]) es

/-- The entries of the edits for which there is none to replace, in the order of the edits. -/
def appended (pairs : List (Property × String)) (es : List Entry) : List Entry :=
  (pairs.filter fun (p, v) => !v.isEmpty && !es.any (·.isFor p)).map fun (p, v) => edited p v

/-! ## The edit for an entry -/

theorem editFor?_cons_of_isFor (h : e.isFor p = true) : editFor? ((p, v) :: pairs) e = some (p, v) :=
  List.find?_cons_of_pos h

theorem editFor?_cons_of_not (h : e.isFor p = false) :
    editFor? ((p, v) :: pairs) e = editFor? pairs e :=
  List.find?_cons_of_neg (by simpa using h)

/-- With one edit for each property, the edit for an entry is the one of its property. -/
theorem editFor?_eq_some_iff (hnodup : (pairs.map (·.1)).Nodup) :
    editFor? pairs e = some (p, v) ↔ (p, v) ∈ pairs ∧ e.isFor p = true := by
  constructor
  · intro h
    have hfor : e.isFor (p, v).1 = true :=
      List.find?_some (p := fun pair : Property × String => e.isFor pair.1) h
    exact ⟨List.mem_of_find?_eq_some h, hfor⟩
  · rintro ⟨hmem, hp⟩
    induction pairs with
    | nil => cases hmem
    | cons pair pairs ih =>
      obtain ⟨hfresh, hnodup⟩ := List.nodup_cons.mp hnodup
      rcases List.mem_cons.mp hmem with rfl | hmem
      · exact editFor?_cons_of_isFor hp
      · have hne : pair.1 ≠ p := by
          rintro rfl
          exact hfresh (List.mem_map.mpr ⟨_, hmem, rfl⟩)
        have hother : e.isFor pair.1 = false := by
          rw [Bool.eq_false_iff]
          exact fun h => hne (isFor_unique h hp)
        rw [editFor?_cons_of_not hother]
        exact ih hnodup hmem

theorem editFor?_perm (hperm : pairs.Perm pairs') (hnodup : (pairs.map (·.1)).Nodup) (e : Entry) :
    editFor? pairs e = editFor? pairs' e := by
  have hnodup' : (pairs'.map (·.1)).Nodup := (hperm.map _).nodup_iff.mp hnodup
  ext ⟨p, v⟩
  rw [editFor?_eq_some_iff hnodup, editFor?_eq_some_iff hnodup', hperm.mem_iff]

/-- What stands in place does not depend on the order of the edits. -/
theorem inPlace_perm (hperm : pairs.Perm pairs') (hnodup : (pairs.map (·.1)).Nodup) :
    inPlace pairs before es = inPlace pairs' before es := by
  induction es generalizing before with
  | nil => rfl
  | cons e es ih => rw [inPlace, inPlace, ih, standing, standing, editFor?_perm hperm hnodup]

/-! ## One edit more -/

theorem appended_single (es : List Entry) :
    appended [(p, v)] es = if v.isEmpty || es.any (·.isFor p) then [] else [edited p v] := by
  rw [appended, List.filter_cons, List.filter_nil]
  cases hv : v.isEmpty <;> cases hany : es.any (·.isFor p) <;> simp only [hv, hany] <;> rfl

/-- Lists that hold entries for the same properties, one property apart. -/
def AlikeBut (p : Property) (before before' : List Entry) : Prop :=
  ∀ q, q ≠ p → before.any (·.isFor q) = before'.any (·.isFor q)

theorem AlikeBut.concat (h : AlikeBut p before before') (e : Entry) :
    AlikeBut p (before ++ [e]) (before' ++ [e]) := by
  intro q hq
  simp [h q hq]

/-- An entry for the property itself makes no difference. -/
theorem AlikeBut.concat_isFor (h : AlikeBut p before before') (he : e.isFor p = true) :
    AlikeBut p (before ++ [e]) before' := by
  intro q hq
  have hother : e.isFor q = false := by
    rw [Bool.eq_false_iff]
    exact fun h => hq (isFor_unique h he)
  simp [h q hq, hother]

theorem AlikeBut.standing_eq (h : AlikeBut p before before') (hp : p ∉ pairs.map (·.1))
    (he : e.isFor p = false) :
    standing pairs before' e = standing ((p, v) :: pairs) before e := by
  rw [standing, standing, editFor?_cons_of_not he]
  cases hfor : editFor? pairs e with
  | none => rfl
  | some pair =>
    obtain ⟨q, w⟩ := pair
    have hq : q ≠ p := by
      rintro rfl
      exact hp (List.mem_map_of_mem (List.mem_of_find?_eq_some hfor))
    simp only [h q hq]

/-- Once an entry for `p` stood before, or if the value of the edit is empty, the edit only takes
entries away. -/
theorem inPlace_filter (hp : p ∉ pairs.map (·.1)) (halike : AlikeBut p before before')
    (hdrop : (v.isEmpty || before.any (·.isFor p)) = true) :
    inPlace pairs before' (es.filter (!·.isFor p)) = inPlace ((p, v) :: pairs) before es := by
  induction es generalizing before before' with
  | nil => rfl
  | cons e es ih =>
    have hdrop' : (v.isEmpty || (before ++ [e]).any (·.isFor p)) = true := by
      rw [List.any_append, ← Bool.or_assoc, hdrop, Bool.true_or]
    cases he : e.isFor p with
    | true =>
      have hnone : standing ((p, v) :: pairs) before e = [] := by
        rw [standing, editFor?_cons_of_isFor he]
        exact if_pos hdrop
      rw [List.filter_cons_of_neg (by simp [he]), inPlace, hnone, List.nil_append]
      exact ih (halike.concat_isFor he) hdrop'
    | false =>
      rw [List.filter_cons_of_pos (by simp [he]), inPlace, inPlace, halike.standing_eq hp he,
        ih (halike.concat e) hdrop']

/-- The entry of an edit is left by edits for other properties. -/
theorem standing_edited (hp : p ∉ pairs.map (·.1)) :
    standing pairs before (edited p v) = [edited p v] := by
  have hnone : editFor? pairs (edited p v) = none := by
    refine List.find?_eq_none.mpr fun pair hpair hfor => hp ?_
    rw [isFor_edited.mp hfor]
    exact List.mem_map_of_mem hpair
  rw [standing, hnone]

/-- An edit with a value stands in place of the first entry for its property, else at the end. -/
theorem inPlace_replace? (hp : p ∉ pairs.map (·.1)) (halike : AlikeBut p before before')
    (hv : v.isEmpty = false) (hfirst : before.any (·.isFor p) = false) :
    inPlace pairs before' ((replace? p v es).getD (es ++ [edited p v])) =
      inPlace ((p, v) :: pairs) before es ++ appended [(p, v)] es := by
  induction es generalizing before before' with
  | nil => simp [replace?, inPlace, appended_single, hv, standing_edited hp]
  | cons e es ih =>
    cases he : e.isFor p with
    | true =>
      have hhere : standing ((p, v) :: pairs) before e = [edited p v] := by
        rw [standing, editFor?_cons_of_isFor he]
        simp [hv, hfirst]
      have hlater : (v.isEmpty || (before ++ [e]).any (·.isFor p)) = true := by simp [he]
      have halike' : AlikeBut p (before ++ [e]) (before' ++ [edited p v]) := by
        intro q hq
        have hedited : (edited p v).isFor q = false := by
          rw [Bool.eq_false_iff]
          exact fun h => hq (isFor_edited.mp h).symm
        have hsame := halike.concat_isFor he q hq
        rw [hsame, List.any_append]
        simp [hedited]
      rw [replace?, if_pos he, Option.getD_some, inPlace, inPlace, standing_edited hp, hhere,
        inPlace_filter hp halike' hlater]
      simp [appended_single, he]
    | false =>
      have hcons : (replace? p v (e :: es)).getD (e :: es ++ [edited p v]) =
          e :: (replace? p v es).getD (es ++ [edited p v]) := by
        rw [replace?, he]
        cases replace? p v es <;> rfl
      have happended : appended [(p, v)] (e :: es) = appended [(p, v)] es := by
        simp [appended_single, he]
      rw [hcons, inPlace, inPlace, halike.standing_eq hp he, happended, List.append_assoc,
        ih (halike.concat e) (by simp [hfirst, he])]

theorem inPlace_mergeOne (hp : p ∉ pairs.map (·.1)) :
    inPlace pairs [] (mergeOne es p v) =
      inPlace ((p, v) :: pairs) [] es ++ appended [(p, v)] es := by
  cases hv : v.isEmpty with
  | true =>
    rw [mergeOne, if_pos hv, inPlace_filter hp (fun _ _ => rfl) (by rw [hv, Bool.true_or])]
    simp [appended_single, hv]
  | false =>
    rw [mergeOne, hv]
    exact inPlace_replace? hp (fun _ _ => rfl) hv rfl

theorem any_isFor_eq (es : List Entry) :
    es.any (·.isFor q) = !(es.filter (·.isFor q)).isEmpty := by
  induction es with
  | nil => rfl
  | cons e es ih => cases he : e.isFor q <;> simp [he, ih]

theorem appended_mergeOne (hp : p ∉ pairs.map (·.1)) :
    appended pairs (mergeOne es p v) = appended pairs es := by
  rw [appended, appended]
  congr 1
  refine List.filter_congr fun pair hpair => ?_
  have hne : p ≠ pair.1 := by
    rintro rfl
    exact hp (List.mem_map_of_mem hpair)
  simp only [any_isFor_eq, filter_isFor_mergeOne hne]

/-! ## All edits -/

/-- Edits for different properties, merged in any order. -/
theorem foldl_mergeOne (hnodup : (pairs.map (·.1)).Nodup) (es : List Entry) :
    pairs.foldl (fun es (p, v) => mergeOne es p v) es = inPlace pairs [] es ++ appended pairs es := by
  induction pairs generalizing es with
  | nil =>
    have hkeep : ∀ before, inPlace [] before es = es := by
      induction es with
      | nil => exact fun _ => rfl
      | cons e es ih => exact fun before => by rw [inPlace, ih]; rfl
    rw [List.foldl_nil, hkeep]
    simp [appended]
  | cons pair pairs ih =>
    obtain ⟨p, v⟩ := pair
    obtain ⟨hp, hnodup⟩ := List.nodup_cons.mp hnodup
    have hsplit : appended ((p, v) :: pairs) es = appended [(p, v)] es ++ appended pairs es := by
      rw [appended, appended, appended, ← List.map_append, ← List.filter_append,
        List.singleton_append]
    rw [List.foldl_cons, ih hnodup, inPlace_mergeOne hp, appended_mergeOne hp, hsplit,
      List.append_assoc]

/-- **Merging edits into the entries of a style object** leaves the entries that no edit is for as
they were, and of the entries for an edit just one under its key with its value, or none if the
value is empty. It stands where the first of them stood; the edits for which there was none come
behind all entries in the order of the properties. Taken in another order, the edits leave the same
in place. -/
theorem merge_inPlace_append (es : List Entry) (edits : Styles) :
    merge es edits = inPlace edits.toList [] es ++ appended edits.toList es ∧
      (merge es edits).filter (isUntouched edits) = es.filter (isUntouched edits) ∧
      (∀ p v, (p, v) ∈ edits.toList →
        (merge es edits).filter (·.isFor p) = if v.isEmpty then [] else [quoted p.key v none]) ∧
      ∀ pairs, pairs.Perm edits.toList →
        pairs.foldl (fun es (p, v) => mergeOne es p v) es =
          inPlace edits.toList [] es ++ appended pairs es := by
  have hnodup := nodup_map_toList edits
  refine ⟨foldl_mergeOne hnodup es, filter_untouched_merge, ?_, ?_⟩
  · intro p v h
    exact filter_isFor_merge h
  · intro pairs hperm
    have hpairs : (pairs.map (·.1)).Nodup := (hperm.map _).nodup_iff.mpr hnodup
    rw [foldl_mergeOne hpairs, inPlace_perm hperm hpairs]

/-- Two spellings of one property, of which the second goes, a spread between them, and two edits
that replace nothing. -/
theorem merge_inPlace_append_background :
    let es := [quoted "background" "red" (some "background: 'red'"), raw none "...rest",
      quoted "backgroundColor" "blue" (some "backgroundColor: 'blue'")]
    let edits : Styles := { padding := some "1px", background := some "#fff", fontSize := some "2px" }
    let turned := [(Property.fontSize, "2px"), (.background, "#fff"), (.padding, "1px")]
    (Property.background, "#fff") ∈ edits.toList ∧ turned.Perm edits.toList ∧
      merge es edits = [quoted "backgroundColor" "#fff" none, raw none "...rest",
        quoted "padding" "1px" none, quoted "fontSize" "2px" none] ∧
      (merge es edits).filter (·.isFor .background) = [quoted "backgroundColor" "#fff" none] ∧
      turned.foldl (fun es (p, v) => mergeOne es p v) es =
        [quoted "backgroundColor" "#fff" none, raw none "...rest",
          quoted "fontSize" "2px" none, quoted "padding" "1px" none] := by
  intro es edits turned
  have hmem : (Property.background, "#fff") ∈ edits.toList :=
    List.mem_cons_of_mem _ List.mem_cons_self
  have hperm : turned.Perm edits.toList := by decide
  obtain ⟨hmerge, -, hone, horder⟩ := merge_inPlace_append es edits
  refine ⟨hmem, hperm, hmerge, hone _ _ hmem, horder _ hperm⟩

end Entry
end Source
end Restyle
