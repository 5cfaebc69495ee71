import Restyle.Proofs.Markup.Name
import Restyle.Resolve
import Restyle.Proofs.Overrides.Table

/-!
# Restyle.Proofs.Document.InlineStyle

Inline styles as maps. Styles that are made by setting properties are `Tidy`: each name stands there
once, in lower case. Two of them have the same values just when they are the same up to the order of
their declarations (`Tidy.perm_iff`), and values that are written over earlier ones leave nothing of
these (`Tidy.write_write`). Declarations of other names stay as they are (`Tidy.filter_write`), and
writing the same values again changes nothing (`Tidy.write_self`).

Under any sequence of calls a style stays a map from keys to values, both without blanks at their
ends (`InlineStyle.IsMap`), in which the last call about a property decides
(`InlineStyle.lastValue`). Setting and erasing a property disregard blanks around its name, looking
it up does not. So a value is found under the names without blanks at their ends, and under no other
(`InlineStyle.get?_after_iff`).
-/

namespace Restyle

theorem Text.dropWhile_dropWhile (p : Char → Bool) (cs : List Char) :
    (cs.dropWhile p).dropWhile p = cs.dropWhile p := by
  induction cs with
  | nil => rfl
  | cons c cs ih =>
    by_cases hc : p c = true
    · rw [List.dropWhile_cons_of_pos hc, ih]
    · rw [List.dropWhile_cons_of_neg hc, List.dropWhile_cons_of_neg hc]

theorem Text.isPrefix_trimBy (p : Char → Bool) (cs : List Char) :
    trimBy p cs <+: cs.dropWhile p := by
  rw [← List.reverse_suffix, trimBy, List.reverse_reverse]
  exact List.dropWhile_suffix p

/-- A trimmed text has no more blanks at its ends. -/
theorem Text.trimBy_trimBy (p : Char → Bool) (cs : List Char) :
    trimBy p (trimBy p cs) = trimBy p cs := by
  have hstart : (trimBy p cs).dropWhile p = trimBy p cs := by
    obtain ⟨after, hafter⟩ := isPrefix_trimBy p cs
    have hfirst := List.head?_dropWhile_not p cs
    rw [← hafter] at hfirst
    cases htrim : trimBy p cs with
    | nil => rfl
    | cons c rest =>
      rw [htrim] at hfirst
      exact List.dropWhile_cons_of_neg (by simpa using hfirst)
  rw [trimBy, hstart, trimBy, List.reverse_reverse, dropWhile_dropWhile]

@[simp] theorem Text.trim_trim (s : String) : Text.trim (Text.trim s) = Text.trim s := by
  rw [Text.trim, Text.trim, String.toList_ofList, trimBy_trimBy]

namespace Text

variable {p : Char → Bool} {f : Char → Char} {s : String}

theorem trimBy_map (h : ∀ c, p (f c) = p c) (cs : List Char) :
    trimBy p (cs.map f) = (trimBy p cs).map f := by
  have hp : p ∘ f = p := funext h
  simp only [trimBy, List.dropWhile_map, ← List.map_reverse, hp]

theorem isBlank_toLower (c : Char) : isBlank c.toLower = isBlank c := by
  obtain hsame | ⟨hge, hlt⟩ := toLower_eq_or c
  · rw [hsame]
  · have hcapital : ∀ n < 91, 65 ≤ n →
        isBlank (Char.ofNat n).toLower = isBlank (Char.ofNat n) := by decide
    have := hcapital c.toNat hlt hge
    rwa [Char.ofNat_toNat] at this

theorem trim_lower (s : String) : trim (lower s) = lower (trim s) := by
  simp only [trim, lower, String.toList_ofList, trimBy_map isBlank_toLower]

theorem trimBy_sublist (p : Char → Bool) (cs : List Char) : (trimBy p cs).Sublist cs :=
  (isPrefix_trimBy p cs).sublist.trans (List.dropWhile_sublist p)

/-- Blanks at the ends of a text are those of its small form. -/
theorem trim_eq_of_lower (h : lower (trim s) = lower s) : trim s = s := by
  have hlength : (trim s).toList.length = s.toList.length := by
    have := congrArg (fun t => t.toList.length) h
    simpa [lower] using this
  rw [trim, String.toList_ofList] at hlength
  rw [trim, (trimBy_sublist isBlank s.toList).eq_of_length hlength, String.ofList_toList]

end Text

namespace InlineStyle

variable {s s' : InlineStyle} {name x v : String} {styles styles' : Styles}

/-- Names are stored in lower case, each once. -/
structure Tidy (s : InlineStyle) : Prop where
  lower : ∀ d ∈ s.declarations, Text.lower d.1 = d.1
  nodup : (s.declarations.map (·.1)).Nodup

theorem Tidy.empty : ({} : InlineStyle).Tidy := ⟨fun _ h => (by cases h), List.Pairwise.nil⟩

theorem Tidy.of_perm (hs : s.Tidy) (h : s.declarations.Perm s'.declarations) : s'.Tidy where
  lower d hd := hs.lower d (h.mem_iff.mpr hd)
  nodup := (h.map _).nodup_iff.mp hs.nodup

/-! ## Values -/

theorem find?_congr {ds : List (String × String)} {f g : String × String → Bool}
    (h : ∀ d ∈ ds, f d = g d) : ds.find? f = ds.find? g := by
  induction ds with
  | nil => rfl
  | cons d ds ih =>
    rw [List.find?_cons, List.find?_cons, h d (List.mem_cons_self ..),
      ih fun e he => h e (List.mem_cons_of_mem _ he)]

theorem find?_eq_some_iff {β : Type} {ds : List (String × β)} (hnodup : (ds.map (·.1)).Nodup)
    {e : String × β} : ds.find? (·.1 == e.1) = some e ↔ e ∈ ds := by
  induction ds with
  | nil => simp
  | cons d ds ih =>
    rw [List.map_cons, List.nodup_cons] at hnodup
    by_cases hd : d.1 = e.1
    · rw [List.find?_cons_of_pos (by simpa using hd), Option.some.injEq]
      constructor
      · rintro rfl
        exact List.mem_cons_self ..
      · intro he
        rcases List.mem_cons.mp he with rfl | he
        · rfl
        · exact absurd (List.mem_map.mpr ⟨e, he, hd.symm⟩) hnodup.1
    · rw [List.find?_cons_of_neg (by simpa using hd), ih hnodup.2, List.mem_cons]
      exact ⟨.inr, fun h => h.resolve_left fun h => hd (h ▸ rfl)⟩

theorem Tidy.get?_eq_find? (hs : s.Tidy) (name : String) :
    s.get? name = (s.declarations.find? (·.1 == Text.lower name)).map (·.2) := by
  unfold get?
  congr 1
  exact find?_congr fun d hd => by rw [Text.sameFolded, hs.lower d hd]

theorem Tidy.get?_eq_some_iff (hs : s.Tidy) :
    s.get? name = some v ↔ (Text.lower name, v) ∈ s.declarations := by
  rw [hs.get?_eq_find?, ← find?_eq_some_iff hs.nodup, Option.map_eq_some_iff]
  constructor
  · rintro ⟨e, he, rfl⟩
    have hname : e.1 = Text.lower name := by simpa using List.find?_some he
    rw [he, ← hname]
  · intro h
    exact ⟨_, h, rfl⟩

theorem Tidy.nodup_declarations (hs : s.Tidy) : s.declarations.Nodup :=
  List.Pairwise.of_map _ (fun _ _ hne heq => hne (heq ▸ rfl)) hs.nodup

/-- Up to the order of declarations a style is told by its values. -/
theorem Tidy.perm_iff (hs : s.Tidy) (hs' : s'.Tidy) :
    s.declarations.Perm s'.declarations ↔ ∀ name, s.get? name = s'.get? name := by
  constructor
  · intro h name
    refine Option.ext fun v => ?_
    rw [hs.get?_eq_some_iff, hs'.get?_eq_some_iff, h.mem_iff]
  · intro h
    have hsub : ∀ {s s' : InlineStyle}, s.Tidy → s'.Tidy → (∀ name, s.get? name = s'.get? name) →
        ∀ e ∈ s.declarations, e ∈ s'.declarations := by
      intro s s' hs hs' h e he
      have hlower := hs.lower e he
      have hget : s.get? e.1 = some e.2 := hs.get?_eq_some_iff.mpr (by rwa [hlower])
      rw [h, hs'.get?_eq_some_iff, hlower] at hget
      exact hget
    refine (List.perm_ext_iff_of_nodup hs.nodup_declarations hs'.nodup_declarations).mpr fun e => ?_
    exact ⟨hsub hs hs' h e, hsub hs' hs (fun name => (h name).symm) e⟩

/-! ## Setting a property -/

theorem mem_put {key value : String} {ds : List (String × String)} {e : String × String}
    (h : e ∈ put key value ds) : e = (key, value) ∨ e ∈ ds := by
  induction ds with
  | nil => exact .inl (List.mem_singleton.mp h)
  | cons d ds ih =>
    unfold put at h
    split at h
    · rename_i hd
      rcases List.mem_cons.mp h with rfl | h
      · exact .inl (by rw [beq_iff_eq.mp hd])
      · exact .inr (List.mem_cons_of_mem _ h)
    · rcases List.mem_cons.mp h with rfl | h
      · exact .inr (List.mem_cons_self ..)
      · exact (ih h).imp_right (List.mem_cons_of_mem _)

theorem find?_put (key value x : String) (ds : List (String × String)) :
    (put key value ds).find? (·.1 == x) =
      if key = x then some (x, value) else ds.find? (·.1 == x) := by
  induction ds with
  | nil =>
    by_cases hx : key = x
    · simp [put, hx]
    · simp [put, hx]
  | cons d ds ih =>
    unfold put
    by_cases hd : d.1 = key
    · rw [if_pos (by simpa using hd), hd]
      by_cases hx : key = x
      · simp [hx]
      · simp [hx, hd]
    · rw [if_neg (by simpa using hd), List.find?_cons, ih, List.find?_cons]
      by_cases hx : key = x
      · have hdx : (d.1 == x) = false := by simpa [hx] using hd
        simp [hx, hdx]
      · simp [hx]

theorem nodup_put {key value : String} {ds : List (String × String)}
    (h : (ds.map (·.1)).Nodup) : ((put key value ds).map (·.1)).Nodup := by
  induction ds with
  | nil => simp [put]
  | cons d ds ih =>
    rw [List.map_cons, List.nodup_cons] at h
    unfold put
    split
    · exact List.nodup_cons.mpr h
    · rename_i hd
      refine List.nodup_cons.mpr ⟨fun hmem => ?_, ih h.2⟩
      obtain ⟨e, he, heq⟩ := List.mem_map.mp hmem
      obtain rfl | he := mem_put he
      · exact hd (beq_iff_eq.mpr heq.symm)
      · exact h.1 (List.mem_map.mpr ⟨e, he, heq⟩)

theorem Tidy.set (hs : s.Tidy) (name v : String) : (s.set name v).Tidy := by
  unfold InlineStyle.set
  dsimp only
  split
  · exact ⟨fun d hd => hs.lower d (List.mem_filter.mp hd).1,
      hs.nodup.sublist (List.filter_sublist.map _)⟩
  · refine ⟨fun d hd => ?_, nodup_put hs.nodup⟩
    obtain rfl | hd := mem_put hd
    · exact Text.lower_lower _
    · exact hs.lower d hd

theorem Tidy.ofDeclarations (ds : List (String × String)) : (ofDeclarations ds).Tidy := by
  unfold InlineStyle.ofDeclarations
  exact List.foldlRecOn (motive := Tidy) _ _ .empty fun _ hs d _ => hs.set d.1 d.2

/-- The value that setting a property to a text gives it. -/
def kept (v : String) : Option String :=
  if (Text.trim v).isEmpty then none else some (Text.trim v)

theorem Tidy.get?_set (hs : s.Tidy) (name v x : String) :
    (s.set name v).get? x =
      if Text.lower (Text.trim name) = Text.lower x then kept v else s.get? x := by
  rw [(hs.set name v).get?_eq_find?, hs.get?_eq_find?]
  unfold InlineStyle.set kept
  dsimp only
  by_cases hv : (Text.trim v).isEmpty = true
  · rw [if_pos hv, if_pos hv]
    unfold erase
    have hkeep : ∀ d ∈ s.declarations, (!Text.sameFolded d.1 (Text.trim name)) =
        !(d.1 == Text.lower (Text.trim name)) := by
      intro d hd
      rw [Text.sameFolded, hs.lower d hd]
    rw [List.filter_congr hkeep, List.find?_filter]
    by_cases hx : Text.lower (Text.trim name) = Text.lower x
    · rw [if_pos hx, hx]
      simp
    · rw [if_neg hx]
      have hother : ∀ d ∈ s.declarations, decide ((!d.1 == Text.lower (Text.trim name)) = true ∧
          (d.1 == Text.lower x) = true) = (d.1 == Text.lower x) := by
        intro d _
        by_cases hd : d.1 = Text.lower x
        · simp [hd, Ne.symm hx]
        · simp [hd]
      rw [find?_congr hother]
  · rw [if_neg hv, if_neg hv, find?_put]
    by_cases hx : Text.lower (Text.trim name) = Text.lower x
    · rw [if_pos hx, if_pos hx, Option.map_some]
    · rw [if_neg hx, if_neg hx]

/-! ## Writing recorded values -/

/-- Writes recorded values into a style. -/
def write (s : InlineStyle) (styles : Styles) : InlineStyle :=
  styles.toList.foldl (fun style (p, v) => style.set p.cssName v) s

theorem write_eq (s : InlineStyle) (styles : Styles) :
    s.write styles = Property.all.foldl (fun style p =>
      match styles.get? p with
      | some v => style.set p.cssName v
      | none => style) s := by
  unfold write Styles.toList
  rw [List.foldl_filterMap]
  congr 1
  funext style p
  cases styles.get? p <;> rfl

theorem Tidy.write (hs : s.Tidy) (styles : Styles) : (s.write styles).Tidy :=
  List.foldlRecOn (motive := Tidy) _ _ hs fun _ hs d _ => hs.set d.1.cssName d.2

end InlineStyle

namespace Property

theorem cssName_injective {p q : Property} (h : p.cssName = q.cssName) : p = q := by
  cases p <;> cases q <;> first | rfl | exact absurd h (by decide)

theorem lower_trim_cssName (p : Property) : Text.lower (Text.trim p.cssName) = p.cssName := by
  cases p <;> decide

/-- The property that style sheets call by a name. -/
def ofCssName? (name : String) : Option Property :=
  all.find? fun p => p.cssName == Text.lower name

theorem ofCssName?_cssName (p : Property) : ofCssName? p.cssName = some p := by
  cases p <;> decide

end Property

namespace InlineStyle

variable {s s' : InlineStyle} {name : String} {styles styles' : Styles}

/-- The value of a property once recorded values are written over it. -/
def overwritten (styles : Styles) (name : String) (before : Option String) : Option String :=
  match (Property.ofCssName? name).bind styles.get? with
  | some v => kept v
  | none => before

theorem Tidy.get?_write (hs : s.Tidy) (styles : Styles) (name : String) :
    (s.write styles).get? name = overwritten styles name (s.get? name) := by
  rw [write_eq]
  unfold overwritten Property.ofCssName?
  have hnodup : Property.all.Nodup := by decide
  generalize Property.all = ps at hnodup
  induction ps generalizing s with
  | nil => rfl
  | cons p ps ih =>
    rw [List.nodup_cons] at hnodup
    rw [List.foldl_cons]
    by_cases hp : p.cssName = Text.lower name
    · -- no later property has the name
      have hlater : ps.find? (fun q => q.cssName == Text.lower name) = none := by
        rw [List.find?_eq_none]
        intro q hq heq
        exact hnodup.1 (Property.cssName_injective (hp.trans (beq_iff_eq.mp heq).symm) ▸ hq)
      rw [List.find?_cons_of_pos (by simpa using hp)]
      cases hv : styles.get? p with
      | none => simpa [hlater, hv] using ih hs hnodup.2
      | some v =>
        rw [ih (hs.set p.cssName v) hnodup.2, hs.get?_set, Property.lower_trim_cssName, if_pos hp,
          hlater]
        simp [hv]
    · rw [List.find?_cons_of_neg (by simpa using hp)]
      cases hv : styles.get? p with
      | none => exact ih hs hnodup.2
      | some v =>
        rw [ih (hs.set p.cssName v) hnodup.2, hs.get?_set, Property.lower_trim_cssName, if_neg hp]

theorem Tidy.write_perm (hs : s.Tidy) (hs' : s'.Tidy) (styles : Styles)
    (h : s.declarations.Perm s'.declarations) :
    (s.write styles).declarations.Perm (s'.write styles).declarations := by
  refine ((hs.write styles).perm_iff (hs'.write styles)).mpr fun name => ?_
  rw [hs.get?_write, hs'.get?_write, (hs.perm_iff hs').mp h name]

/-- Values written over earlier ones, each of which they replace. -/
theorem Tidy.write_write (hs : s.Tidy)
    (h : ∀ p, (styles.get? p).isSome = true → (styles'.get? p).isSome = true) :
    ((s.write styles).write styles').declarations.Perm (s.write styles').declarations := by
  refine (((hs.write styles).write styles').perm_iff (hs.write styles')).mpr fun name => ?_
  rw [(hs.write styles).get?_write, hs.get?_write, hs.get?_write]
  unfold overwritten
  cases Property.ofCssName? name with
  | none => rfl
  | some p =>
    simp only [Option.bind_some]
    cases hv' : styles'.get? p with
    | some v' => rfl
    | none =>
      have hnone := h p
      rw [hv'] at hnone
      cases hv : styles.get? p with
      | none => rfl
      | some v => rw [hv] at hnone; exact absurd (hnone rfl) Bool.noConfusion

/-! ## What is written is there, and all else is as before -/

theorem Tidy.get?_write_cssName {p : Property} {v : String} (hs : s.Tidy)
    (hp : styles.get? p = some v) : (s.write styles).get? p.cssName = kept v := by
  rw [hs.get?_write, overwritten, Property.ofCssName?_cssName, Option.bind_some, hp]

theorem put_eq_self {key value : String} {ds : List (String × String)}
    (hnodup : (ds.map (·.1)).Nodup) (h : (key, value) ∈ ds) : put key value ds = ds := by
  induction ds with
  | nil => cases h
  | cons d ds ih =>
    rw [List.map_cons, List.nodup_cons] at hnodup
    unfold put
    rcases List.mem_cons.mp h with rfl | h
    · rw [if_pos (beq_self_eq_true _)]
    · have hne : d.1 ≠ key := fun heq => hnodup.1 (heq ▸ List.mem_map.mpr ⟨_, h, rfl⟩)
      rw [if_neg (by simpa using hne), ih hnodup.2 h]

/-- Setting a property to the value it has changes nothing. -/
theorem Tidy.set_eq_self {v : String} (hs : s.Tidy)
    (hname : Text.lower (Text.trim name) = Text.lower name) (h : s.get? name = kept v) :
    s.set name v = s := by
  unfold InlineStyle.set kept at *
  dsimp only
  split
  · rename_i hv
    rw [if_pos hv, hs.get?_eq_find?, Option.map_eq_none_iff, List.find?_eq_none] at h
    unfold erase
    rw [List.filter_eq_self.mpr]
    intro d hd
    rw [Text.sameFolded, hs.lower d hd, hname]
    simpa using h d hd
  · rename_i hv
    rw [if_neg hv, hs.get?_eq_some_iff, ← hname] at h
    rw [put_eq_self hs.nodup h]

/-- Writing values a second time changes nothing, not even the order. -/
theorem Tidy.write_self (hs : s.Tidy) (styles : Styles) :
    (s.write styles).write styles = s.write styles := by
  rw [write_eq (s.write styles)]
  refine List.foldlRecOn (motive := (· = s.write styles)) _ _ rfl ?_
  rintro _ rfl p -
  cases hp : styles.get? p with
  | none => rfl
  | some v =>
    refine (hs.write styles).set_eq_self ?_ (hs.get?_write_cssName hp)
    rw [Property.lower_trim_cssName]
    cases p <;> decide

theorem filter_put {keep : String → Bool} {key value : String} (hkey : keep key = false)
    (ds : List (String × String)) :
    (put key value ds).filter (keep ·.1) = ds.filter (keep ·.1) := by
  induction ds with
  | nil => simp [put, hkey]
  | cons d ds ih =>
    unfold put
    split
    · rename_i hd
      have hd : keep d.1 = false := beq_iff_eq.mp hd ▸ hkey
      rw [List.filter_cons_of_neg (by simp [hd]), List.filter_cons_of_neg (by simp [hd])]
    · rw [List.filter_cons, List.filter_cons, ih]

/-- Declarations of other names stay as they are, and in their order. -/
theorem Tidy.filter_set {keep : String → Bool} {v : String} (hs : s.Tidy)
    (hkeep : keep (Text.lower (Text.trim name)) = false) :
    (s.set name v).declarations.filter (keep ·.1) = s.declarations.filter (keep ·.1) := by
  unfold InlineStyle.set
  dsimp only
  split
  · unfold erase
    rw [List.filter_filter]
    refine List.filter_congr fun d hd => ?_
    rw [Text.sameFolded, hs.lower d hd]
    by_cases heq : d.1 = Text.lower (Text.trim name)
    · rw [heq, hkeep, Bool.false_and]
    · simp [heq]
  · exact filter_put hkeep _

theorem Tidy.filter_write {keep : String → Bool} (hs : s.Tidy)
    (hkeep : ∀ p, (styles.get? p).isSome = true → keep p.cssName = false) :
    (s.write styles).declarations.filter (keep ·.1) = s.declarations.filter (keep ·.1) := by
  rw [write_eq]
  refine (List.foldlRecOn (motive := fun t : InlineStyle => t.Tidy ∧
    t.declarations.filter (keep ·.1) = s.declarations.filter (keep ·.1)) _ _ ⟨hs, rfl⟩ ?_).2
  rintro t ⟨ht, hsame⟩ p -
  cases hp : styles.get? p with
  | none => exact ⟨ht, hsame⟩
  | some v =>
    refine ⟨ht.set _ _, (ht.filter_set ?_).trans hsame⟩
    rw [Property.lower_trim_cssName]
    exact hkeep p (by rw [hp]; rfl)

end InlineStyle

/-! ## Calls -/

namespace InlineStyle

/-- What is done to a style. -/
inductive Call where
  | set (name value : String)
  | erase (name : String)
  deriving Repr, DecidableEq

/-- The key of a name: without the blanks around it, in small letters. -/
def key (name : String) : String := Text.lower (Text.trim name)

namespace Call

def name : Call → String
  | set name _ => name
  | erase name => name

/-- The value that a call leaves at its property. -/
def value : Call → Option String
  | set _ v => kept v
  | erase _ => none

def run (s : InlineStyle) : Call → InlineStyle
  | set name v => s.set name v
  | erase name => s.erase name

end Call

/-- The style after calls in turn. -/
def after (s : InlineStyle) (calls : List Call) : InlineStyle :=
  calls.foldl Call.run s

/-- The value of a property by the last call about it: none if there is no such call, if it erases
the property or sets a blank value. -/
def lastValue (calls : List Call) (name : String) : Option String :=
  (calls.filter fun c => key c.name = key name).getLast?.bind Call.value

/-- Keys and values have no blanks at their ends; keys are in small letters, each stands once, and
no value is empty. -/
structure IsMap (s : InlineStyle) : Prop where
  nodup : (s.declarations.map (·.1)).Nodup
  keys : ∀ d ∈ s.declarations, key d.1 = d.1
  values : ∀ d ∈ s.declarations, Text.trim d.2 = d.2 ∧ d.2 ≠ ""

variable {s : InlineStyle} {name v : String}

@[simp] theorem key_key (name : String) : key (key name) = key name := by
  simp [key, Text.trim_lower]

/-! ## What calls keep -/

theorem IsMap.tidy (hs : s.IsMap) : s.Tidy where
  nodup := hs.nodup
  lower d hd := by rw [← hs.keys d hd, key, Text.lower_lower]

theorem IsMap.empty : ({} : InlineStyle).IsMap where
  nodup := List.nodup_nil
  keys _ hd := by cases hd
  values _ hd := by cases hd

/-- What is declared after setting a property was declared before, or is what was set. -/
theorem mem_set {d : String × String} (h : d ∈ (s.set name v).declarations) :
    d ∈ s.declarations ∨ d = (key name, Text.trim v) ∧ Text.trim v ≠ "" := by
  unfold InlineStyle.set at h
  dsimp only at h
  split at h
  · exact .inl (List.mem_filter.mp h).1
  · rename_i hv
    exact (mem_put h).symm.imp_right fun h => ⟨h, by simpa using hv⟩

theorem IsMap.set (hs : s.IsMap) (name v : String) : (s.set name v).IsMap where
  nodup := (hs.tidy.set name v).nodup
  keys d hd := by
    obtain hd | ⟨rfl, -⟩ := mem_set hd
    · exact hs.keys d hd
    · exact key_key name
  values d hd := by
    obtain hd | ⟨rfl, hne⟩ := mem_set hd
    · exact hs.values d hd
    · exact ⟨Text.trim_trim v, hne⟩

/-- Erasing a property is setting it to nothing. -/
theorem erase_eq_set (s : InlineStyle) (name : String) : s.erase name = s.set name "" := rfl

theorem kept_empty : kept "" = none := rfl

theorem IsMap.run (hs : s.IsMap) (c : Call) : (c.run s).IsMap := by
  cases c with
  | set name v => exact hs.set name v
  | erase name => exact hs.set name ""

theorem IsMap.after (hs : s.IsMap) (calls : List Call) : (s.after calls).IsMap :=
  List.foldlRecOn (motive := IsMap) _ _ hs fun _ hs c _ => hs.run c

/-! ## Values after calls -/

theorem IsMap.get?_run (hs : s.IsMap) (c : Call) (x : String) :
    (c.run s).get? x = if key c.name = Text.lower x then c.value else s.get? x := by
  cases c with
  | set name v => exact hs.tidy.get?_set name v x
  | erase name =>
    rw [Call.run, erase_eq_set, hs.tidy.get?_set, kept_empty]
    rfl

theorem IsMap.get?_after (hs : s.IsMap) (calls : List Call) (x : String) :
    (s.after calls).get? x =
      ((calls.filter fun c => key c.name = Text.lower x).getLast?.map Call.value).getD
        (s.get? x) :=
  read_foldl_write (·.get? x) (fun _ c hs => hs.run c)
    (fun _ c hs => by rw [hs.get?_run]; simp) hs calls

/-- Keys have no blanks at their ends, so nothing is found under a name that has. -/
theorem IsMap.get?_eq_none (hs : s.IsMap) (h : Text.trim name ≠ name) : s.get? name = none := by
  rw [Option.eq_none_iff_forall_ne_some]
  intro v hv
  have hkey := hs.keys _ (hs.tidy.get?_eq_some_iff.mp hv)
  rw [key, Text.trim_lower, Text.lower_lower] at hkey
  exact h (Text.trim_eq_of_lower hkey)

theorem after_ofDeclarations (ds : List (String × String)) (calls : List Call) :
    (ofDeclarations ds).after calls =
      InlineStyle.after {} (ds.map (fun d => Call.set d.1 d.2) ++ calls) := by
  unfold InlineStyle.after ofDeclarations
  rw [List.foldl_append, List.foldl_map]
  rfl

theorem get?_after (calls : List Call) (name : String) : (InlineStyle.after {} calls).get? name =
    if Text.trim name = name then lastValue calls name else none := by
  split
  · rename_i htrim
    rw [IsMap.empty.get?_after, lastValue, key, htrim]
    cases (calls.filter fun c => key c.name = Text.lower name).getLast? <;> rfl
  · rename_i htrim
    exact (IsMap.empty.after calls).get?_eq_none htrim

/-- **Styles as maps.** After any declarations and calls a style holds each key once, in small
letters and without blanks at its ends, and with it a value that is neither empty nor has blanks at
its ends. Under a name it has the value that the last call about the property left, exactly unless
there is such a value and the name has blanks at its ends. -/
theorem get?_after_iff (ds : List (String × String)) (calls : List Call) :
    let s := (ofDeclarations ds).after calls
    let all := ds.map (fun d => Call.set d.1 d.2) ++ calls
    s.IsMap ∧ ∀ name, s.get? name = lastValue all name ↔
      Text.trim name = name ∨ lastValue all name = none := by
  intro s all
  have hs : s = InlineStyle.after {} all := after_ofDeclarations ds calls
  rw [hs]
  refine ⟨IsMap.empty.after all, fun name => ?_⟩
  rw [get?_after]
  by_cases htrim : Text.trim name = name
  · simp [htrim]
  · simp [htrim, eq_comm]

/-- A name with blanks around it sets a property and erases it, but does not find it. -/
theorem padded_name_not_found :
    let s := ofDeclarations [(" padding ", "1px")]
    lastValue [.set " padding " "1px"] " padding " = some "1px" ∧ s.get? "padding" = some "1px" ∧
      s.get? " padding " = none ∧ (s.erase " padding ").get? "padding" = none ∧
      s.get? " padding " ≠ lastValue [.set " padding " "1px"] " padding " := by
  decide +kernel

end InlineStyle
end Restyle
