import Restyle.Proofs.Markup.Name
import Restyle.Proofs.Source.Nested

/-!
# Restyle.Proofs.Source.StaticMarkup

Static markup as it stands in component source: elements with strings for attributes, nested in any
way, and text.

* `Contents`: what stands between two tags, and `Contents.print`, its text.
* `StaticTag.siteOf?_opening`: the patcher cuts the attributes of such a tag where they end.
* `openings_print`: the openings in printed markup are its tags, and what attributes spell out.
-/

namespace Restyle
namespace Source

/-! ## Syntax -/

/-- An attribute with a string for a value, and the white space before it and around its `=`. -/
structure StaticAttribute where
  lead : List Char
  name : List Char
  beforeSign : List Char := []
  afterSign : List Char := []
  mark : Char
  value : List Char

/-- An opening tag with the white space after its attributes. -/
structure StaticTag where
  name : List Char
  attributes : List StaticAttribute := []
  trail : List Char := []

/-- A sequence of texts and elements; `closed` is an element that closes itself. -/
inductive Contents where
  | done
  | text (content : List Char) (rest : Contents)
  | element (tag : StaticTag) (inside rest : Contents)
  | closed (tag : StaticTag) (rest : Contents)

def StaticAttribute.print (a : StaticAttribute) : List Char :=
  a.lead ++ (a.name ++ (a.beforeSign ++ '=' :: (a.afterSign ++ a.mark :: (a.value ++ [a.mark]))))

namespace StaticTag

def attributeText (t : StaticTag) : List Char :=
  t.attributes.flatMap StaticAttribute.print ++ t.trail

def ends (selfClosing : Bool) : List Char := if selfClosing then ['/', '>'] else ['>']

def opening (t : StaticTag) (selfClosing : Bool) : List Char :=
  '<' :: (t.name ++ (t.attributeText ++ ends selfClosing))

def closing (t : StaticTag) : List Char := '<' :: '/' :: (t.name ++ ['>'])

end StaticTag

namespace Contents

def print : Contents → List Char
  | done => []
  | text content rest => content ++ rest.print
  | element tag inside rest =>
    tag.opening false ++ (inside.print ++ (tag.closing ++ rest.print))
  | closed tag rest => tag.opening true ++ rest.print

/-- All opening tags in the order of the source. -/
def tags : Contents → List StaticTag
  | done => []
  | text _ rest => rest.tags
  | element tag inside rest => tag :: (inside.tags ++ rest.tags)
  | closed tag rest => tag :: rest.tags

end Contents

/-! ## What may be written -/

/-- Characters without a meaning inside a tag. -/
def isPlainChar (c : Char) : Bool :=
  !(Text.isSpace c || ['<', '>', '/', '=', '"', '\'', '\x60', '\x7b', '\x7d'].contains c)

/-- Names of tags and attributes. -/
structure IsPlainName (name : List Char) : Prop where
  ne_nil : name ≠ []
  plain : ∀ c ∈ name, isPlainChar c = true

def IsSpaces (cs : List Char) : Prop := ∀ c ∈ cs, Text.isSpace c = true

instance (cs : List Char) : Decidable (IsSpaces cs) := decidable_of_iff _ List.all_eq_true

structure StaticAttribute.IsStatic (a : StaticAttribute) : Prop where
  lead : IsSpaces a.lead
  name : IsPlainName a.name
  beforeSign : IsSpaces a.beforeSign
  afterSign : IsSpaces a.afterSign
  mark : a.mark = '"' ∨ a.mark = '\''
  value : a.mark ∉ a.value

/-- White space has to stand before the first attribute; the others follow a quotation mark. -/
structure StaticTag.IsStatic (t : StaticTag) : Prop where
  name : IsPlainName t.name
  lead_ne_nil : ∀ a, t.attributes.head? = some a → a.lead ≠ []
  attributes : ∀ a ∈ t.attributes, a.IsStatic
  trail : IsSpaces t.trail

def Contents.IsStatic : Contents → Prop
  | done => True
  | text content rest => '<' ∉ content ∧ rest.IsStatic
  | element tag inside rest => tag.IsStatic ∧ inside.IsStatic ∧ rest.IsStatic
  | closed tag rest => tag.IsStatic ∧ rest.IsStatic

variable {name cs ds after rest : List Char} {c : Char} {t : StaticTag} {a : StaticAttribute}

/-- A tag without attributes. -/
theorem StaticTag.IsStatic.bare (h : IsPlainName name) : StaticTag.IsStatic { name } where
  name := h
  lead_ne_nil _ ha := by cases ha
  attributes _ ha := by cases ha
  trail _ hc := by cases hc

theorem isPlainChar_toLower (h : isPlainChar c = true) : isPlainChar c.toLower = true :=
  Text.toLower_of_class (by decide) h

theorem IsPlainName.lower (h : IsPlainName name) : IsPlainName (name.map Char.toLower) where
  ne_nil := by simpa using h.ne_nil
  plain c hc := by
    obtain ⟨x, hx, rfl⟩ := List.mem_map.mp hc
    exact isPlainChar_toLower (h.plain x hx)

theorem IsPlainName.not_mem (h : IsPlainName name) (hc : isPlainChar c = false) : c ∉ name := by
  intro hm
  rw [h.plain c hm] at hc
  cases hc

theorem endsName_of_isPlainChar (h : isPlainChar c = true) : endsName c = false := by
  simp only [isPlainChar, List.contains_cons, Bool.not_eq_true', Bool.or_eq_false_iff] at h
  obtain ⟨hspace, -, hgt, hslash, -⟩ := h
  simp [endsName, hspace, hgt, hslash]

theorem IsSpaces.not_mem (h : IsSpaces cs) (hc : Text.isSpace c = false) : c ∉ cs := by
  intro hm
  rw [h c hm] at hc
  cases hc

/-! ## Where a tag ends -/

/-- The search for the end of a tag goes over this text, wherever it stands outside strings. -/
def Passes (cs : List Char) : Prop :=
  ∀ tail, cutTagEnd {} (cs ++ tail) = (cutTagEnd {} tail).map fun p => (cs ++ p.1, p.2)

namespace Passes

theorem nil : Passes [] := by
  intro tail
  simp

theorem append (h : Passes cs) (h' : Passes ds) : Passes (cs ++ ds) := by
  intro tail
  rw [List.append_assoc, h, h', Option.map_map]
  simp [Function.comp_def]

theorem single (hend : c ≠ '>') (hsame : Nesting.tag {} c = {}) : Passes [c] := by
  intro tail
  rw [List.singleton_append, cutTagEnd, hsame]
  simp [hend]

theorem of_forall (h : ∀ c ∈ cs, Passes [c]) : Passes cs := by
  induction cs with
  | nil => exact nil
  | cons c cs ih =>
    obtain ⟨hc, hcs⟩ := List.forall_mem_cons.mp h
    exact append hc (ih hcs)

theorem of_isPlainChar (h : isPlainChar c = true) : Passes [c] := by
  simp only [isPlainChar, List.contains_cons, Bool.not_eq_true', Bool.or_eq_false_iff,
    beq_eq_false_iff_ne] at h
  obtain ⟨-, -, hgt, -, -, hdouble, hsingle, hback, hopen, hclose, -⟩ := h
  exact single hgt (by simp [Nesting.tag, hdouble, hsingle, hopen, hclose])

theorem of_isSpace (h : Text.isSpace c = true) : Passes [c] := by
  simp only [Text.isSpace, Bool.or_eq_true, beq_iff_eq] at h
  rcases h with (((h | h) | h) | h) | h <;> subst h <;> exact single (by decide) rfl

theorem of_isPlainName (h : IsPlainName name) : Passes name :=
  of_forall fun c hc => of_isPlainChar (h.plain c hc)

theorem of_isSpaces (h : IsSpaces cs) : Passes cs :=
  of_forall fun c hc => of_isSpace (h c hc)

/-- Inside a string nothing but its mark counts. -/
theorem cutTagEnd_inString {mark : Char} (h : mark ∉ cs) (tail : List Char) :
    cutTagEnd { quote := some mark } (cs ++ mark :: tail) =
      (cutTagEnd {} tail).map fun p => (cs ++ mark :: p.1, p.2) := by
  induction cs with
  | nil =>
    rw [List.nil_append, cutTagEnd]
    simp [Nesting.isTop, Nesting.tag]
  | cons c cs ih =>
    have hc : c ≠ mark := fun hc => h (hc ▸ List.mem_cons_self ..)
    have hcs : mark ∉ cs := fun hcs => h (List.mem_cons_of_mem _ hcs)
    rw [List.cons_append, cutTagEnd]
    simp [Nesting.isTop, Nesting.tag, hc, ih hcs, Function.comp_def]

theorem string {mark : Char} (hmark : mark = '"' ∨ mark = '\'') (h : mark ∉ cs) :
    Passes (mark :: (cs ++ [mark])) := by
  intro tail
  rw [List.cons_append, List.append_assoc, List.singleton_append]
  rcases hmark with rfl | rfl
  · rw [cutTagEnd]
    simp [Nesting.isTop, Nesting.tag, cutTagEnd_inString h, Function.comp_def]
  · rw [cutTagEnd]
    simp [Nesting.isTop, Nesting.tag, cutTagEnd_inString h, Function.comp_def]

theorem print (h : a.IsStatic) : Passes a.print := by
  have hsign : Passes ['='] := single (by decide) rfl
  exact append (of_isSpaces h.lead) (append (of_isPlainName h.name)
    (append (of_isSpaces h.beforeSign) (append hsign
      (append (of_isSpaces h.afterSign) (string h.mark h.value)))))

theorem attributeText (h : t.IsStatic) : Passes t.attributeText := by
  refine append ?_ (of_isSpaces h.trail)
  have hattributes := h.attributes
  generalize t.attributes = attributes at hattributes ⊢
  induction attributes with
  | nil => exact nil
  | cons a attributes ih =>
    obtain ⟨ha, hrest⟩ := List.forall_mem_cons.mp hattributes
    rw [List.flatMap_cons]
    exact append (print ha) (ih hrest)

end Passes

/-! ## The site of a tag -/

theorem trimEndBy_append {p : Char → Bool} (h : ∀ c ∈ ds, p c = true) :
    Text.trimEndBy p (cs ++ ds) = Text.trimEndBy p cs := by
  unfold Text.trimEndBy
  rw [List.reverse_append, List.dropWhile_append_of_pos (by simpa using h)]

theorem trimEndBy_concat {p : Char → Bool} (h : p c = false) :
    Text.trimEndBy p (cs ++ [c]) = cs ++ [c] := by
  unfold Text.trimEndBy
  rw [List.reverse_append, List.reverse_singleton, List.singleton_append,
    List.dropWhile_cons_of_neg (by simp [h])]
  simp

/-- The attributes of a static tag do not end in a slash. -/
theorem getLast?_trimEndBy_attributeText (h : t.IsStatic) :
    (Text.trimEndBy Text.isSpace t.attributeText).getLast? ≠ some '/' := by
  have htrim : Text.trimEndBy Text.isSpace t.attributeText =
      Text.trimEndBy Text.isSpace (t.attributes.flatMap StaticAttribute.print) :=
    trimEndBy_append h.trail
  rw [htrim]
  rcases List.eq_nil_or_concat t.attributes with hnil | ⟨init, a, hlast⟩
  · rw [hnil]
    decide
  · have hmark := (h.attributes a (by rw [hlast]; simp)).mark
    have hprint : ∃ front, t.attributes.flatMap StaticAttribute.print = front ++ [a.mark] := by
      refine ⟨init.flatMap StaticAttribute.print ++ (a.lead ++ (a.name ++ (a.beforeSign ++ '=' ::
        (a.afterSign ++ a.mark :: a.value)))), ?_⟩
      rw [hlast]
      simp [StaticAttribute.print]
    obtain ⟨front, hfront⟩ := hprint
    rw [hfront]
    rcases hmark with hmark | hmark <;>
      · rw [hmark, trimEndBy_concat (by decide)]
        simp

/-- What closes a tag. -/
inductive IsClosing : Bool → List Char → Prop where
  | tag : IsClosing false ['>']
  | element {spaces : List Char} : IsSpaces spaces → IsClosing true ('/' :: (spaces ++ ['>']))

theorem StaticTag.isClosing_ends (selfClosing : Bool) : IsClosing selfClosing (ends selfClosing) := by
  cases selfClosing with
  | false => exact .tag
  | true =>
    have hnone : IsSpaces [] := by simp [IsSpaces]
    exact .element hnone

/-- The site of a tag whose attributes the search goes over and which do not end in a slash. -/
theorem siteOf?_append {selfClosing : Bool} {closing : List Char} (hpasses : Passes cs)
    (hlast : (Text.trimEndBy Text.isSpace cs).getLast? ≠ some '/')
    (hclosing : IsClosing selfClosing closing) :
    siteOf? name (cs ++ (closing ++ after)) =
      some { before := [], name, attributes := cs, closing, selfClosing, after } := by
  unfold siteOf?
  cases hclosing with
  | tag =>
    have hcut : cutTagEnd {} (cs ++ (['>'] ++ after)) = some (cs, after) := by
      rw [hpasses]
      simp [cutTagEnd, Nesting.isTop]
    rw [hcut]
    simp [hlast]
  | @element spaces hspaces =>
    have hslash : Passes ('/' :: spaces) :=
      .append (.single (c := '/') (by decide) rfl) (.of_isSpaces hspaces)
    have hcut : cutTagEnd {} (cs ++ ('/' :: (spaces ++ ['>']) ++ after)) =
        some (cs ++ '/' :: spaces, after) := by
      have := hpasses.append hslash ('>' :: after)
      rw [List.append_assoc, List.cons_append] at this
      rw [List.cons_append, List.append_assoc, List.singleton_append]
      refine Eq.trans this ?_
      simp [cutTagEnd, Nesting.isTop]
    have hkept : Text.trimEndBy Text.isSpace (cs ++ '/' :: spaces) = cs ++ ['/'] := by
      rw [List.append_cons, trimEndBy_append hspaces]
      exact trimEndBy_concat (by decide)
    rw [hcut]
    simp [hkept]

/-- The site of a static tag, from the text after its name. -/
theorem StaticTag.IsStatic.siteOf? (h : t.IsStatic) (selfClosing : Bool) (after : List Char) :
    siteOf? name (t.attributeText ++ (ends selfClosing ++ after)) =
      some { before := [], name, attributes := t.attributeText, closing := ends selfClosing,
             selfClosing, after } :=
  siteOf?_append (Passes.attributeText h) (getLast?_trimEndBy_attributeText h)
    (isClosing_ends selfClosing)

/-! ## Openings in printed markup -/

/-- The openings of a name in a tag: the tag itself, if that is its name, and what the values of its
attributes spell out. -/
def StaticTag.openings (name : List Char) (t : StaticTag) : Nat :=
  (if t.name = name then 1 else 0) +
    total (fun a => Source.openings name a.value [a.mark]) t.attributes

/-- A mark that is neither in the name nor ends one stops an opening: what follows it does not
count. -/
theorem isSome_opens?_iff {mark : Char} (hname : mark ∉ name) (hends : endsName mark = false) :
    (opens? name c (cs ++ mark :: rest)).isSome = true ↔
      c = '<' ∧ ∃ d tail, cs = name ++ d :: tail ∧ endsName d = true := by
  rw [Option.isSome_iff_exists]
  constructor
  · rintro ⟨found, hfound⟩
    obtain ⟨rfl, hcs, d, tail, rfl, hd⟩ := opens?_eq_some_iff.mp hfound
    refine ⟨rfl, d, ?_⟩
    rcases List.append_eq_append_iff.mp hcs with ⟨extra, rfl, hmark⟩ | ⟨extra, rfl, hmark⟩
    · -- the name goes on over the mark, or is followed by it
      cases extra with
      | nil =>
        cases hmark
        rw [hd] at hends
        cases hends
      | cons m extra =>
        cases hmark
        exact absurd (by simp) hname
    · cases extra with
      | nil =>
        cases hmark
        rw [hd] at hends
        cases hends
      | cons m extra =>
        cases hmark
        exact ⟨extra, rfl, hd⟩
  · rintro ⟨rfl, d, tail, rfl, hd⟩
    refine ⟨d :: (tail ++ mark :: rest), opens?_eq_some_iff.mpr ⟨rfl, ?_, d, _, rfl, hd⟩⟩
    simp

theorem openings_mark {mark : Char} (hname : mark ∉ name) (hends : endsName mark = false)
    (cs rest : List Char) : openings name cs (mark :: rest) = openings name cs [mark] := by
  induction cs with
  | nil => rfl
  | cons c cs ih =>
    have hsame : (opens? name c (cs ++ mark :: rest)).isSome =
        (opens? name c (cs ++ [mark])).isSome := by
      rw [Bool.eq_iff_iff, isSome_opens?_iff hname hends, isSome_opens?_iff hname hends]
    rw [openings, openings, ih, hsame]

theorem openings_attribute (hname : IsPlainName name) (ha : a.IsStatic) :
    openings name a.print after = openings name a.value [a.mark] := by
  have hfront : '<' ∉ a.lead ++ (a.name ++ (a.beforeSign ++ '=' :: (a.afterSign ++ [a.mark]))) := by
    have hmark : '<' ≠ a.mark := by rcases ha.mark with h | h <;> rw [h] <;> decide
    simp [ha.lead.not_mem (c := '<') (by decide), ha.name.not_mem (c := '<') (by decide),
      ha.beforeSign.not_mem (c := '<') (by decide), ha.afterSign.not_mem (c := '<') (by decide),
      hmark]
  have hprint : a.print = (a.lead ++ (a.name ++ (a.beforeSign ++ '=' ::
      (a.afterSign ++ [a.mark])))) ++ (a.value ++ [a.mark]) := by
    simp [StaticAttribute.print]
  have hmark : '<' ∉ [a.mark] := by rcases ha.mark with h | h <;> rw [h] <;> decide
  rw [hprint, openings_append, openings_of_not_mem hfront, openings_append,
    openings_of_not_mem hmark, List.singleton_append, Nat.zero_add, Nat.add_zero]
  rcases ha.mark with h | h <;> rw [h]
  · exact openings_mark (hname.not_mem (by decide)) (by decide) _ _
  · exact openings_mark (hname.not_mem (by decide)) (by decide) _ _

theorem openings_attributes (hname : IsPlainName name) {attributes : List StaticAttribute}
    (h : ∀ a ∈ attributes, a.IsStatic) :
    openings name (attributes.flatMap StaticAttribute.print) after =
      total (fun a => openings name a.value [a.mark]) attributes := by
  induction attributes with
  | nil => rfl
  | cons a attributes ih =>
    obtain ⟨ha, hrest⟩ := List.forall_mem_cons.mp h
    rw [List.flatMap_cons, openings_append, openings_attribute hname ha, ih hrest]
    rfl

/-- What follows the name of a static tag ends the name. -/
theorem exists_endsName (h : t.IsStatic) (selfClosing : Bool) (after : List Char) :
    ∃ d tail, t.attributeText ++ (StaticTag.ends selfClosing ++ after) = d :: tail ∧
      endsName d = true := by
  have space : ∀ {cs : List Char}, IsSpaces cs → cs ≠ [] → ∀ tail,
      ∃ d tail', cs ++ tail = d :: tail' ∧ endsName d = true := by
    intro cs hcs hne tail
    obtain ⟨d, cs, rfl⟩ := List.exists_cons_of_ne_nil hne
    exact ⟨d, cs ++ tail, rfl, by simp [endsName, hcs d (List.mem_cons_self ..)]⟩
  unfold StaticTag.attributeText
  cases hattributes : t.attributes with
  | nil =>
    by_cases htrail : t.trail = []
    · rw [htrail]
      cases selfClosing <;> exact ⟨_, _, rfl, by decide⟩
    · exact space h.trail htrail _
  | cons a attributes =>
    have ha := h.attributes a (by rw [hattributes]; exact List.mem_cons_self ..)
    have hlead := h.lead_ne_nil a (by rw [hattributes]; rfl)
    obtain ⟨d, tail, hd, hends⟩ := space ha.lead hlead
      ((a.name ++ (a.beforeSign ++ '=' :: (a.afterSign ++ a.mark :: (a.value ++ [a.mark])))) ++
        (attributes.flatMap StaticAttribute.print ++
          (t.trail ++ (StaticTag.ends selfClosing ++ after))))
    refine ⟨d, tail, ?_, hends⟩
    rw [← hd]
    simp [StaticAttribute.print]

/-- A static tag opens under its own name. -/
theorem opens?_name (h : t.IsStatic) (selfClosing : Bool) (after : List Char) :
    opens? t.name '<' (t.name ++ (t.attributeText ++ (StaticTag.ends selfClosing ++ after))) =
      some (t.attributeText ++ (StaticTag.ends selfClosing ++ after)) := by
  obtain ⟨d, tail, hd, hends⟩ := exists_endsName h selfClosing after
  exact opens?_eq_some_iff.mpr ⟨rfl, rfl, d, tail, hd, hends⟩

/-- Two plain names that end at the same text are the same. -/
theorem eq_of_append_endsName {name' rest' : List Char} (hname : IsPlainName name)
    (hname' : IsPlainName name') {d d' : Char} (hd : endsName d = true) (hd' : endsName d' = true)
    (h : name ++ d :: rest = name' ++ d' :: rest') : name = name' := by
  have stops : ∀ {n : List Char} {e : Char}, IsPlainName n → endsName e = true → e ∉ n := by
    intro n e hn he hm
    rw [endsName_of_isPlainChar (hn.plain e hm)] at he
    cases he
  rcases List.append_eq_append_iff.mp h with ⟨extra, rfl, hextra⟩ | ⟨extra, rfl, hextra⟩
  · cases extra with
    | nil => simp
    | cons e extra =>
      cases hextra
      exact absurd (by simp) (stops hname' hd)
  · cases extra with
    | nil => simp
    | cons e extra =>
      cases hextra
      exact absurd (by simp) (stops hname hd')

theorem openings_opening (hname : IsPlainName name) (h : t.IsStatic) (selfClosing : Bool) :
    openings name (t.opening selfClosing) after = t.openings name := by
  have hfirst : (opens? name '<' (t.name ++ (t.attributeText ++ StaticTag.ends selfClosing) ++
      after)).isSome = decide (t.name = name) := by
    obtain ⟨d, tail, hd, hends⟩ := exists_endsName h selfClosing after
    rw [Bool.eq_iff_iff, decide_eq_true_iff, Option.isSome_iff_exists, List.append_assoc,
      List.append_assoc, hd]
    constructor
    · rintro ⟨found, hfound⟩
      obtain ⟨-, heq, d', tail', rfl, hends'⟩ := opens?_eq_some_iff.mp hfound
      exact eq_of_append_endsName h.name hname hends hends' heq
    · rintro rfl
      exact ⟨_, opens?_eq_some_iff.mpr ⟨rfl, rfl, d, tail, rfl, hends⟩⟩
  have hends : '<' ∉ StaticTag.ends selfClosing := by cases selfClosing <;> decide
  unfold StaticTag.opening
  rw [openings, hfirst, openings_append, openings_of_not_mem (h.name.not_mem (by decide)),
    openings_append, openings_of_not_mem hends, StaticTag.attributeText, openings_append,
    openings_of_not_mem (h.trail.not_mem (by decide)), openings_attributes hname h.attributes]
  simp [StaticTag.openings]

/-- Closing tags open nothing. -/
theorem openings_closing (hname : IsPlainName name) (h : t.IsStatic) :
    openings name t.closing after = 0 := by
  have hfirst : opens? name '<' ('/' :: (t.name ++ ['>']) ++ after) = none := by
    cases hopen : opens? name '<' ('/' :: (t.name ++ ['>']) ++ after) with
    | none => rfl
    | some rest =>
      obtain ⟨-, heq, -⟩ := opens?_eq_some_iff.mp hopen
      obtain ⟨c, tail, rfl⟩ := List.exists_cons_of_ne_nil hname.ne_nil
      obtain ⟨rfl, -⟩ := List.cons.inj heq
      exact absurd (hname.plain '/' (List.mem_cons_self ..)) (by decide)
  have hrest : '<' ∉ '/' :: (t.name ++ ['>']) := by
    simp [h.name.not_mem (c := '<') (by decide)]
  unfold StaticTag.closing
  rw [openings, hfirst, openings_of_not_mem hrest]
  rfl

/-- **Printed markup opens its tags**, and what their attributes spell out. -/
theorem openings_print (hname : IsPlainName name) {T : Contents} (h : T.IsStatic) :
    openings name T.print after = total (·.openings name) T.tags := by
  induction T generalizing after with
  | done => rfl
  | text content rest ih =>
    rw [Contents.print, openings_append, openings_of_not_mem h.1, ih h.2, Nat.zero_add]
    rfl
  | element tag inside rest ih ih' =>
    obtain ⟨htag, hinside, hrest⟩ := h
    rw [Contents.print, openings_append, openings_opening hname htag, openings_append, ih hinside,
      openings_append, openings_closing hname htag, ih' hrest]
    simp [Contents.tags, total, total_append]
  | closed tag rest ih =>
    rw [Contents.print, openings_append, openings_opening hname h.1, ih h.2]
    rfl

end Source
end Restyle
