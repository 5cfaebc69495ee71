import Restyle.Proofs.Source.Bytes.Offset
import Restyle.Proofs.Source.Lowered
import Restyle.Proofs.Source.TagEnd

/-!
# Restyle.Proofs.Source.Agreement

The patcher's search for tags beside lowering. The search counts text, lowering reads structure;
they agree on a name (`locateTag?_openingTags`) where no tag of that name is spelled out in a passage
in which lowering does not look for markup, and the search for the end of each such tag comes out of
comments, regular expressions and the like as it went in.
-/

namespace Restyle

namespace Source

open Scan Listing

variable {s : Listing} {name rest : List Char} {i j k m n : Nat} {c d : Char} {A : Account}
  {o : OpeningTag}

/-! ## Opening tags of lowered elements -/

/-- A tag stands where an element opens. The empty name is that of a fragment. -/
structure OpeningTag.Stands (s : Listing) (o : OpeningTag) : Prop where
  angle : s.charAt? o.start = some '<'
  inside : ∃ k, skipTagSpaces s.chars (s.chars.size + 1) (o.start + 1) = .ok k ∧
    (s.charAt? k = some '>' ∨
      ∃ m o' j A, s.tagName k = .ok (o.name, m) ∧ Reads s (.attributes m o' j) A ∧
        o = { o' with name := o.name, start := o.start })

theorem Reads.stands {r : Reading} (h : Reads s r A) : ∀ o ∈ A.tags, o.Stands s := by
  have none : ∀ o ∈ ({} : Account).tags, o.Stands s := fun o ho => absurd ho List.not_mem_nil
  have both : ∀ {A B : Account}, (∀ o ∈ A.tags, o.Stands s) → (∀ o ∈ B.tags, o.Stands s) →
      ∀ o ∈ (A ++ B).tags, o.Stands s := fun hA hB o ho =>
    (List.mem_append.mp ho).elim (hA o) (hB o)
  induction h with
  | fragment hd hspaces hclose _ ih =>
    refine both (fun o ho => ?_) (both none ih)
    obtain rfl := List.mem_singleton.mp ho
    exact ⟨hd, _, hspaces, .inl hclose⟩
  | element hd hspaces hname hinside ih =>
    refine both (fun o ho => ?_) (both none ih)
    obtain rfl := List.mem_singleton.mp ho
    exact ⟨hd, _, hspaces, .inr ⟨_, _, _, _, hname, hinside, rfl⟩⟩
  | reached => exact none
  | closed => exact none
  | openBrace _ _ _ ih => exact both none ih
  | closeBrace _ _ _ _ ih => exact both none ih
  | step _ _ ih ih' => exact both ih ih'
  | plain => exact none
  | string => exact none
  | hurdle => exact none
  | comparison => exact none
  | markup _ ih => exact ih
  | wholeTemplate _ _ _ _ ih => exact ih
  | wholeParameters _ _ _ _ ih => exact both ih none
  | lastParameter _ _ ih => exact both (both ih none) none
  | lastDefault _ _ _ ih ih' => exact both (both ih none) ih'
  | parameter _ _ _ ih ih' => exact both (both (both ih none) none) (both none ih')
  | default _ _ _ _ ih ih' ih'' => exact both (both (both ih none) ih') (both none ih'')
  | templateText _ _ ih => exact both none ih
  | templateEnd => exact none
  | substitution _ _ _ _ _ _ ih ih' => exact both ih ih'
  | capture _ ih => exact ih
  | selfClosed => exact both none none
  | opened _ _ _ ih => exact both none ih
  | spread _ _ _ _ _ _ ih ih' => exact both none (both ih ih')
  | bare _ _ _ _ ih => exact both none ih
  | valued _ _ _ _ _ _ _ ih ih' => exact both none (both ih ih')
  | stringValue => exact none
  | expression _ _ ih => exact ih
  | elementValue _ ih => exact ih
  | closing => exact none
  | childElement _ _ ih ih' => exact both ih ih'
  | childExpression _ _ _ ih ih' => exact both ih ih'
  | childText _ _ _ ih => exact both none ih

/-! ## Names -/

/-- Names of elements as lowering reads them. -/
structure IsTagName (name : List Char) : Prop where
  first : name.head?.any isNameStart = true
  part : ∀ c ∈ name, isTagNamePart c = true

/-- Does a tag of the name open at a position, for the patcher? -/
def Listing.opensAt (s : Listing) (name : List Char) (i : Nat) : Bool :=
  match s.charAt? i with
  | some c => (opens? name c (s.tail (i + 1))).isSome
  | none => false

theorem getElem?_tail (s : Listing) (i k : Nat) : (s.tail i)[k]? = s.charAt? (i + k) := by
  rw [Listing.tail, List.getElem?_drop, Array.getElem?_toList, charAt?]

/-- What stands where a tag opens. -/
theorem opensAt_spec (h : s.opensAt name i = true) :
    s.charAt? i = some '<' ∧ s.tail (i + 1) = name ++ s.tail (i + 1 + name.length) ∧
      opens? name '<' (s.tail (i + 1)) = some (s.tail (i + 1 + name.length)) ∧
      ∃ d, s.charAt? (i + 1 + name.length) = some d ∧ endsName d = true := by
  unfold Listing.opensAt at h
  split at h
  · rename_i c hc
    obtain ⟨rest, hrest⟩ := Option.isSome_iff_exists.mp h
    obtain ⟨rfl, htail, d, rest', hd, hends⟩ := opens?_eq_some_iff.mp hrest
    have hafter : s.tail (i + 1 + name.length) = rest := by
      rw [Listing.tail, ← List.drop_drop, ← Listing.tail, htail, List.drop_left]
    refine ⟨hc, by rw [hafter]; exact htail, by rw [hafter]; exact hrest, d, ?_, hends⟩
    have hd' : (s.tail (i + 1 + name.length))[0]? = some d := by rw [hafter, hd]; rfl
    rwa [getElem?_tail] at hd'
  · cases h

/-- A class is skipped to the first character outside it. -/
theorem skip_eq {p : Char → Bool} (hij : i ≤ j)
    (hp : ∀ k, i ≤ k → k < j → ∃ c, s.charAt? k = some c ∧ p c = true)
    (hj : s.charAt? j = some d) (hd : p d = false) : skip p s.chars i = j := by
  obtain ⟨m, rfl⟩ : ∃ m, j = i + m := ⟨j - i, by omega⟩
  clear hij
  induction m generalizing i with
  | zero =>
    obtain ⟨hi, rfl⟩ := Array.getElem?_eq_some_iff.mp hj
    unfold skip
    simp at hd
    simp [hd]
  | succ m ih =>
    obtain ⟨c, hc, hpc⟩ := hp i (Nat.le_refl _) (by omega)
    obtain ⟨hi, rfl⟩ := Array.getElem?_eq_some_iff.mp hc
    unfold skip
    rw [dif_pos hi, if_pos hpc, Nat.add_comm m 1, ← Nat.add_assoc]
    rw [Nat.add_comm m 1, ← Nat.add_assoc] at hj
    exact ih (fun k hk hk' => hp k (by omega) (by omega)) hj

/-- Where a tag of a name opens, lowering reads that name. -/
theorem tagName_of_opensAt (hname : IsTagName name) (h : s.opensAt name i = true) :
    skipSpaces s.chars (i + 1) = i + 1 ∧ (∃ c, s.charAt? (i + 1) = some c ∧ isNameStart c = true) ∧
      s.tagName (i + 1) = .ok (name, i + 1 + name.length) := by
  obtain ⟨-, htail, -, d, hd, hends⟩ := opensAt_spec h
  have hchar : ∀ k, k < name.length → s.charAt? (i + 1 + k) = name[k]? := by
    intro k hk
    rw [← getElem?_tail, htail, List.getElem?_append_left hk]
  have hfirst : ∃ c, s.charAt? (i + 1) = some c ∧ isNameStart c = true := by
    have hpos : 0 < name.length := List.length_pos_iff.mpr (by rintro rfl; cases hname.first)
    rw [show s.charAt? (i + 1) = name[0]? from hchar 0 hpos, ← List.head?_eq_getElem?]
    have hfirst := hname.first
    cases hhead : name.head? with
    | none => rw [hhead] at hfirst; cases hfirst
    | some c => rw [hhead] at hfirst; exact ⟨c, rfl, hfirst⟩
  have hskip : skip isTagNamePart s.chars (i + 1) = i + 1 + name.length := by
    refine skip_eq (Nat.le_add_right ..) (fun k hk hk' => ?_) hd ?_
    · have hin : k - (i + 1) < name.length := by omega
      refine ⟨name[k - (i + 1)], ?_, hname.part _ (List.getElem_mem ..)⟩
      rw [← List.getElem?_eq_getElem hin, ← hchar _ hin]
      congr 1
      omega
    · simp only [endsName, Text.isSpace, Bool.or_eq_true, beq_iff_eq] at hends
      rcases hends with (((((h | h) | h) | h) | h) | h) | h <;> subst h <;> decide
  have hslice : slice s.chars (i + 1) (i + 1 + name.length) = name := by
    rw [slice_eq, ← Listing.tail, htail, Nat.add_sub_cancel_left, List.take_left]
  obtain ⟨c, hc, hstart⟩ := hfirst
  refine ⟨?_, ⟨c, hc, hstart⟩, ?_⟩
  · refine skip_eq (Nat.le_refl _) (fun k hk hk' => by omega) hc ?_
    cases hspace : Text.isSpace c with
    | false => rfl
    | true =>
      simp only [Text.isSpace, Bool.or_eq_true, beq_iff_eq] at hspace
      rcases hspace with (((h | h) | h) | h) | h <;> subst h <;> cases hstart
  · unfold Listing.tagName
    rw [hc, hskip]
    simp [hstart, hslice]

/-- Nothing is skipped before a name. -/
theorem skipTagSpaces_of_opensAt (hname : IsTagName name) (h : s.opensAt name i = true) {fuel : Nat} :
    skipTagSpaces s.chars (fuel + 1) (i + 1) = .ok (i + 1) := by
  obtain ⟨hspaces, ⟨c, hc, hstart⟩, -⟩ := tagName_of_opensAt hname h
  have hslash : c ≠ '/' := by rintro rfl; cases hstart
  have hnone : ∀ d, startsAt s.chars (i + 1) ['/', d] = false := by
    intro d
    unfold charAt? at hc
    simp [startsAt, hc, hslash]
  rw [skipTagSpaces]
  simp [hspaces, hnone]

/-! ## Where the two agree -/

namespace Account

/-- The opening tag of an element of a name at a position. -/
def openingAt? (A : Account) (name : List Char) (i : Nat) : Option OpeningTag :=
  A.tags.find? fun o => o.start == i && o.name == name

/-- The opening tags of the elements of a name that are lowered, in the order of the source. -/
def openingTags (A : Account) (size : Nat) (name : List Char) : List OpeningTag :=
  (List.range size).filterMap (A.openingAt? name)

/-- For a name counting tells what reading tells: no passage spells out a tag of the name, the name
stands at the beginning of its tags, and the search for their ends comes out of what stands in them
as it went in. -/
structure Countable (s : Listing) (A : Account) (name : List Char) : Prop where
  passages : ∀ p ∈ A.passages, ∀ i, p.start ≤ i → i < p.stop → s.opensAt name i = false
  opens : ∀ o ∈ A.tags, o.name = name → s.opensAt name o.start = true
  clear : ∀ o ∈ A.tags, o.name = name → o.Clear s

end Account

theorem mem_of_openingAt? (h : A.openingAt? name i = some o) :
    o ∈ A.tags ∧ o.start = i ∧ o.name = name := by
  have hfound := List.find?_some h
  simp only [Bool.and_eq_true, beq_iff_eq] at hfound
  exact ⟨List.mem_of_find?_eq_some h, hfound⟩

/-- A tag opens exactly where an element is lowered. -/
theorem isSome_openingAt? (hname : IsTagName name) (hstands : ∀ o ∈ A.tags, o.Stands s)
    (hcovers : ∀ i, s.charAt? i = some '<' → Accounted s A i) (hcount : A.Countable s name) (i : Nat) :
    (A.openingAt? name i).isSome = s.opensAt name i := by
  rw [Bool.eq_iff_iff]
  constructor
  · intro h
    obtain ⟨o, ho⟩ := Option.isSome_iff_exists.mp h
    obtain ⟨hmem, rfl, hsame⟩ := mem_of_openingAt? ho
    exact hcount.opens o hmem hsame
  · intro h
    obtain ⟨hspaces, ⟨c, hc, hstart⟩, hread⟩ := tagName_of_opensAt hname h
    rcases hcovers i (opensAt_spec h).1 with ⟨o, ho, rfl⟩ | ⟨p, hp, hle, hlt⟩ | hslash
    · obtain ⟨-, k, hk, hinside⟩ := hstands o ho
      rw [skipTagSpaces_of_opensAt hname h] at hk
      cases hk
      rcases hinside with hclose | ⟨m, o', j, B, hread', -, -⟩
      · rw [hc] at hclose
        cases hclose
        cases hstart
      · rw [hread] at hread'
        simp only [Except.ok.injEq, Prod.mk.injEq] at hread'
        rw [Account.openingAt?, List.find?_isSome]
        exact ⟨o, ho, by simp [hread'.1]⟩
    · rw [hcount.passages p hp i hle hlt] at h
      cases h
    · rw [hspaces, hc] at hslash
      cases hslash
      cases hstart

/-- The text of a source up to the end of a tag. -/
def TagSite.upTo (site : TagSite) : List Char :=
  site.before ++ '<' :: (site.name ++ (site.attributes ++ site.closing))

theorem TagSite.byteLength_upTo (site : TagSite) : Text.byteLength site.upTo = site.stop := by
  simp only [upTo, stop, attributesEnd, attributesStart, start, Text.byteLength_append,
    Text.byteLength_cons]
  have : '<'.utf8Size = 1 := by decide
  omega

/-- The pieces of a tag are the text up to where it ends. -/
theorem exists_siteOf? (name : List Char) {inside after : List Char} (h : cutTagEnd {} rest = some (inside, after)) :
    ∃ site, siteOf? name rest = some site ∧ site.before = [] ∧ site.name = name ∧
      site.attributes ++ site.closing = inside ++ ['>'] := by
  obtain ⟨site, hsite⟩ : ∃ site, siteOf? name rest = some site := by
    unfold siteOf?
    rw [h]
    exact ⟨_, rfl⟩
  have hafter : site.after = after := by
    unfold siteOf? at hsite
    rw [h, Option.map_some, Option.some.injEq] at hsite
    subst hsite
    dsimp only
    split <;> rfl
  obtain ⟨hbefore, hname, hpieces⟩ := siteOf?_spec hsite
  refine ⟨site, hsite, hbefore, hname, ?_⟩
  have hrest := eq_of_cutTagEnd h
  rw [hpieces, hafter, ← List.append_assoc, List.append_cons] at hrest
  exact List.append_cancel_right hrest

/-- The site of a tag that is lowered ends where lowering ends it. -/
theorem siteOf?_openingTag (hname : IsTagName name) (hstands : ∀ o ∈ A.tags, o.Stands s)
    (hcount : A.Countable s name) (ho : A.openingAt? name i = some o) :
    i < o.stop ∧ ∃ site, siteOf? name (s.tail (i + 1 + name.length)) = some site ∧
      site.before = [] ∧ site.upTo = slice s.chars i o.stop := by
  obtain ⟨hmem, rfl, hsame⟩ := mem_of_openingAt? ho
  have hopen := hcount.opens o hmem hsame
  obtain ⟨-, ⟨c, hc, hstart⟩, hread⟩ := tagName_of_opensAt hname hopen
  obtain ⟨hd, k, hk, hinside⟩ := hstands o hmem
  rw [skipTagSpaces_of_opensAt hname hopen] at hk
  cases hk
  rcases hinside with hclose | ⟨m, o', j, B, hread', hattributes, ho'⟩
  · rw [hc] at hclose
    cases hclose
    cases hstart
  · rw [hread] at hread'
    simp only [Except.ok.injEq, Prod.mk.injEq] at hread'
    obtain ⟨-, rfl⟩ := hread'
    have hclear : o'.Clear s := by
      have := hcount.clear o hmem hsame
      rw [ho'] at this
      exact ⟨this.spaces, this.inner, this.element⟩
    have hstop : o.stop = o'.stop := by rw [ho']
    obtain ⟨k, hgoes, hclose, hend⟩ := hattributes.exists_tagEnd hclear
    have hle := hgoes.le
    have hcut : cutTagEnd {} (s.tail (o.start + 1 + name.length)) =
        some (slice s.chars (o.start + 1 + name.length) k, s.tail (k + 1)) := by
      rw [hgoes.cut, tail_eq_cons hclose, cutTagEnd]
      simp [Nesting.isTop, before]
    obtain ⟨site, hsite, hbefore, hsiteName, hpieces⟩ := exists_siteOf? name hcut
    have hnameSlice : slice s.chars (o.start + 1) (o.start + 1 + name.length) = name := by
      rw [slice_eq, ← Listing.tail, (opensAt_spec hopen).2.1, Nat.add_sub_cancel_left,
        List.take_left]
    refine ⟨by omega, site, hsite, hbefore, ?_⟩
    rw [TagSite.upTo, hbefore, hsiteName, hpieces, hstop, hend, ← slice_single hclose,
      slice_append s.chars hle (Nat.le_succ k)]
    have hrest := slice_append s.chars (Nat.le_add_right (o.start + 1) name.length)
      (Nat.le_succ_of_le hle)
    rw [hnameSlice] at hrest
    rw [hrest, ← slice_append s.chars (Nat.le_succ o.start) (by omega), slice_single hd]
    rfl

/-- Counting from a position on finds the opening tags from that position on. -/
theorem findSite?_openingTags (hname : IsTagName name) (hstands : ∀ o ∈ A.tags, o.Stands s)
    (hcovers : ∀ i, s.charAt? i = some '<' → Accounted s A i) (hcount : A.Countable s name)
    (size i n : Nat) (hsize : i + size = s.chars.size) :
    (findSite? name n (s.tail i)).map (fun site => (site.before, site.upTo)) =
      ((List.range' i size).filterMap (A.openingAt? name))[n]?.map fun o =>
        (slice s.chars i o.start, slice s.chars i o.stop) := by
  induction size generalizing i n with
  | zero =>
    have hnil : s.tail i = [] := tail_eq_nil (by rw [charAt?]; simp; omega) (Nat.le_refl _)
    rw [hnil]
    rfl
  | succ size ih =>
    have hc : s.charAt? i = some s.chars[i] := Array.getElem?_eq_getElem (by omega)
    have hopen : s.opensAt name i = (opens? name s.chars[i] (s.tail (i + 1))).isSome := by
      rw [Listing.opensAt, hc]
    -- the tags that stand later, seen from here
    have hlater : ∀ n, (findSite? name n (s.tail (i + 1))).map (fun site =>
        ((site.behind [s.chars[i]]).before, (site.behind [s.chars[i]]).upTo)) =
        ((List.range' (i + 1) size).filterMap (A.openingAt? name))[n]?.map fun o =>
          (slice s.chars i o.start, slice s.chars i o.stop) := by
      intro n
      have hrest := ih (i + 1) n (by omega)
      have hbehind : (findSite? name n (s.tail (i + 1))).map (fun site =>
          ((site.behind [s.chars[i]]).before, (site.behind [s.chars[i]]).upTo)) =
          ((findSite? name n (s.tail (i + 1))).map fun site => (site.before, site.upTo)).map
            fun p => (s.chars[i] :: p.1, s.chars[i] :: p.2) := by
        rw [Option.map_map]
        rfl
      rw [hbehind, hrest, Option.map_map]
      refine Option.map_congr fun o ho => ?_
      obtain ⟨k, hk, ho⟩ := List.mem_filterMap.mp (List.mem_of_getElem? ho)
      obtain ⟨hstop, -⟩ := siteOf?_openingTag hname hstands hcount ho
      obtain ⟨-, rfl, -⟩ := mem_of_openingAt? ho
      have hstart := (List.mem_range'_1.mp hk).1
      have hslice : ∀ j, i + 1 ≤ j → s.chars[i] :: slice s.chars (i + 1) j = slice s.chars i j := by
        intro j hj
        rw [← slice_append s.chars (Nat.le_succ i) hj, slice_single hc]
        rfl
      simp only [Function.comp_apply]
      rw [hslice _ hstart, hslice _ (by omega)]
    rw [tail_eq_cons hc, List.range'_succ, List.filterMap_cons]
    cases ho : A.openingAt? name i with
    | none =>
      have hfind : findSite? name _ _ = _ := findSite?_cons s.chars[i] (s.tail (i + 1)) n
      rw [← hopen, ← isSome_openingAt? hname hstands hcovers hcount, ho] at hfind
      simp only [Option.isSome_none, Bool.false_eq_true, if_false, Nat.zero_add] at hfind
      rw [hfind, Option.map_map]
      exact hlater n
    | some o =>
      have hat : s.opensAt name i = true := by
        rw [← isSome_openingAt? hname hstands hcovers hcount, ho]
        rfl
      cases n with
      | zero =>
        obtain ⟨hstop, site, hsite, hbefore, hupTo⟩ := siteOf?_openingTag hname hstands hcount ho
        obtain ⟨-, rfl, -⟩ := mem_of_openingAt? ho
        obtain ⟨hangle, -, hfirst, -⟩ := opensAt_spec hat
        rw [hc, Option.some.injEq] at hangle
        have hempty : slice s.chars o.start o.start = [] := by rw [slice_eq]; simp
        rw [hangle, findSite?_zero hfirst, hsite]
        simp [hbefore, hupTo, hempty]
      | succ n =>
        have hfind : findSite? name _ _ = _ := findSite?_cons s.chars[i] (s.tail (i + 1)) n
        rw [← hopen, hat, if_pos rfl, Nat.add_comm] at hfind
        rw [hfind, Option.map_map]
        exact hlater n

/-! ## A whole source -/

/-- Code up to the end of the text is read to the end. -/
theorem Reads.atEnd {depth : Nat} {a b : Cursor} (h : Reads s (.code .text depth a b) A) :
    s.charAt? b.pos = none := by
  generalize hr : Reading.code .text depth a b = r at h
  induction h generalizing depth a b with
  | reached hreached =>
    cases hr
    rcases hreached with h | h
    · cases h
    · exact h.1
  | openBrace _ _ _ ih => cases hr; exact ih rfl
  | closeBrace _ _ _ _ ih => cases hr; exact ih rfl
  | step _ _ _ ih => cases hr; exact ih rfl
  | _ => cases hr

/-- A sufficient test for a name to be countable: white space between the attributes of its tags, and
nested text where quotation marks and braces may stand in their braces. -/
def Account.isCountable (s : Listing) (A : Account) (name : List Char) : Bool :=
  A.passages.all (fun p =>
    (List.range' p.start (p.stop - p.start)).all fun i => !s.opensAt name i) &&
  (A.tags.filter (·.name == name)).all fun o =>
    s.opensAt name o.start && !o.holdsElement &&
      o.spaces.all (fun p => (slice s.chars p.start p.stop).all Text.isSpace) &&
      o.inner.all fun p => decide (Nested anywhere (slice s.chars p.start p.stop))

theorem Account.countable_of_isCountable (h : A.isCountable s name = true) :
    A.Countable s name := by
  simp only [Account.isCountable, Bool.and_eq_true, List.all_eq_true, List.mem_filter,
    beq_iff_eq, Bool.not_eq_true', decide_eq_true_iff] at h
  obtain ⟨hpassages, htags⟩ := h
  refine ⟨fun p hp i hle hlt => hpassages p hp i (List.mem_range'_1.mpr (by omega)),
    fun o ho hname => (htags o ⟨ho, hname⟩).1.1.1, fun o ho hname => ?_⟩
  obtain ⟨⟨⟨-, helement⟩, hspaces⟩, hinner⟩ := htags o ⟨ho, hname⟩
  exact ⟨fun p hp => .of_isSpaces (hspaces p hp), fun p hp => .of_nested (hinner p hp), helement⟩

/-- **The patcher's search agrees with lowering** for a name for which counting tells what reading
tells: the tag it finds at an occurrence is the opening tag of the element of that name that is
lowered at this place of their order, and there is one exactly if there is the other. -/
theorem locateTag?_openingTags {source text tag : String} {dialect : Dialect}
    (h : lower source dialect = .ok text) (htag : IsTagName tag.toList)
    (hcount : (account source dialect).Countable ⟨source.toList.toArray, dialect⟩ tag.toList)
    (n : Nat) :
    (locateTag? source tag n).map (fun site => (site.start, site.stop)) =
      ((account source dialect).openingTags source.toList.length tag.toList)[n]?.map fun o =>
        (Text.byteLength (source.toList.take o.start), Text.byteLength (source.toList.take o.stop))
    := by
  obtain ⟨b, hreads⟩ := reads_of_lower h
  have hcovers : ∀ i, Listing.charAt? ⟨source.toList.toArray, dialect⟩ i = some '<' →
      Accounted ⟨source.toList.toArray, dialect⟩ (account source dialect) i := by
    intro i hi
    refine hreads.covers i (Nat.zero_le i) ?_ hi
    have hend : source.toList.toArray.size ≤ b.pos := by
      simpa [charAt?] using hreads.atEnd
    exact Nat.lt_of_lt_of_le (Array.getElem?_eq_some_iff.mp hi).1 hend
  have hfind := findSite?_openingTags htag hreads.stands hcovers hcount source.toList.length 0 n
    (by simp)
  rw [← List.range_eq_range'] at hfind
  have hne : tag.isEmpty = false := by
    rw [Bool.eq_false_iff]
    intro hempty
    obtain rfl := String.isEmpty_iff.mp hempty
    cases htag.first
  unfold locateTag?
  rw [hne, if_neg (by decide)]
  have hbytes : ∀ found : Option TagSite, found.map (fun site => (site.start, site.stop)) =
      (found.map fun site => (site.before, site.upTo)).map fun p =>
        (Text.byteLength p.1, Text.byteLength p.2) := by
    intro found
    rw [Option.map_map]
    refine Option.map_congr fun site _ => ?_
    rw [Function.comp_apply, ← TagSite.byteLength_upTo, TagSite.start]
  have htake : ∀ j, slice source.toList.toArray 0 j = source.toList.take j := fun j => by
    rw [slice_eq]; simp
  simp only [Listing.tail, List.drop_zero, htake] at hfind
  rw [hbytes, hfind, Option.map_map]
  rfl

/-- Two tags of a name, one within the other, with a comment in the braces of the first, a comparison
before the second and its end mark in a string. -/
def nestedTags : String :=
  "// <i>\nconst v = <b x=\x7bn /*<i>*/\x7d>\x7bn < 2 && <b y='>'/>\x7d</b>;"

theorem locateTag?_openingTags_nested :
    (lower nestedTags .tsx).toOption.isSome = true ∧ IsTagName "b".toList ∧
      (account nestedTags .tsx).Countable ⟨nestedTags.toList.toArray, .tsx⟩ "b".toList ∧
      (locateTag? nestedTags "b" 1).map (fun site => (site.start, site.stop)) = some (44, 54) := by
  have hlower : (lower nestedTags .tsx).toOption.isSome = true := by decide +kernel
  have hname : IsTagName "b".toList := ⟨by decide, List.all_eq_true.mp (by decide)⟩
  have hcount : (account nestedTags .tsx).Countable ⟨nestedTags.toList.toArray, .tsx⟩ "b".toList :=
    Account.countable_of_isCountable (by decide +kernel)
  refine ⟨hlower, hname, hcount, ?_⟩
  cases h : lower nestedTags .tsx with
  | error e => rw [h] at hlower; cases hlower
  | ok text =>
    rw [locateTag?_openingTags h hname hcount 1]
    decide +kernel

/-- Counting is not reading. A tag in a comment is counted, though no element is lowered; a quotation
mark in a comment or in a regular expression hides the end of a tag, and an element in a tag ends it
early; and a name that braces follow is not counted. -/
theorem counting_is_not_reading :
    (["// <b >", "v = <b/*'*/>t</b>", "v = <b x=\x7b/'/\x7d>t</b>", "v = <b x=<i/>>t</b>",
        "v = <b\x7b...p\x7d>t</b>"].map fun source =>
      ((lower source .tsx).toOption.isSome,
        ((account source .tsx).openingTags source.toList.length "b".toList).map fun o =>
          (o.start, o.stop),
        (locateTag? source "b" 0).map fun site => (site.start, site.stop))) =
      [(true, [], some (3, 7)), (true, [(4, 12)], none), (true, [(4, 15)], none),
        (true, [(4, 14)], some (4, 13)), (true, [(4, 13)], none)] := by
  decide +kernel

end Source
end Restyle
