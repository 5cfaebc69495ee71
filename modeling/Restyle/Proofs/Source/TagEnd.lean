import Restyle.Proofs.Source.Nested
import Restyle.Proofs.Source.Reading
import Restyle.Proofs.Source.StaticMarkup

/-!
# Restyle.Proofs.Source.TagEnd

The search for the end of a tag beside lowering. The search counts braces and marks of strings and
knows nothing of comments, regular expressions and markup. Where it comes out of these hurdles as it
went in, it comes out of everything that lowering reads between braces as it went in
(`Reads.levels`), and finds the end of the tag that lowering finds (`Reads.exists_tagEnd`).

Looking ahead at a position is reading the text from there on. Each search over positions in
`Scan` is told here by the list `Listing.tail`: where a class ends, what stands at a place, where
a comment ends, and which bracket closes another.
-/

namespace Restyle
namespace Source

open Scan Listing

namespace Listing

/-- The text from a position on. -/
def tail (s : Listing) (i : Nat) : List Char := s.chars.toList.drop i

end Listing

variable {s : Listing} {n n' n'' : Nesting} {i j k d : Nat} {c mark : Char}

theorem tail_eq_cons (h : s.charAt? i = some c) : s.tail i = c :: s.tail (i + 1) := by
  obtain ⟨hi, rfl⟩ := Array.getElem?_eq_some_iff.mp h
  have hi' : i < s.chars.toList.length := by simpa using hi
  rw [Listing.tail, Listing.tail, List.drop_eq_getElem_cons hi', Array.getElem_toList]

theorem tail_eq_nil (h : s.charAt? i = none) (hij : i ≤ j) : s.tail j = [] := by
  have hi : s.chars.size ≤ i := by simpa [charAt?] using h
  exact List.drop_of_length_le (by simp; omega)

theorem slice_eq (cs : Chars) (i j : Nat) : slice cs i j = (cs.toList.drop i).take (j - i) := by
  simp [slice]

theorem slice_append_tail (s : Listing) (h : i ≤ j) :
    slice s.chars i j ++ s.tail j = s.tail i := by
  have hj : j = i + (j - i) := by omega
  rw [slice_eq, Listing.tail, Listing.tail, hj, ← List.drop_drop, Nat.add_sub_cancel_left,
    List.take_append_drop]

theorem slice_append (cs : Chars) (hij : i ≤ j) (hjk : j ≤ k) :
    slice cs i j ++ slice cs j k = slice cs i k := by
  have hj : j = i + (j - i) := by omega
  have hk : k - i = (j - i) + (k - j) := by omega
  rw [slice_eq, slice_eq, slice_eq, hk, List.take_add, List.drop_drop, ← hj]

theorem slice_single (h : s.charAt? i = some c) : slice s.chars i (i + 1) = [c] := by
  have htail := tail_eq_cons h
  rw [Listing.tail] at htail
  rw [slice_eq, htail]
  simp

/-! ## Going over text -/

/-- The search goes over this text inside braces, wherever it stands outside strings, and counts as
many braces after it as before. -/
def Even (cs : List Char) : Prop :=
  ∀ d tail, cutTagEnd { depth := d + 1 } (cs ++ tail) =
    (cutTagEnd { depth := d + 1 } tail).map (before cs)

/-- Nested text is gone over. -/
theorem Even.of_nested {stop : Char → Bool} {cs : List Char} (h : Nested stop cs) : Even cs :=
  fun d tail => cutTagEnd_read (d := d + 1) (Nat.succ_pos d) h tail

/-- The search goes from one position to another, and from one state to another. -/
structure Goes (s : Listing) (n : Nesting) (i : Nat) (n' : Nesting) (j : Nat) : Prop where
  le : i ≤ j
  cut : cutTagEnd n (s.tail i) = (cutTagEnd n' (s.tail j)).map (before (slice s.chars i j))

/-- The character leaves the search where it is. -/
def isSkipped (n : Nesting) (c : Char) : Bool :=
  !(n.isTop && c == '>') && decide (n.tag c = n)

theorem isSkipped_of_isPlainCode (d : Nat) (h : isPlainCode c = true) :
    isSkipped { depth := d + 1 } c = true := by
  simp only [isPlainCode, List.contains_cons, Bool.not_eq_true', Bool.or_eq_false_iff] at h
  simp [isSkipped, Nesting.isTop, Nesting.tag, h]

/-- A class without the marks that count outside braces. -/
theorem isSkipped_of_class {p : Char → Bool}
    (hp : ['>', '"', '\'', '{', '}'].all (!p ·) = true) (c : Char) (h : p c = true) :
    isSkipped {} c = true := by
  have hc : ∀ d ∈ ['>', '"', '\'', '{', '}'], c ≠ d := by
    rintro d hd rfl
    have hnot := List.all_eq_true.mp hp c hd
    rw [h] at hnot
    cases hnot
  simp only [List.forall_mem_cons] at hc
  obtain ⟨hgt, hdouble, hsingle, hopen, hclose, -⟩ := hc
  simp [isSkipped, Nesting.tag, hgt, hdouble, hsingle, hopen, hclose]

namespace Goes

theorem refl (s : Listing) (n : Nesting) (i : Nat) : Goes s n i n i where
  le := Nat.le_refl _
  cut := by
    have hempty : slice s.chars i i = [] := by rw [slice_eq]; simp
    rw [hempty]
    cases h : cutTagEnd n (s.tail i) <;> simp [before]

theorem trans (h : Goes s n i n' j) (h' : Goes s n' j n'' k) : Goes s n i n'' k where
  le := Nat.le_trans h.le h'.le
  cut := by
    rw [h.cut, h'.cut, Option.map_map, ← slice_append s.chars h.le h'.le]
    congr 1
    funext p
    simp [before]

/-- One character that does not end a tag. -/
theorem step (hc : s.charAt? i = some c) (hend : (n.isTop && c == '>') = false)
    (htag : n.tag c = n') : Goes s n i n' (i + 1) where
  le := Nat.le_succ _
  cut := by
    rw [tail_eq_cons hc, slice_single hc, cutTagEnd, hend, if_neg (by decide), htag]
    rfl

theorem skipped (hc : s.charAt? i = some c) (h : isSkipped n c = true) :
    Goes s n i n (i + 1) := by
  rw [isSkipped, Bool.and_eq_true, Bool.not_eq_true', decide_eq_true_iff] at h
  exact step hc h.1 h.2

theorem openBrace (hc : s.charAt? i = some '{') :
    Goes s { depth := d } i { depth := d + 1 } (i + 1) :=
  step hc (by simp) rfl

theorem closeBrace (hc : s.charAt? i = some '}') :
    Goes s { depth := d + 1 } i { depth := d } (i + 1) :=
  step hc rfl rfl

/-- The search goes over a class that does not matter to it. -/
theorem of_holds {p : Char → Bool} (hij : i ≤ j) (h : Holds s p i j)
    (hp : ∀ c, p c = true → isSkipped n c = true) : Goes s n i n j := by
  obtain ⟨m, rfl⟩ : ∃ m, j = i + m := ⟨j - i, by omega⟩
  clear hij
  induction m with
  | zero => exact refl s _ i
  | succ m ih =>
    have hbefore := ih fun k c hi hk => h k c hi (by omega)
    cases hc : s.charAt? (i + m) with
    | some c => exact hbefore.trans (skipped hc (hp c (h _ c (by omega) (by omega) hc)))
    | none =>
      -- after the end of the text there is nothing to go over
      refine hbefore.trans ⟨by omega, ?_⟩
      rw [tail_eq_nil hc (Nat.le_refl _), tail_eq_nil (j := i + (m + 1)) hc (by omega)]
      rfl

theorem of_isPlainCode (hij : i ≤ j) (h : Holds s isPlainCode i j) :
    Goes s { depth := d + 1 } i { depth := d + 1 } j :=
  of_holds hij h fun _ => isSkipped_of_isPlainCode d

theorem of_even (hij : i ≤ j) (h : Even (slice s.chars i j)) :
    Goes s { depth := d + 1 } i { depth := d + 1 } j where
  le := hij
  cut := by rw [← slice_append_tail s hij, h]

theorem of_passes (hij : i ≤ j) (h : Passes (slice s.chars i j)) : Goes s {} i {} j where
  le := hij
  cut := by
    rw [← slice_append_tail s hij]
    exact h _

/-! ## Strings -/

/-- In a string no tag ends. -/
theorem quoted (hquote : n.quote = some mark) (hc : s.charAt? i = some c) :
    Goes s n i (n.tag c) (i + 1) :=
  step hc (by simp [Nesting.isTop, hquote]) rfl

theorem lt_size_of_stringEndFrom? (h : stringEndFrom? mark s.chars i = some j) :
    i < s.chars.size := by
  unfold stringEndFrom? at h
  split at h
  · assumption
  · cases h

/-- Between braces the search finds the end of a string where lowering does. -/
theorem stringEnd (h : stringEndFrom? mark s.chars i = some j) :
    Goes s { quote := some mark, depth := d + 1 } i { depth := d + 1 } j := by
  generalize hcs : s.chars = cs at h
  fun_induction stringEndFrom? mark cs i with
  | case1 i hi hescape ih =>
    subst hcs
    -- the backslash and the character after it
    have hsize : i + 1 < s.chars.size := Nat.lt_of_succ_lt (lt_size_of_stringEndFrom? h)
    have htag : Nesting.tag { quote := some mark, depth := d + 1 } s.chars[i] =
        { quote := some mark, escaped := true, depth := d + 1 } := by
      simp [Nesting.tag, Nesting.inString, hescape]
    refine .trans (htag ▸ quoted rfl (Array.getElem?_eq_getElem hi)) (.trans ?_ (ih h))
    exact quoted (n := { quote := some mark, escaped := true, depth := d + 1 }) rfl
      (Array.getElem?_eq_getElem hsize)
  | case2 => cases h
  | case3 i hi hescape _ hmark =>
    subst hcs
    cases h
    have htag : Nesting.tag { quote := some mark, depth := d + 1 } s.chars[i] =
        { depth := d + 1 } := by simp [Nesting.tag, Nesting.inString, hescape, hmark]
    exact htag ▸ quoted rfl (Array.getElem?_eq_getElem hi)
  | case4 i hi hescape _ hmark ih =>
    subst hcs
    have htag : Nesting.tag { quote := some mark, depth := d + 1 } s.chars[i] =
        { quote := some mark, depth := d + 1 } := by
      simp [Nesting.tag, Nesting.inString, hescape, hmark]
    refine .trans ?_ (ih h)
    exact step (Array.getElem?_eq_getElem hi) (by simp [Nesting.isTop]) htag
  | case5 => cases h

theorem string (hc : s.charAt? i = some mark) (hmark : mark = '\'' ∨ mark = '"')
    (h : stringEnd? s.chars i = some j) :
    Goes s { depth := d + 1 } i { depth := d + 1 } j := by
  unfold stringEnd? at h
  unfold charAt? at hc
  rw [hc] at h
  refine (step hc (by simp [Nesting.isTop]) ?_).trans (stringEnd h)
  rcases hmark with rfl | rfl <;> rfl

theorem spaces (h : j = skipSpaces s.chars i) :
    Goes s { depth := d + 1 } i { depth := d + 1 } j := by
  subst h
  exact of_isPlainCode (le_skipSpaces ..)
    ((Holds.skip Text.isSpace i).mono (isPlainCode_of_class (by decide)))

theorem name {name : List Char} (h : s.tagName i = .ok (name, j)) :
    Goes s { depth := d + 1 } i { depth := d + 1 } j :=
  of_isPlainCode (le_tagName h) ((Holds.tagName h).mono (isPlainCode_of_class (by decide)))

/-- A plain character between braces. -/
theorem plain (hc : s.charAt? i = some c) (h : isPlainCode c = true) :
    Goes s { depth := d + 1 } i { depth := d + 1 } (i + 1) :=
  skipped hc (isSkipped_of_isPlainCode d h)

/-- An angle bracket between braces. -/
theorem angle (hc : s.charAt? i = some '<') :
    Goes s { depth := d + 1 } i { depth := d + 1 } (i + 1) :=
  step hc (by simp) rfl

end Goes

/-! ## Between braces -/

/-- What the search does between braces, where lowering reads. -/
def Reading.Level (s : Listing) : Reading → Prop
  | .code stop depth a b =>
    stop = .brace → ∀ d, Goes s { depth := d + depth + 1 } a.pos { depth := d } b.pos
  | .parameters .. | .template .. => True
  | .capture i j => ∀ d, Goes s { depth := d + 1 } i { depth := d } j
  | r => ∀ d, Goes s { depth := d + 1 } r.start { depth := d + 1 } r.stop

/-- The search comes out of all hurdles of an account as it went in. -/
def Account.Clear (s : Listing) (A : Account) : Prop :=
  ∀ p ∈ A.hurdles, Even (slice s.chars p.start p.stop)

namespace Account.Clear

variable {A B : Account}

theorem left (h : (A ++ B).Clear s) : A.Clear s := fun p hp => h p (List.mem_append_left _ hp)

theorem right (h : (A ++ B).Clear s) : B.Clear s := fun p hp => h p (List.mem_append_right _ hp)

/-- The search goes over a hurdle. -/
theorem goes {kind : PassageKind} (h : (Account.hurdle kind i j).Clear s) (hij : i ≤ j) :
    Goes s { depth := d + 1 } i { depth := d + 1 } j :=
  .of_even hij (h _ (List.mem_singleton_self _))

end Account.Clear

/-- **Between braces** the search counts as lowering reads, if it comes out of the hurdles. -/
theorem Reads.levels {r : Reading} {A : Account} (h : Reads s r A) (hclear : A.Clear s) :
    r.Level s := by
  induction h with
  | reached hreached =>
    rintro rfl
    rcases hreached with h | h
    · cases h
    · exact absurd rfl h.2
  | closed hd hb =>
    intro _ d
    rw [hb]
    exact .closeBrace hd
  | openBrace hd hb _ ih =>
    intro hstop d
    have hrest := ih hclear.right hstop d
    rw [hb] at hrest
    exact .trans (.openBrace hd) hrest
  | @closeBrace stop depth a b c A hd hopen hb _ ih =>
    intro hstop d
    have hrest := ih hclear.right hstop d
    obtain ⟨depth, rfl⟩ := Nat.exists_eq_succ_of_ne_zero (hopen hstop)
    rw [hb] at hrest
    exact .trans (.closeBrace hd) hrest
  | step _ _ ih ih' =>
    intro hstop d
    exact (ih hclear.left _).trans (ih' hclear.right hstop d)
  | plain hle hclass => exact fun d => .of_isPlainCode hle hclass
  | string hd hmark hend => exact fun d => .string hd hmark hend
  | hurdle hle => exact fun d => hclear.goes hle
  | comparison hd hb =>
    intro d
    simp only [Reading.start, Reading.stop, hb]
    exact .angle hd
  | markup _ ih => exact ih hclear
  | wholeTemplate _ hb hinside hend _ =>
    intro d
    have hforward := hinside.forward
    simp only [Reading.Forward, Reading.start, Reading.stop] at hforward
    exact .of_even (by simp only [Reading.start, Reading.stop]; omega)
      (hclear _ (List.mem_singleton_self _))
  | wholeParameters _ _ _ hle _ =>
    exact fun d => .of_even hle (hclear _ (List.mem_singleton_self _))
  | lastParameter => trivial
  | lastDefault => trivial
  | parameter => trivial
  | default => trivial
  | templateText => trivial
  | templateEnd => trivial
  | substitution => trivial
  | capture _ ih => exact fun d => ih hclear rfl d
  | fragment hd hspaces hclose _ ih =>
    intro d
    exact .trans (.angle hd) (.trans (hclear.right.left.goes (le_skipTagSpaces hspaces))
      (.trans (.plain hclose rfl) (ih hclear.right.right d)))
  | element hd hspaces hname _ ih =>
    intro d
    exact .trans (.angle hd) (.trans (hclear.right.left.goes (le_skipTagSpaces hspaces))
      (.trans (.name hname) (ih hclear.right.right d)))
  | selfClosed hle hslash hclose =>
    intro d
    exact .trans (hclear.left.goes hle) (.trans (.plain hslash rfl) (.plain hclose rfl))
  | opened hle hclose _ ih =>
    intro d
    exact .trans (hclear.left.goes hle) (.trans (.plain hclose rfl) (ih hclear.right d))
  | spread hle hd hspaces hdots _ _ ih ih' =>
    intro d
    have hdots := Holds.startsAt (p := isPlainCode) hdots rfl
    refine .trans (hclear.left.goes hle) (.trans (.trans (.openBrace hd) ?_)
      (ih' hclear.right.right d))
    exact .trans (.spaces hspaces) (.trans (.of_isPlainCode (Nat.le_add_right ..) hdots)
      (ih hclear.right.left (d + 1)))
  | bare hle hname hspaces _ ih =>
    intro d
    exact .trans (hclear.left.goes hle) (.trans (.name hname)
      (.trans (.spaces hspaces) (ih hclear.right d)))
  | valued hle hname hsign hd hspaces _ _ ih ih' =>
    intro d
    exact .trans (hclear.left.goes hle) (.trans (.name hname) (.trans (.spaces hsign)
      (.trans (.plain hd rfl) (.trans (.spaces hspaces)
        (.trans (ih hclear.right.left d) (ih' hclear.right.right d))))))
  | stringValue _ _ hfind =>
    exact fun d => hclear.goes (Nat.le_trans (Nat.le_succ _) (Nat.le_succ_of_le (le_find? hfind)))
  | expression hd _ ih => exact fun d => .trans (.openBrace hd) (ih hclear (d + 1))
  | elementValue _ ih => exact ih hclear
  | closing hd _ hle hclass => exact fun d => .trans (.angle hd) (.of_isPlainCode hle hclass)
  | childElement _ _ ih ih' => exact fun d => (ih hclear.left d).trans (ih' hclear.right d)
  | childExpression hd _ _ ih ih' =>
    exact fun d => .trans (.trans (.openBrace hd) (ih hclear.left (d + 1))) (ih' hclear.right d)
  | childText hle _ _ ih =>
    intro d
    exact .trans (.of_even hle (hclear.left _ (List.mem_singleton_self _))) (ih hclear.right d)

/-! ## The end of a tag -/

/-- What is found is the first of its kind. -/
theorem find?_spec (h : find? mark s.chars i = some j) :
    Holds s (· != mark) i j ∧ s.charAt? j = some mark := by
  generalize hcs : s.chars = cs at h
  fun_induction find? mark cs i with
  | case1 i hi hmark =>
    subst hcs
    cases h
    rw [← eq_of_beq hmark]
    exact ⟨fun k c hk hk' => by omega, Array.getElem?_eq_getElem hi⟩
  | case2 i hi hmark ih =>
    subst hcs
    obtain ⟨hbefore, hat⟩ := ih h
    exact ⟨.append (.single (Array.getElem?_eq_getElem hi) (by simpa using hmark)) hbefore, hat⟩
  | case3 => cases h

theorem Goes.spacesOutside (h : j = skipSpaces s.chars i) : Goes s {} i {} j := by
  subst h
  exact of_holds (le_skipSpaces ..) (Holds.skip Text.isSpace i) (isSkipped_of_class (by decide))

theorem Goes.nameOutside {name : List Char} (h : s.tagName i = .ok (name, j)) : Goes s {} i {} j :=
  of_holds (le_tagName h) (Holds.tagName h) (isSkipped_of_class (by decide))

/-- Outside braces the search finds the end of a quoted value where lowering does. -/
theorem Goes.quotedValue (hd : s.charAt? i = some mark) (hmark : mark = '"' ∨ mark = '\'')
    (hfind : find? mark s.chars (i + 1) = some j) : Goes s {} i {} (j + 1) := by
  obtain ⟨hinside, hlast⟩ := find?_spec hfind
  have hopen : Goes s {} i { quote := some mark } (i + 1) := by
    rcases hmark with rfl | rfl <;> exact step hd rfl rfl
  have hgo : Goes s { quote := some mark } (i + 1) { quote := some mark } j := by
    refine of_holds (le_find? hfind) hinside fun c hc => ?_
    have hne : c ≠ mark := by simpa using hc
    simp [isSkipped, Nesting.isTop, Nesting.tag, hne]
  refine hopen.trans (hgo.trans (step hlast (by simp [Nesting.isTop]) ?_))
  simp [Nesting.tag]

/-- The search for the end of a tag comes out of everything in the tag as it went in, and no element
stands in it outside braces. -/
structure OpeningTag.Clear (s : Listing) (o : OpeningTag) : Prop where
  spaces : ∀ p ∈ o.spaces, Passes (slice s.chars p.start p.stop)
  inner : ∀ p ∈ o.inner, Even (slice s.chars p.start p.stop)
  element : o.holdsElement = false

namespace OpeningTag.Clear

variable {o : OpeningTag} {inner : List Passage} {holdsElement : Bool}

theorem of_spaced (h : (o.spaced i k).Clear s) : o.Clear s where
  spaces p hp := h.spaces p (List.mem_cons_of_mem _ hp)
  inner := h.inner
  element := h.element

theorem goes (h : (o.spaced i k).Clear s) (hik : i ≤ k) : Goes s {} i {} k :=
  .of_passes hik (h.spaces _ (List.mem_cons_self ..))

theorem of_holding (h : (o.holding inner holdsElement).Clear s) : o.Clear s where
  spaces := h.spaces
  inner p hp := h.inner p (List.mem_append_right _ hp)
  element := (Bool.or_eq_false_iff.mp h.element).2

theorem held (h : (o.holding inner holdsElement).Clear s) :
    (∀ p ∈ inner, Even (slice s.chars p.start p.stop)) ∧ holdsElement = false :=
  ⟨fun p hp => h.inner p (List.mem_append_left _ hp), (Bool.or_eq_false_iff.mp h.element).1⟩

end OpeningTag.Clear

namespace Reads

variable {A : Account} {o : OpeningTag} {inner : List Passage}

/-- The search goes over a value that is no element. -/
theorem value_goes (h : Reads s (.value i j inner false) A)
    (heven : ∀ p ∈ inner, Even (slice s.chars p.start p.stop)) : Goes s {} i {} j := by
  cases h with
  | stringValue hd hmark hfind => exact .quotedValue hd hmark hfind
  | expression hd hinside => exact .trans (.openBrace (d := 0) hd) (hinside.levels heven 0)

/-- **The end of a tag** is where the search finds it, if it comes out of everything in the tag as
it went in. -/
theorem exists_tagEnd (h : Reads s (.attributes i o j) A) (hclear : o.Clear s) :
    ∃ k, Goes s {} i {} k ∧ s.charAt? k = some '>' ∧ o.stop = k + 1 := by
  generalize hr : Reading.attributes i o j = r at h
  induction h generalizing i o with
  | selfClosed hle hslash hclose =>
    cases hr
    have hspaces := Goes.of_passes hle (hclear.spaces _ (List.mem_cons_self ..))
    exact ⟨_, hspaces.trans (.skipped hslash rfl), hclose, rfl⟩
  | opened hle hclose _ _ =>
    cases hr
    exact ⟨_, .of_passes hle (hclear.spaces _ (List.mem_cons_self ..)), hclose, rfl⟩
  | spread hle hd hspaces hdots hinside _ _ ih =>
    cases hr
    obtain ⟨k, hrest, hclose, hstop⟩ := ih hclear.of_spaced.of_holding rfl
    have hdots := Holds.startsAt (p := isPlainCode) hdots rfl
    have hgroup := hinside.levels hclear.of_spaced.held.1 0
    refine ⟨k, .trans (hclear.goes hle) (.trans (.openBrace (d := 0) hd) (.trans (.spaces hspaces)
      (.trans (.of_isPlainCode (Nat.le_add_right ..) hdots) (.trans hgroup hrest)))), hclose, hstop⟩
  | bare hle hname hspaces _ ih =>
    cases hr
    obtain ⟨k, hrest, hclose, hstop⟩ := ih hclear.of_spaced rfl
    exact ⟨k, .trans (hclear.goes hle) (.trans (.nameOutside hname)
      (.trans (.spacesOutside hspaces) hrest)), hclose, hstop⟩
  | valued hle hname hsign hd hspaces hvalue _ _ ih =>
    cases hr
    obtain ⟨k, hrest, hclose, hstop⟩ := ih hclear.of_spaced.of_holding rfl
    obtain ⟨hinner, rfl⟩ := hclear.of_spaced.held
    exact ⟨k, .trans (hclear.goes hle) (.trans (.nameOutside hname)
      (.trans (.spacesOutside hsign) (.trans (.skipped hd rfl) (.trans (.spacesOutside hspaces)
        (.trans (hvalue.value_goes hinner) hrest))))), hclose, hstop⟩
  | _ => cases hr

end Reads

end Source

/-! ## Looking ahead -/

namespace Source

open Scan Listing

variable {s : Listing} {i d : Nat} {c : Char} {t r : List Char}

theorem charAt?_eq (s : Listing) (i : Nat) : s.charAt? i = (s.tail i).head? := by
  cases h : s.charAt? i with
  | some c => rw [tail_eq_cons h]; rfl
  | none => rw [tail_eq_nil h (Nat.le_refl i)]; rfl

theorem charAt?_of_cons (h : s.tail i = c :: r) : s.charAt? i = some c := by
  rw [charAt?_eq, h]
  rfl

theorem tail_add (h : s.tail i = t ++ r) : s.tail (i + t.length) = r := by
  rw [Listing.tail, ← List.drop_drop, ← Listing.tail, h, List.drop_left]

theorem tail_succ (h : s.tail i = c :: r) : s.tail (i + 1) = r :=
  tail_add (t := [c]) h

theorem slice_add (h : s.tail i = t ++ r) : slice s.chars i (i + t.length) = t := by
  rw [slice_eq, ← Listing.tail, h, Nat.add_sub_cancel_left, List.take_left]

theorem length_tail (s : Listing) (i : Nat) : (s.tail i).length = s.chars.size - i := by
  simp [Listing.tail]

theorem add_length_le_size (h : s.tail i = t ++ r) (ht : t ≠ []) :
    i + t.length ≤ s.chars.size := by
  have hlength := length_tail s i
  have hpos := List.length_pos_iff.mpr ht
  rw [h, List.length_append] at hlength
  omega

theorem length_le_size (h : s.tail i = t ++ r) : t.length ≤ s.chars.size := by
  have hlength := length_tail s i
  rw [h, List.length_append] at hlength
  omega

/-! ## Classes and words -/

theorem skip_eq_add (p : Char → Bool) (s : Listing) (i : Nat) :
    skip p s.chars i = i + ((s.tail i).takeWhile p).length := by
  generalize hcs : s.chars = cs
  fun_induction skip p cs i with
  | case1 i hi hp ih =>
    subst hcs
    rw [ih, tail_eq_cons (Array.getElem?_eq_getElem hi), List.takeWhile_cons_of_pos hp,
      List.length_cons]
    omega
  | case2 i hi hp =>
    subst hcs
    rw [tail_eq_cons (Array.getElem?_eq_getElem hi), List.takeWhile_cons_of_neg hp]
    rfl
  | case3 i hi =>
    subst hcs
    rw [tail_eq_nil (Array.getElem?_eq_none (Nat.le_of_not_lt hi)) (Nat.le_refl i)]
    rfl

theorem tail_skip (p : Char → Bool) (s : Listing) (i : Nat) :
    s.tail (skip p s.chars i) = (s.tail i).dropWhile p := by
  rw [skip_eq_add]
  exact tail_add List.takeWhile_append_dropWhile.symm

theorem charAt?_skip (p : Char → Bool) (s : Listing) (i : Nat) :
    s.charAt? (skip p s.chars i) = ((s.tail i).dropWhile p).head? := by
  rw [charAt?_eq, tail_skip]

/-- A class is skipped as far as the text goes that is of it. -/
theorem skip_add {p : Char → Bool} (h : s.tail i = t ++ r) (ht : ∀ c ∈ t, p c = true)
    (hr : ∀ c, r.head? = some c → p c = false) : skip p s.chars i = i + t.length := by
  have hstop : r.takeWhile p = [] := by
    cases r with
    | nil => rfl
    | cons c r => exact List.takeWhile_cons_of_neg (by rw [hr c rfl]; decide)
  rw [skip_eq_add, h, List.takeWhile_append_of_pos ht, hstop, List.append_nil]

theorem startsAt_eq (s : Listing) (i : Nat) (w : List Char) :
    startsAt s.chars i w = w.isPrefixOf (s.tail i) := by
  induction w generalizing i with
  | nil => rfl
  | cons a w ih =>
    rw [startsAt, ih]
    cases h : s.chars[i]? with
    | none =>
      rw [tail_eq_nil (j := i) h (Nat.le_refl i)]
      rfl
    | some c =>
      rw [tail_eq_cons h, List.isPrefixOf_cons_cons, Option.some_beq_some, BEq.comm]

/-! ## Comments -/

theorem commentEnd?_add {body : List Char} (hbody : ¬ ['*', '/'] <:+: body)
    (h : s.tail i = body ++ '*' :: '/' :: r) :
    commentEnd? s.chars i = some (i + body.length + 2) := by
  induction body generalizing i with
  | nil =>
    have hi : i < s.chars.size := by
      have := add_length_le_size (t := ['*', '/']) h (by simp)
      simp at this
      omega
    have hmark : startsAt s.chars i ['*', '/'] = true := by
      rw [startsAt_eq, h]
      simp
    rw [commentEnd?, dif_pos hi, if_pos hmark]
    rfl
  | cons a body ih =>
    have hi : i < s.chars.size := by
      have := add_length_le_size (t := a :: body) h (by simp)
      simp at this
      omega
    have hmark : startsAt s.chars i ['*', '/'] = false := by
      -- the first two characters are a mark only if they stand in the body
      rw [startsAt_eq, h, Bool.eq_false_iff]
      intro hprefix
      cases body with
      | nil => simp at hprefix
      | cons b body =>
        simp only [List.cons_append, List.isPrefixOf_cons_cons, List.isPrefixOf_nil_left,
          Bool.and_true, Bool.and_eq_true, beq_iff_eq] at hprefix
        obtain ⟨rfl, rfl⟩ := hprefix
        exact hbody ⟨[], body, rfl⟩
    rw [commentEnd?, dif_pos hi, hmark, if_neg (by decide),
      ih (fun hin => hbody (List.infix_cons hin)) (tail_succ h)]
    simp only [List.length_cons]
    congr 1
    omega

/-! ## Brackets -/

/-- Characters that do not count for brackets and open no string. -/
def isQuiet (c : Char) : Bool := !(isQuoteMark c || isOpening c || isClosing c)

theorem closeFrom?_quiet (hc : s.charAt? i = some c) (hquiet : isQuiet c = true) :
    closeFrom? s.chars d i = closeFrom? s.chars d (i + 1) := by
  obtain ⟨hi, rfl⟩ := Array.getElem?_eq_some_iff.mp hc
  simp only [isQuiet, Bool.not_eq_true', Bool.or_eq_false_iff] at hquiet
  rw [closeFrom?.eq_def]
  simp [hi, hquiet]

theorem isQuoteMark_of_isOpening (hopen : isOpening c = true) : isQuoteMark c = false := by
  simp only [isOpening, Bool.or_eq_true, beq_iff_eq] at hopen
  rcases hopen with (rfl | rfl) | rfl <;> rfl

theorem isClosing_apart (hclose : isClosing c = true) : isQuoteMark c = false ∧ isOpening c = false := by
  simp only [isClosing, Bool.or_eq_true, beq_iff_eq] at hclose
  rcases hclose with (rfl | rfl) | rfl <;> exact ⟨rfl, rfl⟩

theorem closeFrom?_open (hc : s.charAt? i = some c) (hopen : isOpening c = true) :
    closeFrom? s.chars d i = closeFrom? s.chars (d + 1) (i + 1) := by
  obtain ⟨hi, rfl⟩ := Array.getElem?_eq_some_iff.mp hc
  rw [closeFrom?.eq_def]
  simp [hi, hopen, isQuoteMark_of_isOpening hopen]

theorem closeFrom?_close (hc : s.charAt? i = some c) (hclose : isClosing c = true) :
    closeFrom? s.chars (d + 2) i = closeFrom? s.chars (d + 1) (i + 1) := by
  obtain ⟨hi, rfl⟩ := Array.getElem?_eq_some_iff.mp hc
  rw [closeFrom?.eq_def]
  simp [hi, hclose, isClosing_apart hclose]

theorem closeFrom?_last (hc : s.charAt? i = some c) (hclose : isClosing c = true) :
    closeFrom? s.chars 1 i = some i := by
  obtain ⟨hi, rfl⟩ := Array.getElem?_eq_some_iff.mp hc
  rw [closeFrom?.eq_def]
  simp [hi, hclose, isClosing_apart hclose]

/-- A text in which every bracket is closed, for the search of the closing one. -/
def Level (t : List Char) : Prop :=
  ∀ (s : Listing) (i d : Nat) (r : List Char), s.tail i = t ++ r →
    closeFrom? s.chars (d + 1) i = closeFrom? s.chars (d + 1) (i + t.length)

namespace Level

theorem nil : Level [] := fun _ _ _ _ _ => rfl

theorem append {t' : List Char} (h : Level t) (h' : Level t') : Level (t ++ t') := by
  intro s i d r ht
  rw [List.append_assoc] at ht
  rw [h s i d _ ht, h' s _ d r (tail_add ht), List.length_append, Nat.add_assoc]

theorem single (hc : isQuiet c = true) : Level [c] :=
  fun _ _ _ _ h => closeFrom?_quiet (charAt?_of_cons h) hc

theorem of_forall (h : ∀ c ∈ t, isQuiet c = true) : Level t := by
  induction t with
  | nil => exact nil
  | cons c t ih =>
    exact append (t := [c]) (single (h c (List.mem_cons_self ..)))
      (ih fun d hd => h d (List.mem_cons_of_mem _ hd))

theorem cons (hc : isQuiet c = true) (h : Level t) : Level (c :: t) := append (single hc) h

theorem parentheses (h : Level t) : Level ('(' :: t ++ [')']) := by
  intro s i d r ht
  rw [List.append_assoc, List.cons_append] at ht
  have hinner := tail_succ ht
  have hclose : s.charAt? (i + 1 + t.length) = some ')' := charAt?_of_cons (tail_add hinner)
  rw [closeFrom?_open (charAt?_of_cons ht) rfl, h s _ _ _ hinner, closeFrom?_close hclose rfl]
  simp only [List.length_cons, List.length_append, List.length_nil]
  congr 1
  omega

end Level

/-- A parenthesis is closed after a text in which every bracket is. -/
theorem close?_add (ht : Level t) (h : s.tail i = '(' :: t ++ ')' :: r) :
    close? s.chars i = some (i + 1 + t.length) := by
  have hinner := tail_succ h
  rw [close?, closeFrom?_open (charAt?_of_cons h) rfl, ht s (i + 1) 0 _ hinner]
  exact closeFrom?_last (charAt?_of_cons (tail_add hinner)) rfl

end Source
end Restyle
