import Restyle.Proofs.Source.Lowered
import Restyle.Proofs.Source.TagEnd

/-!
# Restyle.Proofs.Source.Elements

Without types, lowering changes elements and nothing else: the result is the source with some ranges
replaced, each the range of an element by the call for it (`lower_replaced`).

`Rewrites` says this of what was written between two cursors; it holds of every construct, and of
code and templates, which call each other.
-/

namespace Restyle
namespace Source

open Scan Listing

/-- A range of the source, and a text that stands for it. -/
structure Replacement where
  start : Nat
  stop : Nat
  text : List Char

/-- The source from one position to another, with ranges replaced. -/
def replaced (cs : Chars) : Nat → Nat → List Replacement → List Char
  | i, j, [] => slice cs i j
  | i, j, r :: rs => slice cs i r.start ++ (r.text ++ replaced cs r.stop j rs)

/-- Ranges between two positions, one after the other. -/
def InOrder : Nat → Nat → List Replacement → Prop
  | i, j, [] => i ≤ j
  | i, j, r :: rs => i ≤ r.start ∧ r.start < r.stop ∧ InOrder r.stop j rs

/-- The range of an element that is lowered, with the call for it. -/
structure Replacement.IsElement (s : Listing) (r : Replacement) : Prop where
  opens : s.charAt? r.start = some '<'
  lowered : ∃ fuel, element s fuel r.start = .ok (r.text, r.stop)
  le_size : r.stop ≤ s.chars.size
  isCall : ∃ type props children, r.text = createElement type props children

variable {s : Listing} {i j k : Nat} {rs rs' : List Replacement} {a b c : Cursor} {fuel : Nat}

namespace InOrder

theorem le (h : InOrder i j rs) : i ≤ j := by
  induction rs generalizing i with
  | nil => exact h
  | cons r rs ih =>
    have := ih h.2.2
    have := h.1
    have := h.2.1
    omega

theorem append (h : InOrder i j rs) (h' : InOrder j k rs') : InOrder i k (rs ++ rs') := by
  induction rs generalizing i with
  | nil =>
    cases rs' with
    | nil => exact Nat.le_trans h h'
    | cons r rs' => exact ⟨Nat.le_trans h h'.1, h'.2⟩
  | cons r rs ih => exact ⟨h.1, h.2.1, ih h.2.2⟩

/-- Ranges that end within the source are ranges of the whole source. -/
theorem to_size {cs : Chars} (h : InOrder i j rs) (hi : i ≤ cs.size)
    (hrs : ∀ r ∈ rs, r.stop ≤ cs.size) : InOrder i cs.size rs := by
  induction rs generalizing i with
  | nil => exact hi
  | cons r rs ih =>
    obtain ⟨hr, hrs⟩ := List.forall_mem_cons.mp hrs
    exact ⟨h.1, h.2.1, ih h.2.2 hr hrs⟩

end InOrder

theorem replaced_append {cs : Chars} (h : InOrder i j rs) (h' : InOrder j k rs') :
    replaced cs i j rs ++ replaced cs j k rs' = replaced cs i k (rs ++ rs') := by
  induction rs generalizing i with
  | nil =>
    cases rs' with
    | nil => exact slice_append cs h h'
    | cons r rs' =>
      rw [replaced, replaced, List.nil_append, replaced, ← List.append_assoc, slice_append cs h h'.1]
  | cons r rs ih => rw [replaced, List.cons_append, replaced, List.append_assoc, List.append_assoc,
      ih h.2.2]

/-- A position behind the source stands for its end. -/
theorem replaced_of_size_le {cs : Chars} (hj : cs.size ≤ j) :
    replaced cs i j rs = replaced cs i cs.size rs := by
  induction rs generalizing i with
  | nil =>
    have hlength : (cs.toList.drop i).length ≤ cs.size - i := by simp
    rw [replaced, replaced, slice_eq, slice_eq, List.take_of_length_le hlength,
      List.take_of_length_le (by omega)]
  | cons r rs ih => rw [replaced, replaced, ih]

/-! ## Cursors -/

/-- Between two cursors the source was copied, but for elements. -/
def Rewrites (s : Listing) (a b : Cursor) : Prop :=
  ∃ rs, InOrder a.pos b.pos rs ∧ (∀ r ∈ rs, r.IsElement s) ∧
    b.written = (replaced s.chars a.pos b.pos rs).reverse ++ a.written

namespace Rewrites

theorem refl (a : Cursor) : Rewrites s a a :=
  ⟨[], Nat.le_refl _, nofun, by simp [replaced, slice]⟩

theorem trans (h : Rewrites s a b) (h' : Rewrites s b c) : Rewrites s a c := by
  obtain ⟨rs, horder, hrs, hwritten⟩ := h
  obtain ⟨rs', horder', hrs', hwritten'⟩ := h'
  refine ⟨rs ++ rs', horder.append horder', fun r hr => ?_, ?_⟩
  · exact (List.mem_append.mp hr).elim (hrs r) (hrs' r)
  · rw [hwritten', hwritten, ← replaced_append horder horder', List.reverse_append,
      List.append_assoc]

/-- What was copied stands between the cursors. -/
theorem of_copy (hle : a.pos ≤ b.pos)
    (hwritten : b.written = (slice s.chars a.pos b.pos).reverse ++ a.written) : Rewrites s a b :=
  ⟨[], hle, nofun, hwritten⟩

/-- One character was copied. -/
theorem single {d : Char} (hd : s.charAt? a.pos = some d) (hpos : b.pos = a.pos + 1)
    (hwritten : b.written = d :: a.written) : Rewrites s a b := by
  refine of_copy (by omega) ?_
  rw [hpos, slice_single hd, hwritten]
  rfl

theorem copyTo (hle : a.pos ≤ j) (hpos : b.pos = j)
    (hwritten : b.written = (a.copyTo s j).written) : Rewrites s a b := by
  subst hpos
  exact of_copy hle hwritten

end Rewrites

namespace Rewrites

variable {d : Char}

theorem lineComment (hpos : a.pos ≤ s.chars.size) : Rewrites s a (a.lineComment s) :=
  .copyTo (Cursor.le_lineComment hpos) rfl rfl

theorem blockComment (h : a.blockComment s = .ok b) : Rewrites s a b := by
  have hle := Cursor.le_blockComment h
  unfold Cursor.blockComment at h
  split at h
  · cases h
    exact .copyTo hle rfl rfl
  · cases h

theorem string (h : a.string s = .ok b) : Rewrites s a b := by
  unfold Cursor.string at h
  split at h
  · rename_i stop hstop
    cases h
    exact .copyTo (Nat.le_of_lt (lt_of_stringEnd? hstop)) rfl rfl
  · cases h

theorem number (a : Cursor) : Rewrites s a (a.number s) :=
  .copyTo (Cursor.le_number a s) rfl rfl

/-- A regular expression or a division. -/
theorem slash (hd : s.charAt? a.pos = some '/') (h : a.slash s = .ok b) : Rewrites s a b := by
  have hle := Cursor.le_slash h
  unfold Cursor.slash at h
  split at h
  · split at h
    · cases h
      exact .copyTo hle rfl rfl
    · cases h
  · cases h
    exact .single hd rfl rfl

/-- Without types no word means more than itself. -/
theorem word (hno : s.dialect.hasTypes = false) (h : a.word s = .ok b) : Rewrites s a b := by
  unfold Cursor.word at h
  simp only [hno, Bool.not_false, if_true] at h
  cases h
  exact .copyTo (le_nameEnd ..) rfl rfl

end Rewrites

/-! ## Elements -/

/-- What lowering an element gives: a call, and a position within the source. -/
structure IsCallTo (s : Listing) (text : List Char) (j : Nat) : Prop where
  isCall : ∃ type props children, text = createElement type props children
  le_size : j ≤ s.chars.size

theorem lt_size_of_charAt? {d : Char} (h : s.charAt? i = some d) : i < s.chars.size :=
  (Array.getElem?_eq_some_iff.mp h).1

/-- Contents end with a closing tag. -/
theorem le_size_of_children {name : List Char} {start : Nat} {found texts : List (List Char)}
    (h : children s fuel name start found i = .ok (texts, j)) : j ≤ s.chars.size := by
  induction fuel generalizing i found with
  | zero => rw [children] at h; cases h
  | succ fuel ih =>
    rw [children] at h
    split at h
    · cases h
    · dsimp only at h
      split at h
      · split at h
        · split at h
          · cases h
          · split at h
            · cases h
            · rename_i hlast
              split at h
              · cases h
                exact lt_size_of_charAt? (by simpa using hlast)
              · cases h
        · split at h
          · cases h
          · exact ih h
      · split at h
        · split at h
          · cases h
          · exact ih h
        · exact ih h

theorem isCallTo_of_attributes {start : Nat} {name text : List Char} {props : List (List Char)}
    (h : attributes s fuel start name props i = .ok (text, j)) : IsCallTo s text j := by
  induction fuel generalizing i props with
  | zero => rw [attributes] at h; cases h
  | succ fuel ih =>
    rw [attributes] at h
    dsimp only at h
    repeat' split at h
    all_goals first | (cases h; done) | exact ih h | skip
    · rename_i hclose
      cases h
      exact ⟨⟨_, _, _, rfl⟩, lt_size_of_charAt? (eq_of_beq hclose)⟩
    · obtain ⟨⟨texts, m⟩, hchildren, heq⟩ := exists_of_map_eq_ok h
      cases heq
      exact ⟨⟨_, _, _, rfl⟩, le_size_of_children hchildren⟩

theorem isCallTo_of_element {text : List Char} (h : element s fuel i = .ok (text, j)) :
    IsCallTo s text j := by
  cases fuel with
  | zero => rw [element] at h; cases h
  | succ fuel =>
    rw [element] at h
    split at h
    · cases h
    · split at h
      · obtain ⟨⟨texts, m⟩, hchildren, heq⟩ := exists_of_map_eq_ok h
        cases heq
        exact ⟨⟨_, _, _, rfl⟩, le_size_of_children hchildren⟩
      · split at h
        · cases h
        · exact isCallTo_of_attributes h

/-- An element takes up at least its angle bracket. -/
theorem Reads.lt_of_element {A : Account} (h : Reads s (.element i j) A) : i < j := by
  cases h with
  | fragment _ hspaces _ hchildren =>
    have := le_skipTagSpaces hspaces
    have : _ ≤ j := hchildren.forward
    simp only [Reading.start] at this
    omega
  | element _ hspaces hname hattributes =>
    have := le_skipTagSpaces hspaces
    have := le_tagName hname
    have : _ ≤ j := hattributes.forward
    simp only [Reading.start] at this
    omega

theorem isElement_of_element {text : List Char} (hd : s.charAt? i = some '<')
    (h : element s fuel i = .ok (text, j)) : Replacement.IsElement s ⟨i, j, text⟩ where
  opens := hd
  lowered := ⟨fuel, h⟩
  le_size := (isCallTo_of_element h).le_size
  isCall := (isCallTo_of_element h).isCall

/-- An element is replaced. -/
theorem Rewrites.element {text : List Char} (hd : s.charAt? a.pos = some '<')
    (h : element s fuel a.pos = .ok (text, b.pos))
    (hwritten : b.written = text.reverse ++ a.written) : Rewrites s a b := by
  have hlt := ((Found.all s fuel).element hd h).lt_of_element
  refine ⟨[⟨a.pos, b.pos, text⟩], ⟨Nat.le_refl _, hlt, Nat.le_refl _⟩, ?_, ?_⟩
  · intro r hr
    rw [List.mem_singleton.mp hr]
    exact isElement_of_element hd h
  · rw [hwritten, replaced, replaced]
    simp [slice]

/-! ## Constructs -/

/-- How code ends: at the end of the source, after the brace that closes it, or at a position. -/
def EndsAt (s : Listing) (stop : Stop) (c b : Cursor) : Prop :=
  match stop with
  | .text => s.charAt? c.pos = none ∧ b = c
  | .brace => s.charAt? c.pos = some '}' ∧ b = { c with pos := c.pos + 1 }
  | .limit _ => b = c

/-- Lowering with some fuel rewrites. -/
structure Rewriting (s : Listing) (fuel : Nat) : Prop where
  code {stop : Stop} {depth : Nat} {a b : Cursor} : code s fuel stop depth a = .ok b →
    ∃ c, Rewrites s a c ∧ EndsAt s stop c b
  construct {d : Char} {a b : Cursor} :
    s.charAt? a.pos = some d → construct s fuel d a = .ok b → Rewrites s a b
  angle {a b : Cursor} : s.charAt? a.pos = some '<' → angle s fuel a = .ok b → Rewrites s a b
  openParen {a b : Cursor} :
    s.charAt? a.pos = some '(' → openParen s fuel a = .ok b → Rewrites s a b
  template {start : Nat} {a b : Cursor} : template s fuel start a = .ok b → Rewrites s a b

namespace Rewriting

theorem zero (s : Listing) : Rewriting s 0 where
  code h := by rw [Source.code] at h; cases h
  construct _ h := by rw [Source.construct] at h; cases h
  angle _ h := by rw [Source.angle] at h; cases h
  openParen _ h := by rw [Source.openParen] at h; cases h
  template h := by rw [Source.template] at h; cases h

variable {stop : Stop} {depth start : Nat} {d : Char}

theorem code_succ (ih : Rewriting s fuel) (h : Source.code s (fuel + 1) stop depth a = .ok b) :
    ∃ c, Rewrites s a c ∧ EndsAt s stop c b := by
  rw [Source.code] at h
  split at h
  · rename_i hreached
    cases h
    refine ⟨a, .refl a, ?_⟩
    cases stop with
    | text => cases hreached
    | brace => cases hreached
    | limit n => rfl
  · split at h
    · rename_i hd
      split at h
      · cases h
      · rename_i hstop
        cases h
        refine ⟨a, .refl a, ?_⟩
        cases stop with
        | text => exact ⟨hd, rfl⟩
        | brace => exact absurd rfl hstop
        | limit n => rfl
    · rename_i d hd
      split at h
      · rename_i hclose
        simp only [Bool.and_eq_true, beq_iff_eq] at hclose
        obtain ⟨⟨rfl, -⟩, hstop⟩ := hclose
        obtain rfl := Stop.eq_brace hstop
        cases h
        exact ⟨a, .refl a, hd, rfl⟩
      · split at h
        · rename_i next hconstruct
          obtain ⟨c, hrest, hends⟩ := ih.code h
          exact ⟨c, (ih.construct hd hconstruct).trans hrest, hends⟩
        · cases h

/-- Of the angle brackets only those of elements are not copied. -/
theorem angle_succ (hno : s.dialect.hasTypes = false) (hd : s.charAt? a.pos = some '<')
    (h : Source.angle s (fuel + 1) a = .ok b) : Rewrites s a b := by
  rw [Source.angle] at h
  simp only [hno, Bool.false_and, Bool.false_eq_true, if_false] at h
  split at h
  · obtain ⟨⟨text, pos⟩, helement, rfl⟩ := exists_of_map_eq_ok h
    exact .element hd helement rfl
  · cases h
    exact .single hd rfl rfl

theorem openParen_succ (hno : s.dialect.hasTypes = false) (hd : s.charAt? a.pos = some '(')
    (h : Source.openParen s (fuel + 1) a = .ok b) : Rewrites s a b := by
  rw [Source.openParen] at h
  simp only [hno, Bool.false_eq_true, if_false] at h
  cases h
  exact .single hd rfl rfl

/-- A template and the code in it. -/
theorem template_succ (ih : Rewriting s fuel)
    (h : Source.template s (fuel + 1) start a = .ok b) : Rewrites s a b := by
  rw [Source.template] at h
  split at h
  · cases h
  · rename_i d hd
    have hfirst : Rewrites s a (a.copyBlank d) := .single hd rfl rfl
    dsimp only at h
    split at h
    · split at h
      · rename_i e he
        exact hfirst.trans (.trans (.single he rfl rfl) (ih.template h))
      · exact hfirst.trans (ih.template h)
    · split at h
      · cases h
        exact hfirst
      · split at h
        · rename_i hopens
          simp only [Bool.and_eq_true, beq_iff_eq] at hopens
          split at h
          · rename_i inner hinner
            obtain ⟨c, hcode, hclose, rfl⟩ := ih.code hinner
            have hbrace : Rewrites s (a.copyBlank d)
                { (a.copyBlank d).copyBlank '{' with previous := .start } := .single hopens.2 rfl rfl
            have hend : Rewrites s c
                { { c with pos := c.pos + 1 }.write ['}'] with previous := a.previous } :=
              .single hclose rfl rfl
            exact hfirst.trans (hbrace.trans (hcode.trans (hend.trans (ih.template h))))
          · cases h
        · exact hfirst.trans (ih.template h)

/-- What a construct is made of stands there as it was. -/
theorem construct_succ (hno : s.dialect.hasTypes = false) (ih : Rewriting s fuel)
    (hd : s.charAt? a.pos = some d) (h : Source.construct s (fuel + 1) d a = .ok b) :
    Rewrites s a b := by
  rw [Source.construct] at h
  by_cases hline : (d == '/' && s.charAt? (a.pos + 1) == some '/') = true
  · rw [if_pos hline] at h
    cases h
    exact .lineComment (Nat.le_of_lt (lt_size_of_charAt? hd))
  rw [if_neg hline] at h
  by_cases hblock : (d == '/' && s.charAt? (a.pos + 1) == some '*') = true
  · rw [if_pos hblock] at h
    exact .blockComment h
  rw [if_neg hblock] at h
  by_cases hquote : (d == '\'' || d == '"') = true
  · rw [if_pos hquote] at h
    exact .string h
  rw [if_neg hquote] at h
  by_cases htemplate : (d == '\x60') = true
  · rw [if_pos htemplate] at h
    obtain ⟨c, hc, rfl⟩ := exists_of_map_eq_ok h
    have hfirst : Rewrites s a (a.copyBlank d) := .single hd rfl rfl
    exact .trans (c := { c with previous := .value }) hfirst (ih.template hc :)
  rw [if_neg htemplate] at h
  by_cases hbrace : (d == '{' || d == '}') = true
  · rw [if_pos hbrace] at h
    cases h
    exact .single hd rfl rfl
  rw [if_neg hbrace] at h
  by_cases hangle : (d == '<') = true
  · rw [if_pos hangle] at h
    rw [eq_of_beq hangle] at hd
    exact ih.angle hd h
  rw [if_neg hangle] at h
  by_cases hslash : (d == '/') = true
  · rw [if_pos hslash] at h
    rw [eq_of_beq hslash] at hd
    exact .slash hd h
  rw [if_neg hslash] at h
  by_cases hparen : (d == '(') = true
  · rw [if_pos hparen] at h
    rw [eq_of_beq hparen] at hd
    exact ih.openParen hd h
  rw [if_neg hparen] at h
  -- without types a mark asserts nothing
  have hassert : ¬(d == '!' && s.assertsValue a) = true := by simp [assertsValue, hno]
  rw [if_neg hassert] at h
  by_cases hdot : (d == '.' && (s.charAt? (a.pos + 1)).any Char.isDigit) = true
  · rw [if_pos hdot] at h
    cases h
    exact .number a
  rw [if_neg hdot] at h
  by_cases hname : isNameStart d = true
  · rw [if_pos hname] at h
    exact .word hno h
  rw [if_neg hname] at h
  by_cases hdigit : d.isDigit = true
  · rw [if_pos hdigit] at h
    cases h
    exact .number a
  rw [if_neg hdigit] at h
  by_cases hspace : Text.isSpace d = true
  · rw [if_pos hspace] at h
    cases h
    exact .single hd rfl rfl
  rw [if_neg hspace] at h
  by_cases hvalue : (decide (d.toNat ≥ 128) || d == ')' || d == ']') = true
  · rw [if_pos hvalue] at h
    cases h
    exact .single hd rfl rfl
  · rw [if_neg hvalue] at h
    cases h
    exact .single hd rfl rfl

theorem succ (hno : s.dialect.hasTypes = false) (ih : Rewriting s fuel) :
    Rewriting s (fuel + 1) where
  code := ih.code_succ
  construct := ih.construct_succ hno
  angle := angle_succ hno
  openParen := openParen_succ hno
  template := ih.template_succ

theorem all (hno : s.dialect.hasTypes = false) (fuel : Nat) : Rewriting s fuel := by
  induction fuel with
  | zero => exact zero s
  | succ fuel ih => exact ih.succ hno

end Rewriting

/-! ## The whole source -/

/-- A source with elements replaced by the calls for them. -/
def IsSourceButElements (s : Listing) (text : List Char) : Prop :=
  ∃ rs, InOrder 0 s.chars.size rs ∧ (∀ r ∈ rs, r.IsElement s) ∧
    text = replaced s.chars 0 s.chars.size rs

theorem Rewrites.isSourceButElements (h : Rewrites s {} b) (hend : s.charAt? b.pos = none) :
    IsSourceButElements s b.written.reverse := by
  obtain ⟨rs, horder, hrs, hwritten⟩ := h
  refine ⟨rs, horder.to_size (Nat.zero_le _) fun r hr => (hrs r hr).le_size, hrs, ?_⟩
  rw [hwritten, ← replaced_of_size_le (Array.getElem?_eq_none_iff.mp hend)]
  simp

/-- Every range begins with an angle bracket; without one the source stays. -/
theorem IsSourceButElements.eq_of_notMem {text : List Char} (h : IsSourceButElements s text)
    (hno : '<' ∉ s.chars.toList) : text = s.chars.toList := by
  obtain ⟨rs, -, hrs, rfl⟩ := h
  cases rs with
  | nil => rw [replaced, slice_eq]; simp [List.take_of_length_le]
  | cons r rs =>
    have hopens := (hrs r (List.mem_cons_self ..)).opens
    exact absurd (Array.mem_toList_iff.mpr (Array.mem_of_getElem? hopens)) hno

/-- Without types, lowering replaces the ranges of elements by the calls for them and copies all
the rest; where no angle bracket stands that is the whole source. -/
theorem lower_replaced {source text : String} {dialect : Dialect}
    (hno : dialect = .jsx ∨ dialect = .js) (h : lower source dialect = .ok text) :
    IsSourceButElements ⟨source.toList.toArray, dialect⟩ text.toList ∧
      ('<' ∉ source.toList → text = source) := by
  have htypes : dialect.hasTypes = false := by rcases hno with rfl | rfl <;> rfl
  unfold lower at h
  dsimp only at h
  split at h
  · rename_i b hcode
    cases h
    obtain ⟨c, hrewrites, hend, rfl⟩ :=
      (Rewriting.all (s := ⟨source.toList.toArray, dialect⟩) htypes _).code hcode
    have hsource := hrewrites.isSourceButElements hend
    refine ⟨by simpa using hsource, fun hangle => ?_⟩
    rw [hsource.eq_of_notMem hangle, String.ofList_toList]
  · cases h

/-- A comparison and a regular expression are copied, with the template around an element. -/
theorem lower_replaced_template :
    ∃ text, lower "a < b && /<b>/ && \x60$\x7b<b/>\x7d\x60" .jsx = .ok text ∧
      IsSourceButElements ⟨"a < b && /<b>/ && \x60$\x7b<b/>\x7d\x60".toList.toArray, .jsx⟩
        text.toList ∧
      text = "a < b && /<b>/ && \x60$\x7bReact.createElement(\"b\", null)\x7d\x60" := by
  have htext : (lower "a < b && /<b>/ && \x60$\x7b<b/>\x7d\x60" .jsx).toOption =
      some "a < b && /<b>/ && \x60$\x7bReact.createElement(\"b\", null)\x7d\x60" := by decide +kernel
  cases h : lower "a < b && /<b>/ && \x60$\x7b<b/>\x7d\x60" .jsx with
  | error e => rw [h] at htext; cases htext
  | ok text =>
    rw [h] at htext
    cases htext
    exact ⟨_, rfl, (lower_replaced (.inl rfl) h).1, rfl⟩

end Source
end Restyle
