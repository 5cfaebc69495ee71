import Restyle.Proofs.Source.CallText
import Restyle.Proofs.Source.Elements

/-!
# Restyle.Proofs.Source.TokensRead

Lowering and the reader of what it writes, side by side. Before each construct the reader stands in
code, at the end of a token, and agrees with the cursor on whether an expression begins; or it stands
in a line comment that ends here (`Stands`). Every construct that lowering copies takes the reader
from one such place to the next (`TokenReads`).
-/

namespace Restyle
namespace Source

open Scan Listing ScriptState

variable {s : Listing} {i j fuel : Nat} {c d e : Char} {t p : List Char} {a b : Cursor}
  {k r : ScriptState} {counted : Bool}

/-! ## Ends of tokens -/

/-- The characters with the property `White_Space`. -/
def blankChars : List Char :=
  [9, 10, 11, 12, 13, 32, 0x85, 0xA0, 0x1680, 0x2000, 0x2001, 0x2002, 0x2003, 0x2004, 0x2005, 0x2006,
    0x2007, 0x2008, 0x2009, 0x200A, 0x2028, 0x2029, 0x202F, 0x205F, 0x3000].map Char.ofNat

theorem mem_blankChars (h : Text.isBlank c = true) : c ∈ blankChars := by
  refine List.mem_map.mpr ⟨c.toNat, ?_, Char.ofNat_toNat c⟩
  simp only [Text.isBlank, Bool.or_eq_true, Bool.and_eq_true, decide_eq_true_eq, beq_iff_eq] at h
  simp only [List.mem_cons, List.not_mem_nil, or_false]
  omega

theorem isBlank_of_class {p : Char → Bool} (hp : blankChars.all (!p ·) = true) (hc : p c = true) :
    Text.isBlank c = false :=
  Bool.eq_false_iff.mpr fun hblank => not_mem_of_class hp hc (mem_blankChars hblank)

/-- The text has a last character, and that is no blank. -/
def EndsFull (t : List Char) : Prop := ∃ front last, t = front ++ [last] ∧ Text.isBlank last = false

theorem EndsFull.single (hc : Text.isBlank c = false) : EndsFull [c] := ⟨[], c, rfl, hc⟩

theorem EndsFull.append (ht : EndsFull t) (p : List Char) : EndsFull (p ++ t) := by
  obtain ⟨front, last, rfl, hlast⟩ := ht
  exact ⟨p ++ front, last, by simp, hlast⟩

theorem EndsFull.of_forall (hne : t ≠ []) (ht : ∀ c ∈ t, Text.isBlank c = false) : EndsFull t :=
  ⟨t.dropLast, t.getLast hne, (List.dropLast_concat_getLast hne).symm, ht _ (List.getLast_mem hne)⟩

theorem EndsFull.slice (hij : i < j) (hc : s.charAt? (j - 1) = some c)
    (hblank : Text.isBlank c = false) : EndsFull (slice s.chars i j) := by
  have hj : j - 1 + 1 = j := by omega
  rw [← slice_append s.chars (j := j - 1) (by omega) (by omega)]
  refine .append ?_ _
  have hsingle := slice_single hc
  rw [hj] at hsingle
  rw [hsingle]
  exact .single hblank

/-- The class ends where it is no longer skipped. -/
theorem eq_false_of_charAt?_skip {p : Char → Bool} (h : s.charAt? (skip p s.chars i) = some c) :
    p c = false := by
  have hstop := List.head?_dropWhile_not p (s.tail i)
  rw [charAt?_skip] at h
  rwa [h] at hstop

theorem charAt?_of_stringEndFrom? {mark : Char} (h : stringEndFrom? mark s.chars i = some j) :
    s.charAt? (j - 1) = some mark := by
  generalize hcs : s.chars = cs at h
  fun_induction stringEndFrom? mark cs i with
  | case1 _ _ _ ih => exact ih h
  | case2 => cases h
  | case3 i hi _ _ hmark =>
    subst hcs
    cases h
    rw [← eq_of_beq hmark]
    exact Array.getElem?_eq_getElem hi
  | case4 _ _ _ _ _ ih => exact ih h
  | case5 => cases h

theorem charAt?_of_commentEnd? (h : commentEnd? s.chars i = some j) :
    s.charAt? (j - 1) = some '/' := by
  generalize hcs : s.chars = cs at h
  fun_induction commentEnd? cs i with
  | case1 i hlt hend =>
    subst hcs
    cases h
    simp only [startsAt, Bool.and_eq_true, beq_iff_eq] at hend
    exact hend.2.1
  | case2 _ _ _ ih => exact ih h
  | case3 => cases h

/-- A regular expression ends with a slash or with the last one of its flags. -/
theorem regexEnd?_spec {inClass : Bool} (h : regexEnd? s.chars inClass i = some j) :
    i < j ∧ (∃ c, s.charAt? (j - 1) = some c ∧ Text.isBlank c = false) ∧
      ∀ e, s.charAt? j = some e → isNamePart e = false := by
  generalize hcs : s.chars = cs at h
  fun_induction regexEnd? cs inClass i with
  | case1 => cases h
  | case2 _ _ _ _ _ ih => exact ⟨by have := ih h; omega, (ih h).2⟩
  | case3 _ _ _ _ _ _ ih => exact ⟨by have := ih h; omega, (ih h).2⟩
  | case4 _ _ _ _ _ _ _ ih => exact ⟨by have := ih h; omega, (ih h).2⟩
  | case5 inClass i hi _ _ _ _ hend =>
    subst hcs
    cases h
    have hle := le_nameEnd s.chars (i + 1)
    refine ⟨by omega, ?_, fun e he => eq_false_of_charAt?_skip he⟩
    by_cases heq : nameEnd s.chars (i + 1) = i + 1
    · rw [heq]
      simp only [Bool.and_eq_true, beq_iff_eq] at hend
      exact ⟨'/', by rw [← hend.1]; exact Array.getElem?_eq_getElem hi, by decide⟩
    · have hsize : nameEnd s.chars (i + 1) ≤ s.chars.size := skip_le_size hi
      have hflags : Holds s isNamePart (i + 1) (nameEnd s.chars (i + 1)) := .skip isNamePart (i + 1)
      generalize nameEnd s.chars (i + 1) = j at hle heq hsize hflags ⊢
      have hlast : s.charAt? (j - 1) = some s.chars[j - 1] := Array.getElem?_eq_getElem (by omega)
      exact ⟨_, hlast, isBlank_of_class (by decide) (hflags _ _ (by omega) (by omega) hlast)⟩
  | case6 _ _ _ _ _ _ _ _ ih => exact ⟨by have := ih h; omega, (ih h).2⟩
  | case7 => cases h

/-! ## The reader at a cursor -/

/-- Having read what was written, the reader stands where the cursor does, in the code of `k`. -/
structure Stands (s : Listing) (k : ScriptState) (c : Cursor) (r : ScriptState) : Prop where
  inside : k.inside = .code
  starts : k.starts = c.previous.startsExpression
  reads : (r.Settles k ∧ ∀ d, s.charAt? c.pos = some d → r.inside.continues d = false) ∨
    (r = { k with inside := .lineComment } ∧ ∀ d, s.charAt? c.pos = some d → d = '\n')

/-- The code after a construct that begins with a character. -/
def ScriptState.past (k : ScriptState) (d : Char) (starts : Bool) : ScriptState :=
  { k with depth := braceDepth k.depth d, opened := bracket k.opened d, starts }

theorem ScriptState.past_of_class {p : Char → Bool} {starts : Bool}
    (hp : ['(', ')', '[', ']', '{', '}'].all (!p ·) = true) (hd : p d = true) :
    k.past d starts = { k with starts } := by
  have hnot := not_mem_of_class hp hd
  simp only [List.mem_cons, List.not_mem_nil, or_false, not_or] at hnot
  simp [past, braceDepth, bracket, isOpening, isClosing, hnot]

theorem Stands.settles (h : Stands s k a r) (hd : s.charAt? a.pos = some d) (hline : d ≠ '\n') :
    r.Settles k ∧ r.inside.continues d = false := by
  obtain ⟨hsettles, hcontinues⟩ | ⟨-, hend⟩ := h.reads
  · exact ⟨hsettles, hcontinues d hd⟩
  · exact absurd (hend d hd) hline

/-- What begins a token is read from the code around it. -/
theorem Stands.read (h : Stands s k a r) (hd : s.charAt? a.pos = some d) (hline : d ≠ '\n')
    (t : List Char) : r.read (d :: t) = k.read (d :: t) :=
  (h.settles hd hline).1.read (h.settles hd hline).2 t

/-- What a construct writes: a blank as it is, a comment to the end of its line, or a text that ends
with no blank. -/
structure Piece (s : Listing) (i : Nat) (d : Char) (p : List Char) : Prop where
  blank : Text.isBlank d = true → p = [d]
  comment : startsAt s.chars i ['/', '/'] = true → ∃ q, p = '/' :: '/' :: q ∧ '\n' ∉ q
  full : Text.isBlank d = false → startsAt s.chars i ['/', '/'] = false → EndsFull p

/-- A construct takes the reader from where it begins to where it ends. -/
def TokenReads (s : Listing) (counted : Bool) (d : Char) (a b : Cursor) : Prop :=
  ∃ p, b.written = p.reverse ++ a.written ∧ Piece s a.pos d p ∧
    ∀ r k, Stands s k a r → Counts counted k.opened → (d = '}' → k.outer = [] ∨ 0 < k.depth) →
      Stands s (k.past d b.previous.startsExpression) b (r.read p) ∧
        (startsAt s.chars a.pos ['/', '/'] = false →
          (r.read p).Settles (k.past d b.previous.startsExpression))

/-- What is no slash begins no comment. -/
theorem startsAt_of_ne (hd : s.charAt? i = some d) (hne : d ≠ '/') :
    startsAt s.chars i ['/', '/'] = false := by
  simp [startsAt, show s.chars[i]? = some d from hd, hne]

namespace TokenReads

/-- A token other than a comment that is read from code. -/
theorem token (hd : s.charAt? a.pos = some d) (hblank : Text.isBlank d = false)
    (hcomment : startsAt s.chars a.pos ['/', '/'] = false)
    (hwritten : b.written = (d :: t).reverse ++ a.written) (hfull : EndsFull (d :: t))
    (hread : ∀ k : ScriptState, k.inside = .code → k.starts = a.previous.startsExpression →
      Counts counted k.opened →
      (k.read (d :: t)).Settles (k.past d b.previous.startsExpression) ∧
        ∀ e, s.charAt? b.pos = some e → (k.read (d :: t)).inside.continues e = false) :
    TokenReads s counted d a b := by
  have hline : d ≠ '\n' := by
    rintro rfl
    cases hblank
  refine ⟨d :: t, hwritten, ⟨?_, ?_, fun _ _ => hfull⟩, ?_⟩
  · intro h
    rw [hblank] at h
    cases h
  · intro h
    rw [hcomment] at h
    cases h
  · intro r k hstands hcounts _
    obtain ⟨hsettles, hends⟩ := hread k hstands.inside hstands.starts hcounts
    rw [hstands.read hd hline]
    exact ⟨⟨hsettles.inside, rfl, .inl ⟨hsettles, hends⟩⟩, fun _ => hsettles⟩

/-- A single character that is read from code. -/
theorem mark (hd : s.charAt? a.pos = some d) (hline : d ≠ '\n')
    (hcomment : startsAt s.chars a.pos ['/', '/'] = false)
    (hwritten : b.written = d :: a.written)
    (hread : ∀ k : ScriptState, k.inside = .code → k.starts = a.previous.startsExpression →
      (d = '}' → k.outer = [] ∨ 0 < k.depth) →
      (k.inCode d).Settles (k.past d b.previous.startsExpression) ∧
        ∀ e, s.charAt? b.pos = some e → (k.inCode d).inside.continues e = false) :
    TokenReads s counted d a b := by
  refine ⟨[d], hwritten, ⟨fun _ => rfl, ?_, fun hblank _ => .single hblank⟩, ?_⟩
  · intro h
    rw [hcomment] at h
    cases h
  · intro r k hstands _ hbrace
    obtain ⟨hsettles, hends⟩ := hread k hstands.inside hstands.starts hbrace
    rw [hstands.read hd hline, read_cons, step_code hstands.inside, read_nil]
    exact ⟨⟨hsettles.inside, rfl, .inl ⟨hsettles, hends⟩⟩, fun _ => hsettles⟩

/-- White space, where a line comment may end. -/
theorem space (hd : s.charAt? a.pos = some d) (hspace : Text.isSpace d = true)
    (hwritten : b.written = d :: a.written) (hprevious : b.previous = a.previous) :
    TokenReads s counted d a b := by
  have hslash : startsAt s.chars a.pos ['/', '/'] = false := by
    have hne : d ≠ '/' := by rintro rfl; cases hspace
    simp [startsAt, show s.chars[a.pos]? = some d from hd, hne]
  refine ⟨[d], hwritten, ⟨fun _ => rfl, ?_, ?_⟩, ?_⟩
  · intro h
    rw [hslash] at h
    cases h
  · intro h
    rw [Text.isBlank_of_isSpace hspace] at h
    cases h
  · intro r k hstands _ _
    have hpast : k.past d b.previous.startsExpression = k := by
      rw [hprevious, ← hstands.starts]
      simp only [Text.isSpace, Bool.or_eq_true, beq_iff_eq] at hspace
      obtain (((rfl | rfl) | rfl) | rfl) | rfl := hspace <;> rfl
    have hread : r.read [d] = k := by
      obtain ⟨hsettles, hcontinues⟩ | ⟨rfl, hend⟩ := hstands.reads
      · rw [hsettles.read (hcontinues d hd), read_cons, step_code hstands.inside, inCode,
          if_pos hspace, read_nil]
      · obtain rfl := hend d hd
        obtain ⟨inside, starts, depth, outer, opened⟩ := k
        obtain rfl : inside = .code := hstands.inside
        rfl
    rw [hpast, hread]
    have hcode := hstands.inside
    refine ⟨⟨hcode, by rw [hprevious, hstands.starts], .inl ⟨.of_code hcode, ?_⟩⟩, fun _ => .of_code hcode⟩
    intro e _
    rw [hcode]
    rfl

theorem lineEnd_eq_skip {cs : Chars} (h : i ≤ cs.size) :
    lineEnd cs i = skip (· != '\n') cs i := by
  unfold lineEnd
  fun_induction find? '\n' cs i with
  | case1 i hi hline =>
    rw [skip, dif_pos hi, if_neg (by simpa using hline)]
    rfl
  | case2 i hi hline ih =>
    rw [skip, dif_pos hi, if_pos (by simpa using hline)]
    exact ih hi
  | case3 i hi =>
    rw [skip, dif_neg hi, Option.getD_none]
    omega

theorem lineComment (hd : s.charAt? a.pos = some '/') (hnext : s.charAt? (a.pos + 1) = some '/') :
    TokenReads s counted '/' a (a.lineComment s) := by
  have hend : lineEnd s.chars a.pos = skip (· != '\n') s.chars a.pos :=
    lineEnd_eq_skip (Nat.le_of_lt (lt_size_of_charAt? hd))
  let q := (s.tail (a.pos + 2)).takeWhile (· != '\n')
  have hq : '\n' ∉ q := fun hmem => absurd (List.all_eq_true.mp List.all_takeWhile _ hmem) (by decide)
  have htext : slice s.chars a.pos (lineEnd s.chars a.pos) = '/' :: '/' :: q := by
    rw [hend, slice_skip, tail_eq_cons hd, tail_eq_cons hnext]
    rfl
  have hcomment : startsAt s.chars a.pos ['/', '/'] = true := by
    rw [startsAt_eq, tail_eq_cons hd, tail_eq_cons hnext]
    rfl
  refine ⟨'/' :: '/' :: q, ?_, ⟨?_, fun _ => ⟨q, rfl, hq⟩, ?_⟩, ?_⟩
  · rw [← htext]
    rfl
  · intro h
    cases h
  · intro _ h
    rw [hcomment] at h
    cases h
  · intro r k hstands _ _
    have hpast : k.past '/' a.previous.startsExpression = k := by
      rw [← hstands.starts]
      rfl
    rw [hstands.read hd (by decide), read_lineComment hstands.inside hq]
    refine ⟨⟨?_, rfl, .inr ⟨?_, ?_⟩⟩, ?_⟩
    · exact hstands.inside
    · rw [show (a.lineComment s).previous = a.previous from rfl, hpast]
    · intro d hnext
      rw [show (a.lineComment s).pos = lineEnd s.chars a.pos from rfl, hend] at hnext
      simpa using eq_false_of_charAt?_skip hnext
    · intro h
      rw [hcomment] at h
      cases h

theorem blockComment (hd : s.charAt? a.pos = some '/') (hnext : s.charAt? (a.pos + 1) = some '*')
    (h : a.blockComment s = .ok b) : TokenReads s counted '/' a b := by
  unfold Cursor.blockComment at h
  split at h
  · rename_i stop hstop
    cases h
    have hlt := lt_commentEnd? hstop
    have htext : slice s.chars a.pos stop = '/' :: '*' :: slice s.chars (a.pos + 2) stop := by
      rw [slice_cons hd (by omega), slice_cons hnext (by omega)]
    refine .token (t := '*' :: slice s.chars (a.pos + 2) stop) hd rfl ?_ ?_ ?_ ?_
    · simp [startsAt, show s.chars[a.pos + 1]? = some '*' from hnext]
    · rw [← htext]
      rfl
    · rw [← htext]
      exact .slice (by omega) (charAt?_of_commentEnd? hstop) rfl
    · intro k hk hstarts _
      have hopen : (k.step '/').step '*' = { k with inside := .blockComment } := by
        rw [step_code hk]
        cases hexpression : k.starts <;> simp [inCode, hexpression, step, Text.isSpace]
      have hpast : k.past '/' a.previous.startsExpression = k := by
        rw [← hstarts]
        rfl
      have hread : k.read ('/' :: '*' :: slice s.chars (a.pos + 2) stop) = k := by
        rw [read_cons, read_cons, hopen, read_commentEnd (.inl rfl) hstop, ← hk]
      rw [hread]
      refine ⟨?_, fun e _ => by rw [hk]; rfl⟩
      rw [show (a.copyTo s stop).previous = a.previous from rfl, hpast]
      exact .of_code hk
  · cases h

theorem string (hd : s.charAt? a.pos = some d) (hmark : d = '\'' ∨ d = '"')
    (h : a.string s = .ok b) : TokenReads s counted d a b := by
  unfold Cursor.string at h
  split at h
  · rename_i stop hstop
    cases h
    unfold stringEnd? at hstop
    rw [show s.chars[a.pos]? = some d from hd] at hstop
    have hlt := lt_of_stringEndFrom? hstop
    have htext : slice s.chars a.pos stop = d :: slice s.chars (a.pos + 1) stop :=
      slice_cons hd (by omega)
    have hblank : Text.isBlank d = false := by obtain rfl | rfl := hmark <;> rfl
    refine .token (t := slice s.chars (a.pos + 1) stop) hd hblank ?_ ?_ ?_ ?_
    · have hne : d ≠ '/' := by obtain rfl | rfl := hmark <;> decide
      simp [startsAt, show s.chars[a.pos]? = some d from hd, hne]
    · rw [← htext]
      rfl
    · rw [← htext]
      exact .slice (by omega) (charAt?_of_stringEndFrom? hstop) hblank
    · intro k hk _ _
      have hopen : k.step d = { k with inside := .string d } := by
        rw [step_code hk]
        obtain rfl | rfl := hmark <;> rfl
      have hpast : k.past d false = { k with inside := .code, starts := false } := by
        rw [← hk]
        obtain rfl | rfl := hmark <;> rfl
      have hsettles : Settles { k with inside := .code, starts := false } (k.past d false) := by
        rw [hpast]
        exact .of_code rfl
      rw [read_cons, hopen, read_stringEnd hstop]
      exact ⟨hsettles, fun e _ => rfl⟩
  · cases h

/-- A slash that begins no comment. -/
theorem slash (hd : s.charAt? a.pos = some '/') (hline : s.charAt? (a.pos + 1) ≠ some '/')
    (hstar : s.charAt? (a.pos + 1) ≠ some '*') (h : a.slash s = .ok b) :
    TokenReads s counted '/' a b := by
  have hcomment : startsAt s.chars a.pos ['/', '/'] = false := by
    simp only [startsAt, Bool.and_true, Bool.and_eq_false_iff, beq_eq_false_iff_ne]
    exact .inr hline
  unfold Cursor.slash at h
  split at h
  · rename_i hexpression
    split at h
    · rename_i stop hstop
      cases h
      obtain ⟨hlt, ⟨last, hlast, hblank⟩, hflag⟩ := regexEnd?_spec hstop
      obtain ⟨c, hfirst⟩ : ∃ c, s.charAt? (a.pos + 1) = some c :=
        ⟨_, Array.getElem?_eq_getElem (lt_size_of_regexEnd? hstop)⟩
      have htext : slice s.chars a.pos stop = '/' :: slice s.chars (a.pos + 1) stop :=
        slice_cons hd (by omega)
      refine .token (t := slice s.chars (a.pos + 1) stop) hd rfl hcomment ?_ ?_ ?_
      · rw [← htext]
        rfl
      · rw [← htext]
        exact .slice (by omega) hlast hblank
      · intro k hk hstarts _
        have hopen : k.step '/' = { k with inside := .slash } := by
          rw [step_code hk, inCode]
          simp [hstarts, hexpression, Text.isSpace]
        have hslash : c ≠ '/' := fun heq => hline (heq ▸ hfirst)
        have hno : c ≠ '*' := fun heq => hstar (heq ▸ hfirst)
        -- what is no comment is a regular expression from its first character on
        have hregex : step { k with inside := .slash } c =
            step { k with inside := .regex false } c := by
          simp [step, hslash, hno, inRegex]
        have hread : k.read ('/' :: slice s.chars (a.pos + 1) stop) = { k with inside := .flags } := by
          have hflags := read_regexEnd (k := k) hstop
          rw [slice_cons hfirst hlt, read_cons] at hflags
          rw [read_cons, hopen, slice_cons hfirst hlt, read_cons, hregex, hflags]
        have hsettles : Settles { k with inside := .flags } (k.past '/' false) := by
          obtain ⟨inside, starts, depth, outer, opened⟩ := k
          obtain rfl : inside = .code := hk
          exact ⟨rfl, rfl⟩
        rw [hread]
        exact ⟨hsettles, hflag⟩
    · cases h
  · rename_i hexpression
    cases h
    refine .mark hd (by decide) hcomment rfl fun k hk hstarts _ => ?_
    have hdivision : k.inCode '/' = { k with inside := .division } := by
      rw [inCode]
      simp [hstarts, hexpression, Text.isSpace]
    have hsettles : Settles { k with inside := .division } (k.past '/' true) := by
      obtain ⟨inside, starts, depth, outer, opened⟩ := k
      obtain rfl : inside = .code := hk
      exact ⟨rfl, rfl⟩
    rw [hdivision]
    refine ⟨hsettles, fun e he => ?_⟩
    have hne : e ≠ '/' ∧ e ≠ '*' := ⟨fun heq => hline (heq ▸ he), fun heq => hstar (heq ▸ he)⟩
    simp [Inside.continues, hne]

theorem number (hd : s.charAt? a.pos = some d)
    (h : d.isDigit = true ∨ d = '.' ∧ (s.charAt? (a.pos + 1)).any Char.isDigit = true) :
    TokenReads s counted d a (a.number s) := by
  have hblank : Text.isBlank d = false := by
    obtain hdigit | ⟨rfl, -⟩ := h
    · exact isBlank_of_class (by decide) hdigit
    · rfl
  have hne : d ≠ '/' := by
    rintro rfl
    obtain hdigit | ⟨heq, -⟩ := h
    · cases hdigit
    · cases heq
  let t := slice s.chars (a.pos + 1) (skip Cursor.isNumberPart s.chars (a.pos + 1))
  have ht : ∀ c ∈ t, Cursor.isNumberPart c = true := fun c hc => mem_slice_skip hc
  have htext : slice s.chars a.pos (skip Cursor.isNumberPart s.chars (a.pos + 1)) = d :: t :=
    slice_cons hd (le_skip ..)
  refine .token (t := t) hd hblank (startsAt_of_ne hd hne) ?_ ?_ fun k hk _ _ => ?_
  · rw [← htext]
    rfl
  · refine .of_forall (List.cons_ne_nil _ _) ?_
    rw [List.forall_mem_cons]
    exact ⟨hblank, fun c hc => isBlank_of_class (by decide) (ht c hc)⟩
  · have hread : ∃ starts, k.read (d :: t) = { k with inside := .number, starts } := by
      obtain hdigit | ⟨rfl, hnext⟩ := h
      · exact ⟨k.starts, by rw [read_cons, step_code hk, inCode_digit hdigit, read_number ht]⟩
      · -- the point and the digit after it
        obtain ⟨c, hc, hdigit⟩ := (Option.any_eq_true _ _).mp hnext
        have hpart : Cursor.isNumberPart c = true := by
          simp [Cursor.isNumberPart, Char.isAlphanum, hdigit]
        have hfirst : t = c :: (s.tail (a.pos + 1 + 1)).takeWhile Cursor.isNumberPart := by
          rw [show t = _ from slice_skip .., tail_eq_cons hc, List.takeWhile_cons_of_pos hpart]
        have hpoint : k.step '.' = { k with inside := .point } := step_code hk '.'
        have hnumber : step { k with inside := .point } c =
            { k with inside := .number, starts := true } := by
          rw [show step { k with inside := .point } c =
            inCode { k with inside := .code, starts := true } c from rfl, inCode_digit hdigit]
        refine ⟨true, ?_⟩
        rw [read_cons, hpoint, hfirst, read_cons, hnumber]
        exact read_number (k := { k with starts := true }) fun c hc =>
          List.all_eq_true.mp List.all_takeWhile c hc
    obtain ⟨starts, hread⟩ := hread
    have hsettles : Settles { k with inside := .number, starts } (k.past d false) := by
      have hpast : k.past d false = { k with inside := .code, starts := false } := by
        rw [← hk]
        obtain hdigit | ⟨rfl, -⟩ := h
        · rw [past_of_class (p := Char.isDigit) (by decide) hdigit]
        · rfl
      rw [hpast]
      exact ⟨rfl, rfl⟩
    rw [hread]
    exact ⟨hsettles, fun e he => eq_false_of_charAt?_skip he⟩

/-- Without types a word is copied. -/
theorem word (hno : s.dialect.hasTypes = false) (hd : s.charAt? a.pos = some d)
    (hname : isNameStart d = true) (h : a.word s = .ok b) : TokenReads s counted d a b := by
  unfold Cursor.word at h
  simp only [hno, Bool.not_false, if_true] at h
  cases h
  have hpart := isNamePart_of_isNameStart hname
  let t := slice s.chars (a.pos + 1) (nameEnd s.chars a.pos)
  have hend : nameEnd s.chars a.pos = nameEnd s.chars (a.pos + 1) := by
    obtain ⟨hlt, rfl⟩ := Array.getElem?_eq_some_iff.mp hd
    rw [nameEnd, skip, dif_pos hlt, if_pos hpart]
    rfl
  have ht : ∀ c ∈ t, isNamePart c = true := by
    intro c hc
    rw [show t = slice s.chars (a.pos + 1) (nameEnd s.chars (a.pos + 1)) by rw [← hend]] at hc
    exact mem_slice_skip hc
  have htext : slice s.chars a.pos (nameEnd s.chars a.pos) = d :: t := by
    refine slice_cons hd ?_
    rw [hend]
    exact le_nameEnd ..
  refine .token (t := t) hd (isBlank_of_class (by decide) hname)
    (startsAt_of_ne hd (ne_of_class rfl hname)) ?_ ?_ fun k hk _ _ => ?_
  · rw [← htext]
    rfl
  · refine .of_forall (List.cons_ne_nil _ _) ?_
    rw [List.forall_mem_cons]
    exact ⟨isBlank_of_class (by decide) hname, fun c hc => isBlank_of_class (by decide) (ht c hc)⟩
  · have hread : k.read (d :: t) = { k with inside := .word (d :: t) } := by
      rw [read_cons, step_code hk, inCode_nameStart hname]
      exact read_name [d] ht
    rw [hread, htext]
    refine ⟨⟨?_, hk⟩, fun e he => eq_false_of_charAt?_skip he⟩
    rw [past_of_class (p := isNameStart) (by decide) hname]
    simp [settle, Previous.startsExpression, hk]

/-- Braces, the only marks that count for where a template goes on. -/
theorem brace (hd : s.charAt? a.pos = some d) (hbrace : d = '{' ∨ d = '}') :
    TokenReads s counted d a (a.copyMark d (.mark d)) := by
  have hne : d ≠ '/' ∧ d ≠ '\n' := by obtain rfl | rfl := hbrace <;> decide
  refine .mark hd hne.2 (startsAt_of_ne hd hne.1) rfl fun k hk _ hdepth => ?_
  obtain ⟨inside, starts, depth, outer, opened⟩ := k
  obtain rfl : inside = .code := hk
  have hread : (ScriptState.mk .code starts depth outer opened).inCode d =
      (ScriptState.mk .code starts depth outer opened).past d (d != '}') := by
    obtain rfl | rfl := hbrace
    · rfl
    · obtain rfl | hpos := hdepth rfl
      · cases depth <;> rfl
      · cases depth with
        | zero => exact absurd hpos (Nat.lt_irrefl 0)
        | succ n => rfl
  rw [hread]
  exact ⟨.of_code rfl, fun e _ => rfl⟩

/-- Any other mark. -/
theorem other {previous : Previous} (hd : s.charAt? a.pos = some d)
    (hmark : d ∉ ['/', '\'', '"', '\x60', '{', '}']) (hname : isNameStart d = false)
    (hdigit : d.isDigit = false) (hspace : Text.isSpace d = false)
    (hprevious : previous.startsExpression =
      !(decide (d.toNat ≥ 128) || d == ')' || d == ']')) :
    TokenReads s counted d a (a.copyMark d previous) := by
  simp only [List.mem_cons, List.not_mem_nil, or_false, not_or] at hmark
  obtain ⟨hslash, hsingle, hdouble, htemplate, hopen, hclose⟩ := hmark
  have hline : d ≠ '\n' := by
    rintro rfl
    cases hspace
  refine .mark hd hline (startsAt_of_ne hd hslash) rfl fun k hk _ _ => ?_
  rw [show (a.copyMark d previous).previous.startsExpression = _ from hprevious]
  obtain ⟨inside, starts, depth, outer, opened⟩ := k
  obtain rfl : inside = .code := hk
  by_cases hpoint : d = '.'
  · subst hpoint
    exact ⟨⟨rfl, rfl⟩, fun e _ => rfl⟩
  · have hread : (ScriptState.mk .code starts depth outer opened).inCode d =
        (ScriptState.mk .code starts depth outer opened).past d
          (!(decide (d.toNat ≥ 128) || d == ')' || d == ']')) := by
      simp [inCode, past, braceDepth, hspace, hname, hdigit, hslash, hsingle, hdouble, htemplate,
        hopen, hclose, hpoint]
    rw [hread]
    exact ⟨.of_code rfl, fun e _ => rfl⟩

/-- A call in the place of an element. -/
theorem element (hd : s.charAt? a.pos = some '<') (hcall : IsCall counted t) (hfull : EndsFull t)
    (hwritten : b.written = t.reverse ++ a.written) (hprevious : b.previous = .value) :
    TokenReads s counted '<' a b := by
  refine ⟨t, hwritten, ⟨fun hblank => (by cases hblank), ?_, fun _ _ => hfull⟩, ?_⟩
  · intro h
    rw [startsAt_of_ne hd (by decide)] at h
    cases h
  · intro r k hstands hcounts _
    have hpast : { k with starts := false } = k.past '<' b.previous.startsExpression := by
      rw [hprevious]
      rfl
    rw [hcall r k (hstands.settles hd (by decide)).1.calm hcounts, hpast]
    have hcode : (k.past '<' b.previous.startsExpression).inside = .code := hstands.inside
    exact ⟨⟨hcode, rfl, .inl ⟨.of_code hcode, fun e _ => by rw [hcode]; rfl⟩⟩, fun _ => .of_code hcode⟩

end TokenReads

end Source
end Restyle
