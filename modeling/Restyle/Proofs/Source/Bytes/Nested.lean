import Restyle.Proofs.Source.Bytes.Types
import Restyle.Source.StyleLiteral
import Restyle.Source.Tags

/-!
# Restyle.Proofs.Source.Bytes.Nested

Searches that keep track of strings and brackets, over characters and over bytes. Three of them read
component source: for the end of a tag, for the end of a group in braces, and for a mark between the
pieces of a style object. They differ in what ends them and in what they count (`NestedSearch`), and
all three are regular: a string ends at an ASCII mark, and a backslash in it takes the next
character with it, or the next byte.

* `NestedSearch.find?_encode`: a regular search over the bytes of a text finds the offset of the
  place that it finds over the characters.
* `NestedSearch.cutAt?_drop`: that is the place at which the text is cut.
-/

namespace Restyle
namespace Source

open Scan Utf8

variable {cs : Chars} {n m : Nesting} {i j : Nat} {c d mark : Char}

/-! ## Texts from a position on -/

theorem drop_eq_cons (h : cs[i]? = some c) : cs.toList.drop i = c :: cs.toList.drop (i + 1) :=
  tail_eq_cons (s := ⟨cs, .js⟩) h

theorem drop_eq_nil (h : cs[i]? = none) : cs.toList.drop i = [] :=
  tail_eq_nil (s := ⟨cs, .js⟩) h (Nat.le_refl i)

theorem slice_eq_cons (h : cs[i]? = some c) (hij : i < j) : slice cs i j = c :: slice cs (i + 1) j := by
  rw [← slice_append cs (Nat.le_succ i) hij, slice_single (s := ⟨cs, .js⟩) h]
  rfl

/-! ## Searches -/

/-- A search that keeps track of nesting: what ends it, and what a character does to the nesting. -/
structure NestedSearch where
  stops : Nesting → Char → Bool
  step : Nesting → Char → Nesting

variable {r : NestedSearch}

namespace NestedSearch

/-- First place from `i` on that ends the search, and the nesting there. Behind a backslash in a
string one place is left out. -/
def find? (r : NestedSearch) (cs : Chars) (n : Nesting) (i : Nat) : Option (Nat × Nesting) :=
  if h : i < cs.size then
    if r.stops n cs[i] then some (i, n)
    else if (r.step n cs[i]).escaped then r.find? cs n (i + 2)
    else r.find? cs (r.step n cs[i]) (i + 1)
  else none
termination_by cs.size - i

/-- The text before the first character that ends the search, the nesting there, and the text after
the character. -/
def cutAt? (r : NestedSearch) (n : Nesting) :
    List Char → Option (List Char × Nesting × List Char)
  | [] => none
  | c :: cs =>
    if r.stops n c then some ([], n, cs)
    else (r.cutAt? (r.step n c) cs).map fun found => (c :: found.1, found.2)

/-- For the end of a tag. -/
def tagEnd : NestedSearch where
  stops n c := n.isTop && c == '>'
  step := Nesting.tag

/-- For the end of a group in braces. -/
def braceEnd : NestedSearch where
  stops n c := n.quote.isNone && c == '}' && n.depth ≤ 1
  step := Nesting.brace

/-- For a mark outside strings and brackets. -/
def marks (mark : Char) : NestedSearch where
  stops n c := n.isTop && c == mark
  step := Nesting.bracket

/-! ## Cuts -/

theorem cutTagEnd_eq (n : Nesting) (cs : List Char) :
    cutTagEnd n cs = (tagEnd.cutAt? n cs).map fun found => (found.1, found.2.2) := by
  induction cs generalizing n with
  | nil => rfl
  | cons c cs ih =>
    have hstops : tagEnd.stops n c = (n.isTop && c == '>') := rfl
    rw [cutTagEnd, cutAt?, hstops]
    split
    · rfl
    · rw [ih, Option.map_map, Option.map_map]
      rfl

theorem cutBraced_eq (n : Nesting) (cs : List Char) :
    cutBraced n cs = ((braceEnd.cutAt? n cs).map fun found => (found.1 ++ ['}'], found.2.2)).getD
      (cs, []) := by
  induction cs generalizing n with
  | nil => rfl
  | cons c cs ih =>
    have hstops : braceEnd.stops n c = (n.quote.isNone && c == '}' && n.depth ≤ 1) := rfl
    have hstep : braceEnd.step n c = n.brace c := rfl
    rw [cutBraced, cutAt?, hstops, hstep]
    split
    · rename_i hend
      simp only [Bool.and_eq_true, beq_iff_eq] at hend
      rw [hend.1.2]
      rfl
    · rw [ih]
      cases braceEnd.cutAt? (n.brace c) cs <;> rfl

theorem splitPieces_eq (mark : Char) (n : Nesting) (cs : List Char) :
    splitPieces mark n cs = (((marks mark).cutAt? n cs).map fun found =>
      found.1 :: splitPieces mark found.2.1 found.2.2).getD [cs] := by
  induction cs generalizing n with
  | nil => rfl
  | cons c cs ih =>
    have hstops : (marks mark).stops n c = (n.isTop && c == mark) := rfl
    have hstep : (marks mark).step n c = n.bracket c := rfl
    rw [splitPieces, cutAt?, hstops, hstep]
    split
    · rfl
    · rw [ih]
      cases (marks mark).cutAt? (n.bracket c) cs <;> rfl

end NestedSearch

/-! ## Regular searches -/

/-- No backslash waits for the character after it, and the mark of an open string is of ASCII. -/
structure Nesting.IsSteady (n : Nesting) : Prop where
  escaped : n.escaped = false
  quote : ∀ mark, n.quote = some mark → IsAscii mark

theorem Nesting.isSteady_start : Nesting.IsSteady {} := ⟨rfl, fun _ h => by cases h⟩

/-- Nothing ends the search in a string, and what is outside ASCII passes it by. A backslash in a
string leaves out the character after it and nothing else. -/
structure NestedSearch.IsRegular (r : NestedSearch) : Prop where
  outside : ∀ {n c}, r.stops n c = true → n.quote = none
  not_stops : ∀ {n c}, ¬ IsAscii c → r.stops n c = false
  passes : ∀ {n c}, n.IsSteady → ¬ IsAscii c → r.step n c = n
  isSteady : ∀ {n c}, n.IsSteady → (r.step n c).escaped = false → (r.step n c).IsSteady
  leaves_out : ∀ {n c}, n.IsSteady → (r.step n c).escaped = true →
    n.quote ≠ none ∧ (r.step n c).quote = n.quote ∧ ∀ d, r.step (r.step n c) d = n

theorem asciiClass_isQuote : AsciiClass Nesting.isQuote :=
  ((AsciiClass.beq (by decide)).or (.beq (by decide))).or (.beq (by decide))

/-! A string at its mark, at a backslash, and at any other character. -/

theorem Nesting.inString_of_not_isAscii {n : Nesting} {mark c : Char} (hn : n.escaped = false)
    (hmark : IsAscii mark) (hc : ¬ IsAscii c) : n.inString mark c = n := by
  rw [Nesting.inString, hn, beq_eq_false (by decide) hc, beq_eq_false hmark hc]
  rfl

theorem Nesting.inString_cases {n : Nesting} (hn : n.escaped = false) (mark c : Char) :
    n.inString mark c = { n with escaped := true } ∨ n.inString mark c = { n with quote := none } ∨
      n.inString mark c = n := by
  rw [Nesting.inString, hn]
  by_cases hslash : (c == '\\') = true
  · exact .inl (by simp [hslash])
  by_cases hmark : (c == mark) = true
  · exact .inr (.inl (by simp [hslash, hmark]))
  · exact .inr (.inr (by simp [hslash, hmark]))

namespace NestedSearch

/-- A search is regular if it reads strings character by character or only looks for their marks, and
outside of strings only counts brackets and opens strings. -/
theorem IsRegular.of_step {r : NestedSearch}
    (outside : ∀ {n c}, r.stops n c = true → n.quote = none)
    (not_stops : ∀ {n c}, ¬ IsAscii c → r.stops n c = false)
    (string : ∀ {n mark}, n.quote = some mark →
      (∀ e c, r.step { n with escaped := e } c = { n with escaped := e }.inString mark c) ∨
      (∀ c, r.step n c = if c == mark then { n with quote := none } else n))
    (code : ∀ {n c}, n.quote = none →
      (∃ depth, r.step n c = { n with depth }) ∨
        Nesting.isQuote c = true ∧ r.step n c = { n with quote := some c })
    (pass : ∀ {n c}, n.quote = none → ¬ IsAscii c → r.step n c = n) : r.IsRegular where
  outside := outside
  not_stops := not_stops
  passes {n c} hn hc := by
    cases hquote : n.quote with
    | none => exact pass hquote hc
    | some mark =>
      have hmark := hn.quote mark hquote
      obtain hread | hread := string hquote
      · rw [hread n.escaped c]
        exact Nesting.inString_of_not_isAscii hn.escaped hmark hc
      · rw [hread, beq_eq_false hmark hc]
        rfl
  isSteady {n c} hn h := by
    cases hquote : n.quote with
    | none =>
      obtain ⟨depth, hstep⟩ | ⟨hc, hstep⟩ := code (c := c) hquote
      · rw [hstep]
        exact ⟨hn.escaped, hn.quote⟩
      · rw [hstep]
        refine ⟨hn.escaped, fun mark hmark => ?_⟩
        obtain rfl := Option.some.inj hmark
        exact asciiClass_isQuote c hc
    | some mark =>
      have hclosed : Nesting.IsSteady { n with quote := none } := ⟨hn.escaped, fun _ h => by cases h⟩
      obtain hread | hread := string hquote
      · rw [hread n.escaped c] at h ⊢
        obtain hcase | hcase | hcase := Nesting.inString_cases hn.escaped mark c
        · rw [hcase] at h
          cases h
        · rw [hcase]
          exact hclosed
        · rw [hcase]
          exact hn
      · rw [hread]
        split
        · exact hclosed
        · exact hn
  leaves_out {n c} hn h := by
    cases hquote : n.quote with
    | none =>
      obtain ⟨depth, hstep⟩ | ⟨-, hstep⟩ := code (c := c) hquote
      · rw [hstep, hn.escaped] at h
        cases h
      · rw [hstep, hn.escaped] at h
        cases h
    | some mark =>
      obtain hread | hread := string hquote
      · obtain hcase | hcase | hcase := Nesting.inString_cases hn.escaped mark c
        · have hstep : r.step n c = { n with escaped := true } := (hread n.escaped c).trans hcase
          refine ⟨fun hnone => (by cases hnone), (by rw [hstep]; exact hquote), fun d => ?_⟩
          rw [hstep, hread, Nesting.inString, if_pos rfl, ← hn.escaped]
        · rw [hread n.escaped c, hcase, hn.escaped] at h
          cases h
        · rw [hread n.escaped c, hcase, hn.escaped] at h
          cases h
      · rw [hread] at h
        split at h
        · rw [hn.escaped] at h
          cases h
        · rw [hn.escaped] at h
          cases h

theorem isRegular_braceEnd : braceEnd.IsRegular := by
  refine .of_step ?_ ?_ ?_ ?_ ?_
  · intro n c h
    simp only [braceEnd, Bool.and_eq_true, Option.isNone_iff_eq_none] at h
    exact h.1.1
  · intro n c hc
    have hclose : (c == '}') = false := beq_eq_false (by decide) hc
    simp only [braceEnd, hclose, Bool.and_false, Bool.false_and]
  · intro n mark hquote
    refine .inl fun e c => ?_
    simp only [braceEnd, Nesting.brace, hquote]
  · intro n c hquote
    have hstep : braceEnd.step n c = if Nesting.isQuote c then { n with quote := some c }
        else if c == '{' then { n with depth := n.depth + 1 }
        else if c == '}' then { n with depth := n.depth - 1 } else n := by
      simp only [braceEnd, Nesting.brace, hquote]
    rw [hstep]
    split
    · rename_i hc
      exact .inr ⟨hc, rfl⟩
    · left
      split
      · exact ⟨_, rfl⟩
      split
      · exact ⟨_, rfl⟩
      · exact ⟨n.depth, rfl⟩
  · intro n c hquote hc
    have hopen : (c == '{') = false := beq_eq_false (by decide) hc
    have hclose : (c == '}') = false := beq_eq_false (by decide) hc
    simp only [braceEnd, Nesting.brace, hquote, asciiClass_isQuote.eq_false hc, hopen, hclose,
      Bool.false_eq_true, if_false]

theorem isRegular_marks (hmark : IsAscii mark) : (marks mark).IsRegular := by
  refine .of_step ?_ ?_ ?_ ?_ ?_
  · intro n c h
    simp only [marks, Nesting.isTop, Bool.and_eq_true, Option.isNone_iff_eq_none] at h
    exact h.1.1
  · intro n c hc
    simp only [marks, beq_eq_false hmark hc, Bool.and_false]
  · intro n mark hquote
    refine .inl fun e c => ?_
    simp only [marks, Nesting.bracket, hquote]
  · intro n c hquote
    have hstep : (marks mark).step n c = if Nesting.isQuote c then { n with quote := some c }
        else if c == '(' || c == '[' || c == '{' then { n with depth := n.depth + 1 }
        else if c == ')' || c == ']' || c == '}' then { n with depth := n.depth - 1 } else n := by
      simp only [marks, Nesting.bracket, hquote]
    rw [hstep]
    split
    · rename_i hc
      exact .inr ⟨hc, rfl⟩
    · left
      split
      · exact ⟨_, rfl⟩
      split
      · exact ⟨_, rfl⟩
      · exact ⟨n.depth, rfl⟩
  · intro n c hquote hc
    have hopen : (c == '(' || c == '[' || c == '{') = false := asciiClass_isOpening.eq_false hc
    have hclose : (c == ')' || c == ']' || c == '}') = false := asciiClass_isClosing.eq_false hc
    simp only [marks, Nesting.bracket, hquote, asciiClass_isQuote.eq_false hc, hopen, hclose,
      Bool.false_eq_true, if_false]

theorem isRegular_tagEnd : tagEnd.IsRegular := by
  refine .of_step ?_ ?_ ?_ ?_ ?_
  · intro n c h
    simp only [tagEnd, Nesting.isTop, Bool.and_eq_true, Option.isNone_iff_eq_none] at h
    exact h.1.1
  · intro n c hc
    have hangle : (c == '>') = false := beq_eq_false (by decide) hc
    simp only [tagEnd, hangle, Bool.and_false]
  · intro n mark hquote
    by_cases hdepth : n.depth > 0
    · refine .inl fun e c => ?_
      simp only [tagEnd, Nesting.tag, hquote, if_pos hdepth]
    · refine .inr fun c => ?_
      simp only [tagEnd, Nesting.tag, hquote, if_neg hdepth]
  · intro n c hquote
    have hstep : tagEnd.step n c = if c == '"' || c == '\'' then { n with quote := some c }
        else if c == '\x60' && n.depth > 0 then { n with quote := some c }
        else if c == '{' then { n with depth := n.depth + 1 }
        else if c == '}' then { n with depth := n.depth - 1 } else n := by
      simp only [tagEnd, Nesting.tag, hquote]
    rw [hstep]
    split
    · rename_i hc
      exact .inr ⟨by rw [Nesting.isQuote, hc, Bool.true_or], rfl⟩
    split
    · rename_i hc
      rw [Bool.and_eq_true] at hc
      exact .inr ⟨by rw [Nesting.isQuote, hc.1, Bool.or_true], rfl⟩
    · left
      split
      · exact ⟨_, rfl⟩
      split
      · exact ⟨_, rfl⟩
      · exact ⟨n.depth, rfl⟩
  · intro n c hquote hc
    have hquotes : (c == '"' || c == '\'') = false :=
      ((AsciiClass.beq (by decide)).or (.beq (by decide))).eq_false hc
    have hback : (c == '\x60') = false := beq_eq_false (by decide) hc
    have hopen : (c == '{') = false := beq_eq_false (by decide) hc
    have hclose : (c == '}') = false := beq_eq_false (by decide) hc
    simp only [tagEnd, Nesting.tag, hquote, hquotes, hback, hopen, hclose, Bool.false_and,
      Bool.false_eq_true, if_false]

/-! ## Over bytes and over characters -/

theorem find?_of_getElem? (h : cs[i]? = some c) :
    r.find? cs n i =
      if r.stops n c then some (i, n)
      else if (r.step n c).escaped then r.find? cs n (i + 2)
      else r.find? cs (r.step n c) (i + 1) := by
  obtain ⟨hlt, rfl⟩ := Array.getElem?_eq_some_iff.mp h
  rw [find?, dif_pos hlt]

theorem find?_of_none (h : cs[i]? = none) : r.find? cs n i = none := by
  rw [find?, dif_neg (Nat.not_lt.mpr (Array.getElem?_eq_none_iff.mp h))]

/-- A search ends at a character, and there its nesting is steady. -/
theorem find?_spec (hr : r.IsRegular) (hn : n.IsSteady) (h : r.find? cs n i = some (j, m)) :
    i ≤ j ∧ m.IsSteady ∧ ∃ c, cs[j]? = some c ∧ r.stops m c = true := by
  fun_induction find? r cs n i with
  | case1 n i hi hstop =>
    cases h
    exact ⟨Nat.le_refl _, hn, _, Array.getElem?_eq_getElem hi, hstop⟩
  | case2 n i hi hstop hescaped ih =>
    obtain ⟨hij, hspec⟩ := ih hn h
    exact ⟨Nat.le_trans (Nat.le_add_right i 2) hij, hspec⟩
  | case3 n i hi hstop hescaped ih =>
    obtain ⟨hij, hspec⟩ := ih (hr.isSteady hn (Bool.eq_false_iff.mpr hescaped)) h
    exact ⟨Nat.le_of_succ_le hij, hspec⟩
  | case4 => cases h

theorem passes_find? (hr : r.IsRegular) (hn : n.IsSteady) (cs : Chars) :
    Utf8.Passes cs (r.find? cs n) := by
  intro i c h hc
  rw [find?_of_getElem? h, hr.not_stops hc, hr.passes hn hc, hn.escaped]
  rfl

/-- Over the bytes of a text a search ends at the offset of the place at which it ends over the
characters, with the same nesting. -/
theorem find?_encode (hr : r.IsRegular) (hn : n.IsSteady) (cs : Chars) (i : Nat) :
    r.find? (encode cs) n (offset cs i) =
      (r.find? cs n i).map (Prod.map (offset cs) id) := by
  induction i using rest_induction cs generalizing n with
  | ended i h => rw [find?_of_none h, find?_of_none (encode_of_none h)]; rfl
  | ascii i c h hc ih =>
    have hnext := offset_succ_of_isAscii h hc
    -- the byte after a backslash may be the first of several
    have hskip : r.find? (encode cs) n (offset cs i + 2) =
        (r.find? cs n (i + 2)).map (Prod.map (offset cs) id) := by
      rw [← ih (i + 2) (by omega) hn, ← (passes_find? hr hn _).within (i + 1), hnext]
    rw [find?_of_getElem? h, find?_of_getElem? (encode_of_isAscii h hc), hskip, ← hnext]
    split
    · rfl
    split
    · rfl
    · rename_i hescaped
      exact ih (i + 1) (Nat.lt_succ_self i) (hr.isSteady hn (Bool.eq_false_iff.mpr hescaped))
  | other i c h hc ih =>
    rw [(passes_find? hr hn _).over h hc, passes_find? hr hn cs i c h hc, ih hn]

/-- A text is cut where the search over it ends. -/
theorem cutAt?_drop (hr : r.IsRegular) (hn : n.IsSteady) (cs : Chars) (i : Nat) :
    r.cutAt? n (cs.toList.drop i) = (r.find? cs n i).map fun found =>
      (slice cs i found.1, found.2, cs.toList.drop (found.1 + 1)) := by
  fun_induction find? r cs n i with
  | case1 n i hi hstop =>
    have hself : slice cs i i = [] := Encoded.slice_self cs i
    rw [drop_eq_cons (Array.getElem?_eq_getElem hi), cutAt?, if_pos hstop, Option.map_some, hself]
  | case2 n i hi hstop hescaped ih =>
    have hc := Array.getElem?_eq_getElem hi
    obtain ⟨hquote, hsame, hleft⟩ := hr.leaves_out hn hescaped
    rw [drop_eq_cons hc, cutAt?, if_neg hstop]
    cases hd : cs[i + 1]? with
    | none =>
      have hend : cs[i + 2]? = none := by
        rw [Array.getElem?_eq_none_iff] at hd ⊢
        omega
      rw [drop_eq_nil hd, find?_of_none hend]
      rfl
    | some d =>
      have hgoes : r.stops (r.step n cs[i]) d = false := by
        refine Bool.eq_false_iff.mpr fun hstops => hquote ?_
        rw [← hsame]
        exact hr.outside hstops
      rw [drop_eq_cons hd, cutAt?, hgoes, if_neg Bool.false_ne_true, hleft, ih hn]
      cases hfound : r.find? cs n (i + 2) with
      | none => rfl
      | some found =>
        have hle := (find?_spec hr hn hfound).1
        rw [Option.map_some, Option.map_some, Option.map_some, Option.map_some,
          slice_eq_cons hc (by omega), slice_eq_cons hd (by omega)]
  | case3 n i hi hstop hescaped ih =>
    have hc := Array.getElem?_eq_getElem hi
    have hnext := hr.isSteady hn (Bool.eq_false_iff.mpr hescaped)
    rw [drop_eq_cons hc, cutAt?, if_neg hstop, ih hnext]
    cases hfound : r.find? cs (r.step n cs[i]) (i + 1) with
    | none => rfl
    | some found =>
      have hle := (find?_spec hr hnext hfound).1
      rw [Option.map_some, Option.map_some, Option.map_some, slice_eq_cons hc (by omega)]
  | case4 n i hi =>
    have hend : cs[i]? = none := Array.getElem?_eq_none_iff.mpr (Nat.not_lt.mp hi)
    rw [drop_eq_nil hend]
    rfl

end NestedSearch
end Source
end Restyle
