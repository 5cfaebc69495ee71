import Mathlib
import Restyle.Proofs.Source.StaticMarkup
import Restyle.Source.Markup

/-!
# Restyle.Proofs.Source.ChildText

Text between tags against the rule for it: lines are cut at their breaks, trimmed where they
meet one, empty lines go, and the others are joined by single spaces. `cleanText` follows the
rule except that a text of nothing but spaces and tabs comes out one space longer, and that a
carriage return at the end of a line goes even where it is no part of the break.

The texts differ in those cases because no reference reaches over a space or a carriage return:
what `decode` makes of the text can be counted line by line.
-/

namespace Restyle
namespace Markup
namespace Entity

variable {c : Char} {name xs ys : List Char}

/-! ## References end at a space -/

theorem number?_eq_none {digit : Char → Bool} {value : List Char → Nat} (hc : c ≠ '+')
    (hdigit : digit c = false) (h : c ∈ xs) : number? digit value xs = none := by
  unfold number?
  dsimp only
  rw [if_neg]
  rw [Bool.and_eq_true, List.all_eq_true]
  rintro ⟨-, hall⟩
  split at hall
  · cases hdigit.symm.trans (hall c ((List.mem_cons.mp h).resolve_left hc))
  · cases hdigit.symm.trans (hall c h)

/-- A text with a space in it is no name. -/
theorem ofName?_eq_none (hc : Text.isSpace c = true) (h : c ∈ name) : ofName? name = none := by
  have hkinds : c = ' ' ∨ c = '\t' ∨ c = '\n' ∨ c = '\x0c' ∨ c = '\r' := by
    simpa [Text.isSpace, or_assoc] using hc
  have hplus : c ≠ '+' := by rintro rfl; cases hc
  have hhex : Text.isHexDigit c = false := by rcases hkinds with rfl | rfl | rfl | rfl | rfl <;> rfl
  have hdec : c.isDigit = false := by rcases hkinds with rfl | rfl | rfl | rfl | rfl <;> rfl
  have hmark : c ≠ '#' ∧ c ≠ 'x' ∧ c ≠ 'X' := by
    refine ⟨?_, ?_, ?_⟩ <;> (rintro rfl; cases hc)
  unfold ofName?
  split
  case h_7 => rw [number?_eq_none hplus hhex (by simpa [hmark] using h)]; rfl
  case h_8 => rw [number?_eq_none hplus hhex (by simpa [hmark] using h)]; rfl
  case h_9 => rw [number?_eq_none hplus hdec (by simpa [hmark] using h)]; rfl
  case h_10 => rfl
  all_goals rcases hkinds with rfl | rfl | rfl | rfl | rfl <;> simp at h

theorem reference?_append_cons (hc : Text.isSpace c = true) (xs ys : List Char) :
    reference? (xs ++ c :: ys) = (reference? xs).map fun (d, rest) => (d, rest ++ c :: ys) := by
  unfold reference?
  cases hdrop : xs.dropWhile (· != ';') with
  | nil =>
    have hxs : ∀ x ∈ xs, (x != ';') = true := by
      have hsplit := List.takeWhile_append_dropWhile (p := (· != ';')) (l := xs)
      rw [hdrop, List.append_nil] at hsplit
      rw [← hsplit]
      exact List.all_eq_true.mp List.all_takeWhile
    have hsemi : (c != ';') = true := by rw [bne_iff_ne]; rintro rfl; cases hc
    have hname : c ∈ (xs ++ c :: ys).takeWhile (· != ';') := by
      rw [List.takeWhile_append_of_pos hxs, List.takeWhile_cons, if_pos hsemi]
      exact List.mem_append_right _ (List.mem_cons_self ..)
    simp only [ofName?_eq_none hc hname, Option.map_none]
    split
    · rfl
    · exact ite_self _
  | cons x rest =>
    have hlong : (xs.takeWhile (· != ';')).length ≠ xs.length := by
      have hsplit := congrArg List.length (List.takeWhile_append_dropWhile (p := (· != ';')) (l := xs))
      rw [hdrop, List.length_append, List.length_cons] at hsplit
      omega
    rw [List.takeWhile_append, if_neg hlong, List.dropWhile_append, hdrop]
    simp only [List.isEmpty_cons, Bool.false_eq_true, if_false, List.cons_append]
    split
    · rw [Option.map_map]; rfl
    · rfl

/-- Spaces cut a text into pieces that are decoded one by one. -/
theorem decode_append_cons (hc : Text.isSpace c = true) (xs ys : List Char) :
    decode (xs ++ c :: ys) = decode xs ++ c :: decode ys := by
  have hamp : (c == '&') = false := by rw [beq_eq_false_iff_ne]; rintro rfl; cases hc
  fun_induction decode xs with
  | case1 => simp [decode, hamp]
  | case2 d rest hd e after hread hlt ih =>
    have hread' : reference? (rest ++ c :: ys) = some (e, after ++ c :: ys) := by
      rw [reference?_append_cons hc, hread]; rfl
    rw [List.cons_append, decode, if_pos hd]
    split
    · rename_i h
      cases hread'.symm.trans h
      rw [ih]
      rfl
    · rename_i h
      cases hread'.symm.trans h
  | case3 d rest hd hread ih =>
    have hread' : reference? (rest ++ c :: ys) = none := by
      rw [reference?_append_cons hc, hread]; rfl
    rw [List.cons_append, decode, if_pos hd]
    split
    · rename_i h
      cases hread'.symm.trans h
    · rw [ih]
      rfl
  | case4 d rest hd ih => rw [List.cons_append, decode, if_neg hd, ih]; rfl

end Entity
end Markup

namespace Source

variable {raw line x : List Char} {lines A B : List (List Char)}

/-! ## The rule -/

/-- The lines of a text. A line feed ends a line, alone or behind a carriage return. -/
def breakLines : List Char → List (List Char)
  | [] => [[]]
  | '\r' :: '\n' :: rest => [] :: breakLines rest
  | '\n' :: rest => [] :: breakLines rest
  | c :: rest =>
    match breakLines rest with
    | [] => [[c]]
    | line :: lines => (c :: line) :: lines

/-- A line with spaces for its tabs. -/
def untabbed (line : List Char) : List Char :=
  line.map fun c => if c == '\t' then ' ' else c

/-- Lines without the spaces where they meet a break: at the start of all but the first, at the
end of all but the last. -/
def strippedLines (first : Bool) : List (List Char) → List (List Char)
  | [] => []
  | line :: lines =>
    let line := if first then line else line.dropWhile (· == ' ')
    (if lines.isEmpty then line else Text.trimEndBy (· == ' ') line) :: strippedLines false lines

/-- Lines as one text: tabs are spaces, spaces at breaks and empty lines go. -/
def tidied (lines : List (List Char)) : List Char :=
  joined [' '] ((strippedLines true (lines.map untabbed)).filter (!·.isEmpty))

/-- Text between tags by the rule. -/
def ruleText (raw : List Char) : List Char :=
  Markup.Entity.decode (tidied (breakLines raw))

/-! ## Lines put together -/

/-- Does a line hold more than spaces and tabs? -/
def isFilled (line : List Char) : Bool :=
  line.any fun c => c != ' ' && c != '\t'

/-- A line as it counts at its place among `n` lines. -/
def cleanedAt (n : Nat) (p : List Char × Nat) : List Char :=
  cleanLine (p.2 == 0) (p.2 == n - 1) p.1

/-- The lines as `cleanText` puts them together, before references are decoded. -/
def glued (lines : List (List Char)) : List Char :=
  lines.zipIdx.flatMap fun p =>
    if (cleanedAt lines.length p).isEmpty then []
    else if lastFilled lines == some p.2 then cleanedAt lines.length p
    else cleanedAt lines.length p ++ [' ']

theorem cleanText_eq_decode (raw : List Char) :
    cleanText raw = Markup.Entity.decode (glued (textLines raw)) := rfl

theorem lastFilled_append (hx : isFilled x = true) (hB : ∀ line ∈ B, isFilled line = false) :
    lastFilled (A ++ x :: B) = some A.length := by
  have hfind : (A ++ x :: B).reverse.findIdx? isFilled = some B.length := by
    rw [List.reverse_append, List.reverse_cons, List.append_assoc, List.findIdx?_append]
    have hnone : B.reverse.findIdx? isFilled = none := by
      rw [List.findIdx?_eq_none_iff]
      intro line hline
      exact hB line (List.mem_reverse.mp hline)
    simp [hnone, List.findIdx?_cons, hx]
  unfold lastFilled
  show ((A ++ x :: B).reverse.findIdx? isFilled).map _ = _
  rw [hfind, Option.map_some, List.length_append, List.length_cons]
  congr 1
  omega

theorem lastFilled_eq_none (h : ∀ line ∈ lines, isFilled line = false) :
    lastFilled lines = none := by
  have hfind : lines.reverse.findIdx? isFilled = none := by
    rw [List.findIdx?_eq_none_iff]
    intro line hline
    exact h line (List.mem_reverse.mp hline)
  unfold lastFilled
  show (lines.reverse.findIdx? isFilled).map _ = _
  rw [hfind, Option.map_none]

theorem eq_space_of_mem_untabbed (h : isFilled line = false) {c : Char} (hc : c ∈ untabbed line) :
    c = ' ' := by
  obtain ⟨d, hd, rfl⟩ := List.mem_map.mp hc
  have := List.any_eq_false.mp h d hd
  by_cases hspace : d = ' ' <;> simp_all

theorem exists_mem_untabbed (h : isFilled line = true) : ∃ c ∈ untabbed line, c ≠ ' ' := by
  obtain ⟨c, hc, hcond⟩ := List.any_eq_true.mp h
  simp only [Bool.and_eq_true, bne_iff_ne] at hcond
  refine ⟨c, List.mem_map.mpr ⟨c, hc, ?_⟩, hcond.1⟩
  rw [if_neg (by simpa using hcond.2)]

theorem cleanLine_eq (first last : Bool) (line : List Char) :
    cleanLine first last line =
      let line := if first then untabbed line else (untabbed line).dropWhile (· == ' ')
      if last then line else Text.trimEndBy (· == ' ') line := rfl

theorem mem_dropWhile {p : Char → Bool} {cs : List Char} {c : Char} (hc : c ∈ cs)
    (h : p c = false) : c ∈ cs.dropWhile p := by
  rw [← List.takeWhile_append_dropWhile (p := p) (l := cs), List.mem_append] at hc
  refine hc.resolve_left fun hkept => ?_
  rw [List.all_eq_true.mp List.all_takeWhile c hkept] at h
  cases h

theorem trimEndBy_eq_nil {p : Char → Bool} {cs : List Char} (h : ∀ c ∈ cs, p c = true) :
    Text.trimEndBy p cs = [] := by
  rw [Text.trimEndBy, List.dropWhile_eq_nil_iff.mpr fun c hc => h c (List.mem_reverse.mp hc)]
  rfl

theorem mem_trimEndBy {p : Char → Bool} {cs : List Char} {c : Char} (hc : c ∈ cs)
    (h : p c = false) : c ∈ Text.trimEndBy p cs :=
  List.mem_reverse.mpr (mem_dropWhile (List.mem_reverse.mpr hc) h)

/-- A blank line that meets a break is nothing. -/
theorem cleanLine_eq_nil (h : isFilled line = false) {first last : Bool}
    (hbreak : first = false ∨ last = false) : cleanLine first last line = [] := by
  have hall : ∀ c ∈ untabbed line, (c == ' ') = true := fun c hc =>
    beq_iff_eq.mpr (eq_space_of_mem_untabbed h hc)
  have hdrop := List.dropWhile_eq_nil_iff.mpr hall
  rw [cleanLine_eq]
  cases first with
  | false => cases last <;> simp [hdrop, Text.trimEndBy]
  | true =>
    rw [hbreak.resolve_left (by decide)]
    exact trimEndBy_eq_nil hall

theorem cleanLine_ne_nil (h : isFilled line = true) (first last : Bool) :
    cleanLine first last line ≠ [] := by
  obtain ⟨c, hc, hspace⟩ := exists_mem_untabbed h
  have hspace : (c == ' ') = false := beq_eq_false_iff_ne.mpr hspace
  have hmem : c ∈ cleanLine first last line := by
    rw [cleanLine_eq]
    cases first <;> cases last
    · exact mem_trimEndBy (mem_dropWhile hc hspace) hspace
    · exact mem_dropWhile hc hspace
    · exact mem_trimEndBy hc hspace
    · exact hc
  exact List.ne_nil_of_mem hmem

theorem joined_concat (pieces : List (List Char)) (last : List Char) :
    joined [' '] (pieces ++ [last]) = pieces.flatMap (· ++ [' ']) ++ last := by
  induction pieces with
  | nil => simp [joined]
  | cons piece pieces ih =>
    obtain ⟨second, rest, hrest⟩ : ∃ second rest, pieces ++ [last] = second :: rest := by
      cases pieces <;> simp
    rw [List.cons_append, hrest, List.flatMap_cons, List.append_assoc, List.append_assoc, ← ih, hrest]
    simp [joined]

/-- The lines by the rule are the lines as they count at their places. -/
theorem strippedLines_eq (lines : List (List Char)) (k n : Nat) (hn : k + lines.length = n) :
    strippedLines (k == 0) (lines.map untabbed) =
      (lines.zipIdx k).map (cleanedAt n) := by
  induction lines generalizing k with
  | nil => rfl
  | cons line lines ih =>
    have hlast : (lines.map untabbed).isEmpty = (k == n - 1) := by
      rw [List.length_cons] at hn
      cases lines with
      | nil => simpa using (show k = n - 1 by simp at hn; omega)
      | cons second rest => simpa using (show k ≠ n - 1 by simp at hn; omega)
    rw [List.length_cons] at hn
    rw [List.zipIdx_cons, List.map_cons, List.map_cons, ← ih (k + 1) (by omega), strippedLines, hlast]
    rfl

/-- With a line that is filled, the lines are put together as the rule says. -/
theorem glued_of_filled (hx : isFilled x = true) (hB : ∀ line ∈ B, isFilled line = false) :
    glued (A ++ x :: B) = tidied (A ++ x :: B) := by
  set n := (A ++ x :: B).length with hn
  have hlen : n = A.length + 1 + B.length := by rw [hn, List.length_append, List.length_cons]; omega
  set clean := cleanedAt n with hclean
  have hzip : (A ++ x :: B).zipIdx = A.zipIdx ++ (x, A.length) :: B.zipIdx (A.length + 1) := by
    rw [List.zipIdx_append, List.zipIdx_cons, Nat.zero_add]
  have hbehind : ∀ p ∈ B.zipIdx (A.length + 1), clean p = [] := by
    rintro ⟨line, i⟩ hp
    obtain ⟨hi, -, hline⟩ := List.mem_zipIdx hp
    refine cleanLine_eq_nil (hB line ?_) (.inl (beq_eq_false_iff_ne.mpr (by omega)))
    rw [hline]
    exact List.getElem_mem _
  have hthere : clean (x, A.length) ≠ [] := cleanLine_ne_nil hx _ _
  have hbefore : ∀ pairs : List (List Char × Nat), (∀ p ∈ pairs, p.2 < A.length) →
      (pairs.flatMap fun p => if (clean p).isEmpty then []
        else if some A.length == some p.2 then clean p else clean p ++ [' ']) =
      ((pairs.map clean).filter (!·.isEmpty)).flatMap (· ++ [' ']) := by
    intro pairs
    induction pairs with
    | nil => intro _; rfl
    | cons p pairs ih =>
      intro hp
      obtain ⟨hlt, hpairs⟩ := List.forall_mem_cons.mp hp
      have hne : (some A.length == some p.2) = false := by
        rw [beq_eq_false_iff_ne]
        simp only [ne_eq, Option.some.injEq]
        omega
      rw [List.flatMap_cons, ih hpairs, List.map_cons, List.filter_cons, hne]
      cases hempty : (clean p).isEmpty <;> simp
  have hcode : glued (A ++ x :: B) =
      ((A.zipIdx.map clean).filter (!·.isEmpty)).flatMap (· ++ [' ']) ++ clean (x, A.length) := by
    have hA : ∀ p ∈ A.zipIdx, p.2 < A.length := fun p hp => (List.mem_zipIdx' hp).1
    have hrest : (B.zipIdx (A.length + 1)).flatMap (fun p => if (clean p).isEmpty then []
        else if some A.length == some p.2 then clean p else clean p ++ [' ']) = [] := by
      rw [List.flatMap_eq_nil_iff]
      intro p hp
      rw [hbehind p hp]
      rfl
    rw [← hbefore _ hA]
    unfold glued
    rw [lastFilled_append hx hB, hzip, ← hn, ← hclean, List.flatMap_append, List.flatMap_cons, hrest,
      List.append_nil, if_neg (by simpa using hthere), if_pos (beq_self_eq_true _)]
  have hrule : (strippedLines true ((A ++ x :: B).map untabbed)).filter (!·.isEmpty) =
      (A.zipIdx.map clean).filter (!·.isEmpty) ++ [clean (x, A.length)] := by
    have hstripped := strippedLines_eq (A ++ x :: B) 0 n (by omega)
    rw [show (0 == 0) = true from rfl] at hstripped
    have hnone : ((B.zipIdx (A.length + 1)).map clean).filter (!·.isEmpty) = [] := by
      rw [List.filter_eq_nil_iff]
      intro piece hpiece
      obtain ⟨p, hp, rfl⟩ := List.mem_map.mp hpiece
      rw [hbehind p hp]
      decide
    rw [hstripped, hzip, List.map_append, List.filter_append, List.map_cons]
    rw [List.filter_cons_of_pos (by simpa using hthere), hnone]
  rw [hcode, tidied, hrule, joined_concat]

/-- A single blank line is kept, and a space is put behind it. -/
theorem glued_single (hblank : isFilled line = false) (hne : line ≠ []) :
    glued [line] = untabbed line ++ [' '] ∧ tidied [line] = untabbed line := by
  have hlast : lastFilled [line] = none :=
    lastFilled_eq_none fun l hl => (List.mem_singleton.mp hl) ▸ hblank
  have hkept : untabbed line ≠ [] := by simpa [untabbed] using hne
  constructor
  · unfold glued
    rw [hlast]
    simp [cleanedAt, cleanLine_eq, hkept]
  · simp [tidied, strippedLines, hkept, joined]

/-- Blank lines that all meet a break are nothing. -/
theorem glued_of_blank (h : ∀ line ∈ lines, isFilled line = false)
    (hmany : lines = [[]] ∨ lines.length ≠ 1) : glued lines = tidied lines := by
  obtain rfl | hmany := hmany
  · decide
  have hclean : ∀ p ∈ lines.zipIdx, cleanedAt lines.length p = [] := by
    rintro ⟨line, i⟩ hp
    obtain ⟨hi, hline⟩ := List.mem_zipIdx' hp
    refine cleanLine_eq_nil (h line (hline ▸ List.getElem_mem _)) ?_
    by_cases hfirst : i = 0
    · exact .inr (beq_eq_false_iff_ne.mpr (by omega))
    · exact .inl (beq_eq_false_iff_ne.mpr hfirst)
  have hcode : glued lines = [] := by
    unfold glued
    rw [List.flatMap_eq_nil_iff]
    intro p hp
    rw [hclean p hp]
    rfl
  have hrule : (strippedLines true (lines.map untabbed)).filter (!·.isEmpty) = [] := by
    have hstripped := strippedLines_eq lines 0 lines.length (by omega)
    rw [show (0 == 0) = true from rfl] at hstripped
    rw [hstripped, List.filter_eq_nil_iff]
    intro piece hpiece
    obtain ⟨p, hp, rfl⟩ := List.mem_map.mp hpiece
    rw [hclean p hp]
    decide
  rw [hcode, tidied, hrule]
  rfl

/-- The lines are put together as the rule says, unless they are a single blank line. -/
theorem glued_eq_tidied_or (lines : List (List Char)) :
    glued lines = tidied lines ∨
      ∃ line, lines = [line] ∧ line ≠ [] ∧ isFilled line = false := by
  cases hfind : lines.reverse.find? isFilled with
  | some x =>
    obtain ⟨hx, B, A, hrev, hB⟩ := List.find?_eq_some_iff_append.mp hfind
    have hlines : lines = A.reverse ++ x :: B.reverse := by
      rw [← List.reverse_reverse lines, hrev]
      simp
    rw [hlines]
    refine .inl (glued_of_filled hx fun line hline => ?_)
    simpa using hB line (List.mem_reverse.mp hline)
  | none =>
    have hblank : ∀ line ∈ lines, isFilled line = false := by
      intro line hline
      simpa using List.find?_eq_none.mp hfind line (List.mem_reverse.mpr hline)
    match lines, hblank with
    | [], hblank => exact .inl (glued_of_blank hblank (.inr (by simp)))
    | [[]], hblank => exact .inl (glued_of_blank hblank (.inl rfl))
    | [c :: cs], hblank =>
      exact .inr ⟨c :: cs, rfl, List.cons_ne_nil _ _, hblank _ (List.mem_singleton_self _)⟩
    | first :: second :: rest, hblank => exact .inl (glued_of_blank hblank (.inr (by simp)))

/-! ## Lines and their ends -/

theorem breakLines_ne_nil (raw : List Char) : breakLines raw ≠ [] := by
  fun_cases breakLines raw <;> simp_all

theorem trimEndBy_cons (p : Char → Bool) (c : Char) (cs : List Char) :
    Text.trimEndBy p (c :: cs) =
      if Text.trimEndBy p cs = [] ∧ p c = true then [] else c :: Text.trimEndBy p cs := by
  unfold Text.trimEndBy
  rw [List.reverse_cons, List.dropWhile_append]
  cases hrest : cs.reverse.dropWhile p with
  | nil => cases hc : p c <;> simp [hc]
  | cons d rest => simp

/-- Without the carriage returns at their ends, the lines are those `cleanText` takes. -/
theorem textLines_eq (raw : List Char) :
    textLines raw = (breakLines raw).map (Text.trimEndBy (· == '\r')) := by
  unfold textLines Text.splitAt
  fun_induction breakLines raw with
  | case1 => rfl
  | case2 rest ih =>
    have hreturn : Text.splitBy (· == '\n') ('\r' :: '\n' :: rest) =
        ['\r'] :: Text.splitBy (· == '\n') rest := by
      simp [Text.splitBy]
    rw [hreturn, List.map_cons, List.map_cons, ih]
    rfl
  | case3 rest ih =>
    have hfeed : Text.splitBy (· == '\n') ('\n' :: rest) = [] :: Text.splitBy (· == '\n') rest := by
      simp [Text.splitBy]
    rw [hfeed, List.map_cons, List.map_cons, ih]
  | case4 c rest _ _ hrest ih => exact absurd hrest (breakLines_ne_nil rest)
  | case5 c rest _ hfeed line lines hrest ih =>
    rw [hrest] at ih
    cases hpieces : Text.splitBy (· == '\n') rest with
    | nil => rw [hpieces] at ih; cases ih
    | cons piece pieces =>
      rw [hpieces, List.map_cons, List.map_cons] at ih
      obtain ⟨hpiece, hmore⟩ := List.cons.inj ih
      have hc : (c == '\n') = false := beq_eq_false_iff_ne.mpr fun h => hfeed h
      rw [Text.splitBy, hc, hpieces]
      simp only [Bool.false_eq_true, if_false, List.map_cons, trimEndBy_cons, hpiece, hmore]

theorem eq_of_breakLines_eq_singleton (h : breakLines raw = [line]) : line = raw := by
  fun_induction breakLines raw generalizing line with
  | case1 => cases h; rfl
  | case2 rest ih => exact absurd (List.cons.inj h).2 (breakLines_ne_nil rest)
  | case3 rest ih => exact absurd (List.cons.inj h).2 (breakLines_ne_nil rest)
  | case4 c rest _ _ hrest ih => exact absurd hrest (breakLines_ne_nil rest)
  | case5 c rest _ _ first more hrest ih =>
    obtain ⟨rfl, rfl⟩ := List.cons.inj h
    rw [ih hrest]

theorem breakLines_of_not_mem (h : '\n' ∉ raw) : breakLines raw = [raw] := by
  fun_induction breakLines raw with
  | case1 => rfl
  | case2 rest ih => simp at h
  | case3 rest ih => simp at h
  | case4 c rest _ _ hrest ih => exact absurd hrest (breakLines_ne_nil rest)
  | case5 c rest _ _ first more hrest ih =>
    have := ih fun hm => h (List.mem_cons_of_mem _ hm)
    rw [hrest] at this
    cases this
    rfl

/-! ## Carriage returns of the text, line by line -/

/-- Carriage returns of a text once its references are decoded. -/
def returns (cs : List Char) : Nat :=
  (Markup.Entity.decode cs).count '\r'

theorem returns_nil : returns [] = 0 := by
  simp [returns, Markup.Entity.decode]

theorem returns_append_space (xs ys : List Char) :
    returns (xs ++ ' ' :: ys) = returns xs + returns ys := by
  unfold returns
  rw [Markup.Entity.decode_append_cons rfl, List.count_append, List.count_cons_of_ne (by decide)]

theorem returns_append_return (xs ys : List Char) :
    returns (xs ++ '\r' :: ys) = returns xs + returns ys + 1 := by
  unfold returns
  rw [Markup.Entity.decode_append_cons rfl, List.count_append, List.count_cons_self, Nat.add_assoc]

theorem returns_spaces_append {spaces : List Char} (h : ∀ c ∈ spaces, (c == ' ') = true)
    (xs : List Char) : returns (spaces ++ xs) = returns xs := by
  induction spaces with
  | nil => rfl
  | cons c spaces ih =>
    obtain ⟨hc, hspaces⟩ := List.forall_mem_cons.mp h
    have := returns_append_space [] (spaces ++ xs)
    rw [beq_iff_eq.mp hc, List.cons_append, ← ih hspaces]
    simpa [returns_nil] using this

theorem returns_append_spaces {spaces : List Char} (h : ∀ c ∈ spaces, (c == ' ') = true)
    (xs : List Char) : returns (xs ++ spaces) = returns xs := by
  cases spaces with
  | nil => rw [List.append_nil]
  | cons c spaces =>
    obtain ⟨hc, hspaces⟩ := List.forall_mem_cons.mp h
    have hnone := returns_spaces_append hspaces []
    rw [List.append_nil, returns_nil] at hnone
    rw [beq_iff_eq.mp hc, returns_append_space, hnone, Nat.add_zero]

theorem returns_dropWhile (cs : List Char) : returns (cs.dropWhile (· == ' ')) = returns cs := by
  have hsplit := List.takeWhile_append_dropWhile (p := (· == ' ')) (l := cs)
  have hspaces : ∀ c ∈ cs.takeWhile (· == ' '), (c == ' ') = true :=
    List.all_eq_true.mp List.all_takeWhile
  have h := returns_spaces_append hspaces (cs.dropWhile (· == ' '))
  rw [hsplit] at h
  exact h.symm

theorem returns_trimEndBy (cs : List Char) :
    returns (Text.trimEndBy (· == ' ') cs) = returns cs := by
  obtain ⟨spaces, hspaces, hcs⟩ := exists_trimEndBy (· == ' ') cs
  have h := returns_append_spaces hspaces (Text.trimEndBy (· == ' ') cs)
  rw [← hcs] at h
  exact h.symm

theorem returns_joined (pieces : List (List Char)) :
    returns (joined [' '] pieces) = (pieces.map returns).sum := by
  induction pieces with
  | nil => exact returns_nil
  | cons piece pieces ih =>
    cases pieces with
    | nil => simp [joined]
    | cons second rest =>
      have hcons : joined [' '] (piece :: second :: rest) =
          piece ++ ' ' :: joined [' '] (second :: rest) := by simp [joined]
      rw [hcons, returns_append_space, ih, ← List.sum_cons, ← List.map_cons]

theorem returns_strippedLines (first : Bool) (lines : List (List Char)) :
    (strippedLines first lines).map returns = lines.map returns := by
  induction lines generalizing first with
  | nil => rfl
  | cons line lines ih =>
    rw [strippedLines, List.map_cons, List.map_cons, ih]
    congr 1
    cases first <;> cases lines.isEmpty <;> simp [returns_dropWhile, returns_trimEndBy]

theorem sum_returns_filter (pieces : List (List Char)) :
    ((pieces.filter (!·.isEmpty)).map returns).sum = (pieces.map returns).sum := by
  induction pieces with
  | nil => rfl
  | cons piece pieces ih =>
    cases piece with
    | nil => simpa [returns_nil] using ih
    | cons c cs => simpa using ih

/-- The carriage returns of the text by the rule are those of its lines. -/
theorem returns_tidied (lines : List (List Char)) :
    returns (tidied lines) = (lines.map fun line => returns (untabbed line)).sum := by
  unfold tidied
  rw [returns_joined, sum_returns_filter, returns_strippedLines, List.map_map]
  rfl

theorem returns_glued (lines : List (List Char)) :
    returns (glued lines) = (lines.map fun line => returns (untabbed line)).sum := by
  obtain htidy | ⟨line, rfl, hne, hblank⟩ := glued_eq_tidied_or lines
  · rw [htidy, returns_tidied]
  · rw [(glued_single hblank hne).1, returns_append_space, returns_nil]
    simp

theorem returns_append_returns {run : List Char} (h : ∀ c ∈ run, (c == '\r') = true)
    (xs : List Char) : returns (xs ++ run) = returns xs + run.length := by
  induction run generalizing xs with
  | nil => simp
  | cons c run ih =>
    obtain ⟨hc, hrun⟩ := List.forall_mem_cons.mp h
    have hnone := ih hrun []
    rw [List.nil_append, returns_nil] at hnone
    rw [beq_iff_eq.mp hc, returns_append_return, hnone, List.length_cons]
    omega

/-- Taking the carriage returns off the end of a line takes as many off the text. -/
theorem returns_untabbed_trimEndBy (line : List Char) :
    ∃ run, line = Text.trimEndBy (· == '\r') line ++ run ∧
      returns (untabbed line) = returns (untabbed (Text.trimEndBy (· == '\r') line)) + run.length := by
  obtain ⟨run, hrun, hline⟩ := exists_trimEndBy (· == '\r') line
  have huntab : untabbed run = run := by
    have hsame : ∀ c ∈ run, (if c == '\t' then ' ' else c) = c := by
      intro c hc
      rw [beq_iff_eq.mp (hrun c hc)]
      rfl
    exact (List.map_congr_left hsame).trans (List.map_id run)
  have hcut : untabbed line = untabbed (Text.trimEndBy (· == '\r') line) ++ run := by
    conv_lhs => rw [hline, untabbed, List.map_append, ← untabbed, ← untabbed, huntab]
  exact ⟨run, hline, by rw [hcut, returns_append_returns hrun]⟩

/-- Only carriage returns at the end are taken off. -/
theorem trimEndBy_eq_self_iff :
    Text.trimEndBy (· == '\r') line = line ↔ line.getLast? ≠ some '\r' := by
  rcases List.eq_nil_or_concat' line with rfl | ⟨front, c, rfl⟩
  · exact ⟨fun _ => by simp, fun _ => rfl⟩
  by_cases hc : c = '\r'
  · subst hc
    obtain ⟨run, -, hfront⟩ := exists_trimEndBy (· == '\r') front
    have hlen := congrArg List.length hfront
    refine iff_of_false (fun h => ?_) fun h => by simp at h
    rw [trimEndBy_append (by simp)] at h
    have := congrArg List.length h
    simp only [List.length_append, List.length_singleton] at this hlen
    omega
  · exact iff_of_true (trimEndBy_concat (beq_eq_false_iff_ne.mpr hc)) (by simpa using hc)

/-- A line that ends in a carriage return has fewer of them without. -/
theorem returns_textLines_lt (hmem : line ∈ lines) (hend : line.getLast? = some '\r') :
    returns (glued (lines.map (Text.trimEndBy (· == '\r')))) < returns (tidied lines) := by
  rw [returns_glued, returns_tidied, List.map_map]
  refine List.sum_lt_sum _ _ (fun l _ => ?_) ⟨line, hmem, ?_⟩
  · obtain ⟨run, -, hcount⟩ := returns_untabbed_trimEndBy l
    rw [hcount]
    exact Nat.le_add_right ..
  · obtain ⟨run, hline, hcount⟩ := returns_untabbed_trimEndBy line
    have hrun : run ≠ [] := by
      rintro rfl
      rw [List.append_nil] at hline
      exact trimEndBy_eq_self_iff.mp hline.symm hend
    rw [hcount]
    exact Nat.lt_add_of_pos_right (List.length_pos_of_ne_nil hrun)

/-! ## The text and the rule -/

/-- A text of spaces and tabs alone. -/
def IsLoneBlank (raw : List Char) : Prop :=
  raw ≠ [] ∧ ∀ c ∈ raw, c = ' ' ∨ c = '\t'

theorem isFilled_eq_false_iff : isFilled line = false ↔ ∀ c ∈ line, c = ' ' ∨ c = '\t' := by
  unfold isFilled
  rw [List.any_eq_false]
  refine forall₂_congr fun c _ => ?_
  by_cases hspace : c = ' ' <;> simp [hspace]

/-- Exactly where the text between tags is the text by the rule: it is no blank text without a
line break, and no line ends in a carriage return that is not part of its break. A text without
line breaks only has its tabs replaced and its references decoded by the rule. -/
theorem cleanText_eq_ruleText_iff (raw : List Char) :
    (cleanText raw = ruleText raw ↔
      ¬ IsLoneBlank raw ∧ ∀ line ∈ breakLines raw, line.getLast? ≠ some '\r') ∧
    ('\n' ∉ raw → ruleText raw = Markup.Entity.decode (untabbed raw)) := by
  have hrule (h : '\n' ∉ raw) : ruleText raw = Markup.Entity.decode (untabbed raw) := by
    rw [ruleText, breakLines_of_not_mem h]
    by_cases hempty : untabbed raw = [] <;> simp [tidied, strippedLines, hempty, joined]
  refine ⟨?_, hrule⟩
  by_cases hstray : ∀ line ∈ breakLines raw, line.getLast? ≠ some '\r'
  · have hlines : textLines raw = breakLines raw := by
      have hkept : ∀ line ∈ breakLines raw, Text.trimEndBy (· == '\r') line = line :=
        fun line hline => trimEndBy_eq_self_iff.mpr (hstray line hline)
      rw [textLines_eq, List.map_congr_left hkept]
      exact List.map_id _
    rw [cleanText_eq_decode, hlines, ruleText, and_iff_left hstray]
    by_cases hlone : IsLoneBlank raw
    · -- the space put behind the blanks stays when references are decoded
      have hfeed : '\n' ∉ raw := fun h => by simpa using hlone.2 _ h
      have hblank := isFilled_eq_false_iff.mpr hlone.2
      obtain ⟨hcode, htidy⟩ := glued_single hblank hlone.1
      rw [breakLines_of_not_mem hfeed, hcode, htidy, Markup.Entity.decode_append_cons rfl]
      simp [hlone]
    · obtain htidy | ⟨line, hline, hne, hblank⟩ := glued_eq_tidied_or (breakLines raw)
      · simp [htidy, hlone]
      · obtain rfl := eq_of_breakLines_eq_singleton hline
        exact absurd ⟨hne, isFilled_eq_false_iff.mp hblank⟩ hlone
  · -- by the rule the text has more carriage returns
    simp only [not_forall, not_not] at hstray
    obtain ⟨line, hline, hend⟩ := hstray
    have hfewer := returns_textLines_lt hline hend
    rw [← textLines_eq] at hfewer
    refine iff_of_false (fun heq => ?_) fun h => h.2 line hline hend
    have hcount : returns (glued (textLines raw)) = returns (tidied (breakLines raw)) :=
      congrArg (List.count '\r') heq
    omega

/-- A tab between words becomes a space. -/
theorem cleanText_tab_between :
    cleanText ['a', '\t', 'b'] = ruleText ['a', '\t', 'b'] ∧
      ruleText ['a', '\t', 'b'] = Markup.Entity.decode ['a', ' ', 'b'] := by
  obtain ⟨hiff, hrule⟩ := cleanText_eq_ruleText_iff ['a', '\t', 'b']
  refine ⟨hiff.mpr ⟨fun h => ?_, by decide⟩, hrule (by decide)⟩
  exact absurd (h.2 'a' (List.mem_cons_self ..)) (by decide)

/-- One space between two tags comes out as two. -/
theorem cleanText_single_space :
    cleanText [' '] = [' ', ' '] ∧ ruleText [' '] = [' '] ∧ cleanText [' '] ≠ ruleText [' '] := by
  have hcode : cleanText [' '] = [' ', ' '] := by
    rw [cleanText_eq_decode, show glued (textLines [' ']) = [' ', ' '] by decide]
    simp [Markup.Entity.decode]
  have hrule : ruleText [' '] = [' '] := by
    rw [ruleText, show tidied (breakLines [' ']) = [' '] by decide]
    simp [Markup.Entity.decode]
  exact ⟨hcode, hrule, by rw [hcode, hrule]; decide⟩

end Source
end Restyle
