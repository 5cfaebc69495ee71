import Restyle.Proofs.Script.Programs
import Restyle.Proofs.Script.Words
import Restyle.Script.Eval

/-!
# Restyle.Proofs.Script.Flags

Expressions of whole numbers and names with `|`, `<<` and `+`, as enums use them for flags: what
they are worth, how they are written, and what scripts make of that.
-/

namespace Restyle
namespace Script

/-! ## Digits of numbers -/

theorem head?_toDigits {n : Nat} (hn : 0 < n) : (Nat.toDigits 10 n).head? ≠ some '0' := by
  induction n using Nat.strongRecOn with
  | ind n ih =>
    by_cases hlt : n < 10
    · have hdigits : ∀ i < 10, 0 < i → Nat.digitChar i ≠ '0' := by decide
      rw [Nat.toDigits_of_lt_base hlt, List.head?_cons]
      exact fun h => hdigits n hlt hn (Option.some.inj h)
    · have hfront := ih (n / 10) (by omega) (by omega)
      rw [Nat.toDigits_of_base_le (by decide) (by omega)]
      cases hdigits : Nat.toDigits 10 (n / 10) with
      | nil => exact absurd hdigits Nat.toDigits_ne_nil
      | cons c ds => rwa [hdigits] at hfront

theorem isNumeral_toDigits (n : Nat) : IsNumeral (Nat.toDigits 10 n) := by
  refine ⟨Nat.toDigits_ne_nil, List.all_eq_true.mpr fun c hc =>
    Nat.isDigit_of_mem_toDigits (by decide) (by decide) hc, fun hzero => ?_⟩
  cases n with
  | zero => rfl
  | succ n => exact absurd hzero (head?_toDigits (Nat.succ_pos n))

/-! ## Expressions -/

/-- The operators between flags. -/
inductive FlagOp where
  | or | shift | add
  deriving Repr, DecidableEq

namespace FlagOp

def mark : FlagOp → String
  | or => "|"
  | shift => "<<"
  | add => "+"

/-- How strongly the operator binds. -/
def level : FlagOp → Nat
  | or => 4
  | shift => 9
  | add => 10

def operator : FlagOp → BinaryOp
  | or => .bitOr
  | shift => .shiftLeft
  | add => .add

def apply : FlagOp → Float → Float → Float
  | or => Numeral.bitwise (· ||| ·)
  | shift => Numeral.shiftLeft
  | add => (· + ·)

theorem operator?_mark (o : FlagOp) :
    Grammar.operator? true (.mark o.mark) = some (o.level, .inl o.operator) := by
  cases o <;> rfl

theorem mark_mem_followMarks (o : FlagOp) : o.mark ∈ followMarks := by
  cases o <;> decide

theorem mark_ne (o : FlagOp) : o.mark ≠ "=" ∧ o.mark ≠ ")" := by
  cases o <;> decide

end FlagOp

/-- Expressions of whole numbers and names. -/
inductive Flags where
  | number (n : Nat)
  | negative (n : Nat)
  | name (x : String)
  | binary (o : FlagOp) (a b : Flags)
  deriving Repr, DecidableEq

namespace Flags

/-- What the expression is worth, if there are no names in it. -/
def value? : Flags → Option Float
  | number n => some (Numeral.nearest n)
  | negative n => some (-(Numeral.nearest n))
  | name _ => none
  | binary o a b => do return o.apply (← a.value?) (← b.value?)

def names : Flags → List String
  | number _ => []
  | negative _ => []
  | name x => [x]
  | binary _ a b => a.names ++ b.names

/-- Only names keep an expression from being worth something. -/
theorem exists_value {e : Flags} (h : e.names = []) : ∃ x, e.value? = some x := by
  induction e with
  | number n => exact ⟨_, rfl⟩
  | negative n => exact ⟨_, rfl⟩
  | name x => cases h
  | binary o a b iha ihb =>
    obtain ⟨ha, hb⟩ := List.append_eq_nil_iff.mp h
    obtain ⟨x, hx⟩ := iha ha
    obtain ⟨y, hy⟩ := ihb hb
    exact ⟨o.apply x y, by rw [value?, hx, hy]; rfl⟩

/-- The expression of scripts. -/
def expr : Flags → Expr
  | number n => .number (Numeral.nearest n)
  | negative n => .unary .minus (.number (Numeral.nearest n))
  | name x => .name x
  | binary o a b => .binary o.operator a.expr b.expr

/-- A whole number. -/
def ofInt : Int → Flags
  | .ofNat n => number n
  | .negSucc n => negative (n + 1)

/-- What scripts read a whole number as. -/
def ofInt.value : Int → Float
  | .ofNat n => Numeral.nearest n
  | .negSucc n => -(Numeral.nearest (n + 1))

theorem value?_ofInt (i : Int) : (ofInt i).value? = some (ofInt.value i) := by
  cases i <;> rfl

/-! ## Words -/

/-- The words of an expression, by how strongly its operators outside parentheses bind. -/
inductive HasWords : Nat → List Word → Flags → Prop where
  | number (l n : Nat) (f : Bool) : HasWords l [⟨.number (Numeral.nearest n), f⟩] (.number n)
  | negative (l n : Nat) (f f' : Bool) :
      HasWords l [⟨.mark "-", f⟩, ⟨.number (Numeral.nearest n), f'⟩] (.negative n)
  | name (l : Nat) {x : String} (hx : IsVariable x) (f : Bool) : HasWords l [⟨.name x false, f⟩] (.name x)
  | group (l : Nat) {ws : List Word} {e : Flags} (f f' : Bool) (he : HasWords 1 ws e) :
      HasWords l (⟨.mark "(", f⟩ :: ws ++ [⟨.mark ")", f'⟩]) e
  | binary (o : FlagOp) {ws ws' : List Word} {a b : Flags} (f : Bool) (ha : HasWords o.level ws a)
      (hb : HasWords (o.level + 1) ws' b) : HasWords o.level (ws ++ ⟨.mark o.mark, f⟩ :: ws') (.binary o a b)
  | weaken {l l' : Nat} {ws : List Word} {e : Flags} (hl : l ≤ l') (he : HasWords l' ws e) : HasWords l ws e

namespace HasWords

open Grammar Parse

variable {l : Nat} {ws : List Word} {e : Flags}

/-- The first word, and what stands after it if that is a name. -/
theorem exists_first (h : HasWords l ws e) :
    ∃ w rest, ws = w :: rest ∧ (w.token.IsNoTarget ∨ ∃ x, IsVariable x ∧ w.token = .name x false ∧
      (rest = [] ∨ ∃ o : FlagOp, ∃ f rest', rest = ⟨.mark o.mark, f⟩ :: rest')) := by
  induction h with
  | number l n f => exact ⟨_, _, rfl, .inl (.number _)⟩
  | negative l n f f' => exact ⟨_, _, rfl, .inl .minus⟩
  | name l hx f => exact ⟨_, _, rfl, .inr ⟨_, hx, rfl, .inl rfl⟩⟩
  | group l f f' he ih => exact ⟨_, _, rfl, .inl .group⟩
  | binary o f ha hb iha ihb =>
    obtain ⟨w, rest, rfl, hw⟩ := iha
    refine ⟨w, _, rfl, hw.imp_right ?_⟩
    rintro ⟨x, hx, htoken, rfl | ⟨o', f', rest', rfl⟩⟩
    · exact ⟨x, hx, htoken, .inr ⟨o, f, _, rfl⟩⟩
    · exact ⟨x, hx, htoken, .inr ⟨o', f', _, rfl⟩⟩
  | weaken hl he ih => exact ih

/-- No function begins where such an expression begins. -/
theorem begins (h : HasWords l ws e) {n : Nat} {x y : Lexeme} (hahead : Ahead x ws y)
    (hy : y.token.Follows) : Begins (grammar (n + 1)) x := by
  induction h generalizing y with
  | number l v f =>
    obtain ⟨hx, -⟩ := Ahead.cons_iff.mp hahead
    exact begins_of_isNoTarget (hx ▸ .number _) (hx ▸ rfl) (hx ▸ rfl)
  | negative l v f f' =>
    obtain ⟨hx, -⟩ := Ahead.cons_iff.mp hahead
    exact begins_of_isNoTarget (hx ▸ .minus) (hx ▸ rfl) (hx ▸ rfl)
  | name l hx f =>
    obtain ⟨htoken, -, y', hnext, hnil⟩ := Ahead.cons_iff.mp hahead
    rw [Ahead.nil_iff.mp hnil] at hnext
    exact begins_name hx htoken hnext (.inl hy)
  | group l f f' he ih =>
    obtain ⟨hx, -, x', hnext, hahead⟩ := Ahead.cons_iff.mp hahead
    obtain ⟨z, hinner, hclose⟩ := Ahead.append_iff.mp hahead
    obtain ⟨hz, -, y', hnextz, hnil⟩ := Ahead.cons_iff.mp hclose
    rw [Ahead.nil_iff.mp hnil] at hnextz
    obtain ⟨w, rest, rfl, hw⟩ := he.exists_first
    obtain ⟨hx', -, x'', hnext', hrest⟩ := Ahead.cons_iff.mp hinner
    refine begins_group hx ?_
    obtain hw | ⟨v, hv, hname, hrest'⟩ := hw
    · rw [← hx'] at hw
      refine takes_startsArrow_group hx hnext (fails_binderBody hw) ?_ (hw.isMark (by decide) (by decide))
      exact hw.isMark (by decide) (by decide)
    · rw [hname] at hx'
      have hbinder := takes_binderBody (g := grammar n) hv hx' hnext'
      obtain rfl | ⟨o, f₀, rest', rfl⟩ := hrest'
      · rw [Ahead.nil_iff.mp hrest] at hbinder
        exact takes_startsArrow_group_name hx hnext hbinder hx' ⟨_, by decide, hz⟩
          (by rw [hz]; exact fun h => absurd (Token.mark.inj h) (by decide)) fun _ => ⟨_, hnextz, hy⟩
      · obtain ⟨hx'', -⟩ := Ahead.cons_iff.mp hrest
        refine takes_startsArrow_group_name hx hnext hbinder hx' ⟨_, o.mark_mem_followMarks, hx''⟩ ?_ ?_
        · rw [hx'']
          exact fun h => o.mark_ne.1 (Token.mark.inj h)
        · rw [hx'']
          exact fun h => absurd (Token.mark.inj h) o.mark_ne.2
  | binary o f ha hb iha ihb =>
    obtain ⟨z, hleft, hright⟩ := Ahead.append_iff.mp hahead
    obtain ⟨hz, -⟩ := Ahead.cons_iff.mp hright
    exact iha hleft ⟨_, o.mark_mem_followMarks, hz⟩
  | weaken hl he ih => exact ih hahead hy

/-- Depth at which so many words can be read. -/
def depth (ws : List Word) : Nat := 3 * ws.length + 3

theorem reads_of_climbs' (h : HasWords 1 ws e)
    (hclimbs : ∀ n, depth ws ≤ n → Climbs (grammar n) 1 ws e.expr) : Reads (depth ws + 2) ws e.expr := by
  refine reads_of_climbs hclimbs (Nat.le_refl 1) (fun n x y hn hahead hy => ?_) ?_
  · obtain ⟨m, rfl⟩ : ∃ m, n = m + 1 := ⟨n - 1, by unfold depth at hn; omega⟩
    exact h.begins hahead hy
  · unfold depth
    omega

theorem climbs (h : HasWords l ws e) : ∀ n, depth ws ≤ n → Climbs (grammar n) l ws e.expr := by
  induction h with
  | number l v f => exact fun n hn => climbs_operand (isOperand_number _ f n (by simp [depth] at hn; omega))
  | negative l v f f' =>
    exact fun n hn => climbs_operand (isOperand_minus _ f f' n (by simp [depth] at hn; omega))
  | name l hx f => exact fun n hn => climbs_operand (isOperand_name hx f n (by simp [depth] at hn; omega))
  | group l f f' he ih =>
    refine fun n hn => climbs_operand (isOperand_group (he.reads_of_climbs' ih) f f' n ?_)
    simp [depth] at hn ⊢
    omega
  | binary o f ha hb iha ihb =>
    intro n hn
    simp only [depth, List.length_append, List.length_cons] at hn iha ihb
    refine (iha n (by omega)).binary o.mark_mem_followMarks o.operator?_mark ?_
    obtain ⟨m, rfl⟩ : ∃ m, n = m + 2 := ⟨n - 2, by omega⟩
    exact fun x y hahead hy hstops => (ihb (m + 1) (by omega)).takes hahead hy (Nat.le_refl _)
      ⟨o.level, Nat.lt_succ_self _, hstops⟩ (Nat.lt_of_lt_of_le (m := m) (by omega) (Nat.le_refl m))
  | weaken hl he ih => exact fun n hn => (ih n hn).mono hl

/-- **The words of flags are read as the expression.** -/
theorem reads (h : HasWords 1 ws e) : Reads (depth ws + 2) ws e.expr := h.reads_of_climbs' h.climbs

end HasWords
/-! ## Texts -/

/-- How an expression is written, by how strongly its operators outside parentheses bind. Space may
stand before any word. -/
inductive IsWritten : Nat → List Char → Flags → Prop where
  | number (l : Nat) {gap ds : List Char} (hgap : IsGap gap) (hds : IsNumeral ds) :
      IsWritten l (gap ++ ds) (.number (Text.decimal ds))
  | negative (l : Nat) {gap gap' ds : List Char} (hgap : IsGap gap) (hgap' : IsGap gap') (hds : IsNumeral ds) :
      IsWritten l (gap ++ '-' :: (gap' ++ ds)) (.negative (Text.decimal ds))
  | name (l : Nat) {gap : List Char} {x : String} (hgap : IsGap gap) (hx : IsAsciiName x.toList) (hv : IsVariable x) :
      IsWritten l (gap ++ x.toList) (.name x)
  | group (l : Nat) {gap cs gap' : List Char} {e : Flags} (hgap : IsGap gap) (he : IsWritten 1 cs e)
      (hgap' : IsGap gap') : IsWritten l (gap ++ '(' :: (cs ++ (gap' ++ [')']))) e
  | binary (o : FlagOp) {cs gap cs' : List Char} {a b : Flags} (ha : IsWritten o.level cs a) (hgap : IsGap gap)
      (hb : IsWritten (o.level + 1) cs' b) :
      IsWritten o.level (cs ++ (gap ++ (o.mark.toList ++ cs'))) (.binary o a b)
  | weaken {l l' : Nat} {cs : List Char} {e : Flags} (hl : l ≤ l') (he : IsWritten l' cs e) : IsWritten l cs e

namespace IsWritten

variable {l : Nat} {cs : List Char} {e : Flags}

/-- The names in an expression are those of variables. -/
theorem isVariable_of_mem (h : IsWritten l cs e) : ∀ x ∈ e.names, IsVariable x ∧ IsAsciiName x.toList := by
  induction h with
  | number l hgap hds => exact List.forall_mem_nil _
  | negative l hgap hgap' hds => exact List.forall_mem_nil _
  | name l hgap hx hv => exact List.forall_mem_singleton.mpr ⟨hv, hx⟩
  | group l hgap he hgap' ih => exact ih
  | binary o ha hgap hb iha ihb => exact List.forall_mem_append.mpr ⟨iha, ihb⟩
  | weaken hl he ih => exact ih

/-- Marks that operators and strings begin with. -/
def nonStarts : List Char := ['+', '|', '<', '=', '>', '\'', '"', '\x60']

/-- Does neither an operator nor a string begin with the character? -/
def IsStart (c : Char) : Prop := c ∉ nonStarts

theorem isStart_of {c : Char} {p : Char → Bool} (hp : nonStarts.all (!p ·) = true) (hc : p c = true) : IsStart c := by
  intro hmem
  have hnot := List.all_eq_true.mp hp c hmem
  rw [hc] at hnot
  cases hnot

theorem isStart_of_isNamePart {c : Char} (hc : isNamePart c = true) : IsStart c :=
  isStart_of (p := isNamePart) (by decide) hc

theorem IsStart.not_mem {c : Char} (hc : IsStart c) : c ∉ ['+', '|', '<', '=', '>'] :=
  fun hmem => hc (List.mem_append_left ['\'', '"', '\x60'] hmem)

theorem IsStart.isQuoteMark {c : Char} (hc : IsStart c) : Source.isQuoteMark c = false := by
  simp only [IsStart, nonStarts, List.mem_cons, List.not_mem_nil, or_false, not_or] at hc
  simp [Source.isQuoteMark, hc]

theorem exists_start {gap rest : List Char} {d : Char} (hgap : IsGap gap) (hd : IsStart d) :
    ∃ c rest', gap ++ d :: rest = c :: rest' ∧ IsStart c := by
  cases gap with
  | nil => exact ⟨_, _, rfl, hd⟩
  | cons c gap =>
    exact ⟨_, _, rfl, isStart_of (p := fun c => isLineEnd c || Utf16.isSpace c) (by decide)
      (Bool.or_eq_true_iff.mpr (hgap c (List.mem_cons_self ..)))⟩

/-- The text begins with space, a digit, a minus, a parenthesis or a name. -/
theorem exists_cons (h : IsWritten l cs e) : ∃ c rest, cs = c :: rest ∧ IsStart c := by
  induction h with
  | number l hgap hds =>
    obtain ⟨d, ds, rfl, hd⟩ := hds.exists_cons
    exact exists_start hgap (isStart_of_isNamePart (isNamePart_of_isDigit hd))
  | negative l hgap hgap' hds => exact exists_start hgap (by unfold IsStart; decide)
  | name l hgap hx hv =>
    obtain ⟨c, cs, hcs, hc, -⟩ := hx
    rw [hcs]
    exact exists_start hgap (isStart_of_isNamePart (isNamePart_of_isNameStart (isNameStart_of_source hc)))
  | group l hgap he hgap' ih => exact exists_start hgap (by unfold IsStart; decide)
  | binary o ha hgap hb iha ihb =>
    obtain ⟨c, rest, rfl, hc⟩ := iha
    exact ⟨c, _, rfl, hc⟩
  | weaken hl he ih => exact ih

theorem leads_negative {gap gap' ds rest : List Char} (hgap : IsGap gap) (hgap' : IsGap gap') (hds : IsNumeral ds)
    (hrest : EndsNumeral rest) :
    Leads (gap ++ '-' :: (gap' ++ ds)) [⟨.mark "-", gap.any isLineEnd⟩,
      ⟨.number (Numeral.nearest (Text.decimal ds)), gap'.any isLineEnd⟩] rest := by
  have hnumeral := leads_numeral hds hgap' hrest
  obtain ⟨c, cs, hcs, hc⟩ : ∃ c cs, gap' ++ ds ++ rest = c :: cs ∧ c ≠ '-' ∧ c ≠ '=' := by
    cases gap' with
    | nil =>
      obtain ⟨d, ds, rfl, hd⟩ := hds.exists_cons
      exact ⟨d, _, rfl, ne_of_isDigit hd (by decide), ne_of_isDigit hd (by decide)⟩
    | cons c gap' =>
      have hspace := hgap' c (List.mem_cons_self ..)
      refine ⟨c, _, rfl, ?_, ?_⟩ <;>
      · rintro rfl
        exact absurd hspace (by decide)
  have hminus := leads_minus hgap hc cs
  rw [← hcs] at hminus
  rw [← List.singleton_append, ← List.append_assoc]
  exact hminus.append hnumeral

/-- **The text is read as the words of the expression** before a text that no number goes on with. -/
theorem exists_words (h : IsWritten l cs e) :
    ∃ ws, HasWords l ws e ∧ ws.length ≤ cs.length ∧ ∀ rest, EndsNumeral rest → Leads cs ws rest := by
  induction h with
  | number l hgap hds =>
    refine ⟨_, .number l _ _, ?_, fun rest hrest => leads_numeral hds hgap hrest⟩
    obtain ⟨d, ds, rfl, hd⟩ := hds.exists_cons
    simp only [List.length_append, List.length_cons, List.length_nil]
    omega
  | negative l hgap hgap' hds =>
    refine ⟨_, .negative l _ _ _, ?_, fun rest hrest => leads_negative hgap hgap' hds hrest⟩
    obtain ⟨d, ds, rfl, hd⟩ := hds.exists_cons
    simp only [List.length_append, List.length_cons, List.length_nil]
    omega
  | name l hgap hx hv =>
    refine ⟨_, .name l hv _, ?_, fun rest hrest => leads_name hx.isName hgap hrest.endsName⟩
    obtain ⟨c, cs, hcs, -⟩ := hx
    simp only [hcs, List.length_append, List.length_cons, List.length_nil]
    omega
  | @group l gap cs gap' e hgap he hgap' ih =>
    obtain ⟨ws, hws, hlength, hleads⟩ := ih
    refine ⟨_, .group l (gap.any isLineEnd) (gap'.any isLineEnd) hws, ?_, fun rest _ => ?_⟩
    · simp only [List.length_append, List.length_cons, List.length_nil]
      omega
    · have hends : EndsNumeral (gap' ++ ([')'] ++ rest)) :=
        EndsNumeral.after_gap (endsNumeral_cons (by decide) (by decide) (by decide)) hgap'
      rw [← List.append_assoc] at hends
      have hopen := leads_mark (m := "(") (by decide) hgap (cs ++ (gap' ++ [')']) ++ rest)
      have hclose := leads_mark (m := ")") (by decide) hgap' rest
      have hall := hopen.append ((hleads _ hends).append hclose)
      rw [List.append_assoc] at hall
      exact hall
  | @binary o cs gap cs' a b ha hgap hb iha ihb =>
    obtain ⟨ws, hws, hlength, hleads⟩ := iha
    obtain ⟨ws', hws', hlength', hleads'⟩ := ihb
    have hmark : 0 < o.mark.toList.length ∧ o.mark ∈ ["+", "|", "<<"] := by cases o <;> decide
    refine ⟨_, .binary o (gap.any isLineEnd) hws hws', ?_, fun rest hrest => ?_⟩
    · simp only [List.length_append, List.length_cons]
      omega
    · obtain ⟨c, cs', rfl, hc⟩ := hb.exists_cons
      have hoperator := leads_operator hmark.2 hgap hc.not_mem (cs' ++ rest)
      have hends : EndsNumeral (gap ++ (o.mark.toList ++ (c :: cs' ++ rest))) :=
        EndsNumeral.after_gap (by cases o <;> exact endsNumeral_cons (by decide) (by decide) (by decide)) hgap
      have hright := hoperator.append (hleads' rest hrest)
      rw [List.append_assoc] at hright
      refine (hleads _ ?_).append hright
      simpa using hends
  | weaken hl he ih =>
    obtain ⟨ws, hws, hlength, hleads⟩ := ih
    exact ⟨ws, hws.weaken hl, hlength, hleads⟩

end IsWritten

theorem isWritten_ofInt {gap : List Char} (i : Int) (hgap : IsGap gap) :
    IsWritten 1 (gap ++ (toString i).toList) (ofInt i) := by
  cases i with
  | ofNat n =>
    have htext : (toString (Int.ofNat n)).toList = Nat.toDigits 10 n := by simp [toString, Int.repr]
    have hnumber := IsWritten.number 1 hgap (isNumeral_toDigits n)
    rwa [Text.decimal_toDigits, ← htext] at hnumber
  | negSucc n =>
    have htext : (toString (Int.negSucc n)).toList = '-' :: Nat.toDigits 10 (n + 1) := by simp [toString, Int.repr]
    have hnegative := IsWritten.negative 1 hgap IsGap.nil (isNumeral_toDigits (n + 1))
    rwa [Text.decimal_toDigits, List.nil_append, ← htext] at hnegative

end Flags
end Script
end Restyle
