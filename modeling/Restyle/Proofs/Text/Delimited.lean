import Restyle.Json.Text

/-!
# Restyle.Proofs.Text.Delimited

Written forms that say themselves where they end. A printer is `Delimited` on some values when
what it writes for one of them, followed by anything, shows which value it was and what follows.
Pairs and lists of delimited values are delimited.

So are quoted strings: one is read back, whatever follows it (`readStringPrefix?_quote`), and the
text after it is never taken for a part of it.
-/

namespace Restyle
namespace Text

variable {α β γ : Type}

/-- The text `write a ++ rest` shows both `a` and `rest`. -/
def Delimited (ok : α → Prop) (write : α → List Char) : Prop :=
  ∀ a b rest rest', ok a → ok b → write a ++ rest = write b ++ rest' → a = b ∧ rest = rest'

namespace Delimited

variable {ok : α → Prop} {ok' : β → Prop} {write : α → List Char} {write' : β → List Char}

/-- What a reader gets back is delimited. -/
theorem of_read {read : List Char → Option (α × List Char)}
    (h : ∀ a rest, read (write a ++ rest) = some (a, rest)) : Delimited (fun _ => True) write := by
  intro a b rest rest' _ _ heq
  have hab : some (a, rest) = some (b, rest') := by rw [← h a rest, ← h b rest', heq]
  cases hab
  exact ⟨rfl, rfl⟩

/-- Values that show in others are delimited as those are. -/
theorem comap {ok'' : γ → Prop} (h : Delimited ok write) {f : γ → α}
    (hok : ∀ c, ok'' c → ok (f c)) (hinj : ∀ c d, ok'' c → ok'' d → f c = f d → c = d) :
    Delimited ok'' fun c => write (f c) := by
  intro c d rest rest' hc hd heq
  obtain ⟨hf, rfl⟩ := h (f c) (f d) rest rest' (hok c hc) (hok d hd) heq
  exact ⟨hinj c d hc hd hf, rfl⟩

/-- A text that begins with a fixed mark. -/
theorem cons (h : Delimited ok write) (mark : Char) : Delimited ok fun a => mark :: write a := by
  intro a b rest rest' ha hb heq
  exact h a b rest rest' ha hb (List.cons.inj heq).2

/-- A text that a mark ends which does not occur in it. -/
theorem upTo {mark : Char} (hinj : ∀ a b, ok a → ok b → write a = write b → a = b)
    (hmark : ∀ a, ok a → mark ∉ write a) : Delimited ok fun a => write a ++ [mark] := by
  intro a b rest rest' ha hb heq
  have hcut : ∀ (cs ds : List Char), mark ∉ cs → mark ∉ ds →
      cs ++ mark :: rest = ds ++ mark :: rest' → cs = ds ∧ rest = rest' := by
    intro cs
    induction cs with
    | nil =>
      rintro (_ | ⟨d, ds⟩) _ hds h
      · cases h; exact ⟨rfl, rfl⟩
      · cases h; exact absurd (List.mem_cons_self ..) hds
    | cons c cs ih =>
      rintro (_ | ⟨d, ds⟩) hcs hds h
      · cases h; exact absurd (List.mem_cons_self ..) hcs
      · obtain ⟨rfl, htail⟩ := List.cons.inj h
        obtain ⟨rfl, rfl⟩ := ih ds (fun hm => hcs (List.mem_cons_of_mem _ hm))
          (fun hm => hds (List.mem_cons_of_mem _ hm)) htail
        exact ⟨rfl, rfl⟩
  obtain ⟨hab, rfl⟩ := hcut _ _ (hmark a ha) (hmark b hb) (by simpa using heq)
  exact ⟨hinj a b ha hb hab, rfl⟩

theorem pair (h : Delimited ok write) (h' : Delimited ok' write') (mark : List Char) :
    Delimited (fun p : α × β => ok p.1 ∧ ok' p.2)
      (fun p => write p.1 ++ (mark ++ write' p.2)) := by
  rintro ⟨a, x⟩ ⟨b, y⟩ rest rest' ⟨ha, hx⟩ ⟨hb, hy⟩ heq
  simp only [List.append_assoc] at heq
  obtain ⟨rfl, hmark⟩ := h a b _ _ ha hb heq
  obtain ⟨rfl, rfl⟩ := h' x y _ _ hx hy (List.append_cancel_left hmark)
  exact ⟨rfl, rfl⟩

theorem intercalate_map_cons (sep : Char) (a : α) (as : List α) :
    [sep].intercalate ((a :: as).map write) = write a ++ as.flatMap fun b => sep :: write b := by
  induction as generalizing a with
  | nil => simp
  | cons b as ih =>
    rw [List.map_cons, List.map_cons, List.intercalate_cons_cons, ← List.map_cons, ih b]
    simp

/-- Each further item begins with the separator, and the list ends with the closing mark. -/
theorem flatMap (h : Delimited ok write) {sep close : Char} (hne : sep ≠ close) :
    Delimited (fun as : List α => ∀ a ∈ as, ok a)
      (fun as => (as.flatMap fun a => sep :: write a) ++ [close]) := by
  intro as
  induction as with
  | nil =>
    intro bs rest rest' _ _ heq
    cases bs with
    | nil => simpa using heq
    | cons b bs => simp [Ne.symm hne] at heq
  | cons a as ih =>
    intro bs rest rest' ha hb heq
    cases bs with
    | nil => simp [hne] at heq
    | cons b bs =>
      obtain ⟨ha, has⟩ := List.forall_mem_cons.mp ha
      obtain ⟨hb, hbs⟩ := List.forall_mem_cons.mp hb
      simp only [List.flatMap_cons, List.cons_append, List.append_assoc, List.cons.injEq,
        true_and] at heq
      obtain ⟨rfl, heq'⟩ := h a b _ _ ha hb heq
      obtain ⟨rfl, rfl⟩ := ih bs rest rest' has hbs (by simpa using heq')
      exact ⟨rfl, rfl⟩

/-- A list with separators between its items is delimited by a mark that begins no item. -/
theorem list (h : Delimited ok write) {sep close : Char} (hne : sep ≠ close)
    (hhead : ∀ a, ok a → ∃ c cs, write a = c :: cs ∧ c ≠ close) :
    Delimited (fun as : List α => ∀ a ∈ as, ok a)
      (fun as => [sep].intercalate (as.map write) ++ [close]) := by
  intro as bs rest rest' ha hb heq
  dsimp only at heq
  cases as with
  | nil =>
    cases bs with
    | nil => simpa using heq
    | cons b bs =>
      obtain ⟨c, cs, hc, hcne⟩ := hhead b (hb b (List.mem_cons_self ..))
      rw [intercalate_map_cons, hc] at heq
      simp [Ne.symm hcne] at heq
  | cons a as =>
    cases bs with
    | nil =>
      obtain ⟨c, cs, hc, hcne⟩ := hhead a (ha a (List.mem_cons_self ..))
      rw [intercalate_map_cons, hc] at heq
      simp [hcne] at heq
    | cons b bs =>
      obtain ⟨ha, has⟩ := List.forall_mem_cons.mp ha
      obtain ⟨hb, hbs⟩ := List.forall_mem_cons.mp hb
      rw [intercalate_map_cons, intercalate_map_cons] at heq
      simp only [List.append_assoc] at heq
      obtain ⟨rfl, heq'⟩ := h a b _ _ ha hb heq
      obtain ⟨rfl, rfl⟩ := h.flatMap hne as bs rest rest' has hbs (by simpa using heq')
      exact ⟨rfl, rfl⟩

end Delimited
end Text

/-! ## Quoted strings -/

namespace Json

variable {c : Char} {fuel : Nat} {rest : List Char}

/-- Codes below that of the space are read back from their two digits. -/
theorem readUnit?_control (h : c.toNat < 32) :
    readUnit? ('0' :: '0' :: hexDigit (c.toNat / 16) :: hexDigit (c.toNat % 16) :: rest) =
      some (c.toNat, rest) := by
  have hdigits : ∀ n < 32, [hexDigit (n / 16), hexDigit (n % 16)].all Text.isHexDigit = true ∧
      Text.hexadecimal ['0', '0', hexDigit (n / 16), hexDigit (n % 16)] = n := by decide
  obtain ⟨hhex, hval⟩ := hdigits c.toNat h
  have hall : ['0', '0', hexDigit (c.toNat / 16), hexDigit (c.toNat % 16)].all
      Text.isHexDigit = true := hhex
  show (if _ then some (_, rest) else none) = _
  rw [hall, hval]
  rfl

theorem scalar?_toNat (c : Char) : Text.scalar? c.toNat = some c := by
  have hvalid : c.toNat.isValidChar := c.valid
  rw [Text.scalar?, dif_pos hvalid]
  rfl

/-- One escaped character is read back. -/
theorem readChars?_escapeChar (fuel : Nat) (c : Char) (rest : List Char) :
    readChars? (fuel + 1) (escapeChar c ++ rest) =
      (readChars? fuel rest).map fun (s, after) => (c :: s, after) := by
  unfold escapeChar
  by_cases hq : c = '"'
  · subst hq; rfl
  by_cases hb : c = '\\'
  · subst hb; rfl
  by_cases h₁ : c = '\x08'
  · subst h₁; rfl
  by_cases h₂ : c = '\x0c'
  · subst h₂; rfl
  by_cases h₃ : c = '\n'
  · subst h₃; rfl
  by_cases h₄ : c = '\r'
  · subst h₄; rfl
  by_cases h₅ : c = '\t'
  · subst h₅; rfl
  simp only [beq_iff_eq, hq, hb, h₁, h₂, h₃, h₄, h₅, if_false]
  by_cases hlt : c.toNat < 32
  · rw [if_pos hlt]
    have hsurrogate : (decide (0xD800 ≤ c.toNat) && decide (c.toNat < 0xDC00)) = false := by
      simp; omega
    simp only [List.cons_append, List.nil_append, readChars?, readEscape?,
      readUnit?_control hlt, hsurrogate, scalar?_toNat]
    rfl
  · rw [if_neg hlt]
    simp [readChars?, hq, hb, hlt]

theorem readChars?_flatMap (s : List Char) (h : s.length < fuel) :
    readChars? fuel (s.flatMap escapeChar ++ '"' :: rest) = some (s, rest) := by
  induction s generalizing fuel with
  | nil =>
    obtain ⟨fuel, rfl⟩ : ∃ k, fuel = k + 1 := ⟨fuel - 1, by simp at h; omega⟩
    rfl
  | cons c s ih =>
    obtain ⟨fuel, rfl⟩ : ∃ k, fuel = k + 1 := ⟨fuel - 1, by simp at h; omega⟩
    rw [List.flatMap_cons, List.append_assoc, readChars?_escapeChar,
      ih (by simpa using h)]
    rfl

theorem length_le_flatMap (s : List Char) : s.length ≤ (s.flatMap escapeChar).length := by
  induction s with
  | nil => exact Nat.zero_le _
  | cons c s ih =>
    have hc : 0 < (escapeChar c).length := by
      unfold escapeChar
      repeat' split
      all_goals simp
    simp only [List.flatMap_cons, List.length_append, List.length_cons]
    omega

theorem toList_quote (s : String) :
    (quote s).toList = '"' :: (s.toList.flatMap escapeChar ++ ['"']) := by
  simp [quote]

/-- A quoted string at the head of a text is read back. -/
theorem readStringPrefix?_quote (s : String) (rest : List Char) :
    readStringPrefix? ((quote s).toList ++ rest) = some (s, rest) := by
  have hhead : skipSpaces ((quote s).toList ++ rest) =
      '"' :: (s.toList.flatMap escapeChar ++ '"' :: rest) := by
    simp [toList_quote, skipSpaces, isSpace]
  have hfuel : s.toList.length < (s.toList.flatMap escapeChar ++ '"' :: rest).length + 1 := by
    have := length_le_flatMap s.toList
    simp only [List.length_append]
    omega
  have hread : readChars? _ (s.toList.flatMap escapeChar ++ '"' :: rest) = some (s.toList, rest) :=
    readChars?_flatMap s.toList hfuel
  unfold readStringPrefix?
  rw [hhead]
  show (readChars? _ _).map _ = _
  rw [hread]
  simp

theorem delimited_quote : Text.Delimited (fun _ => True) fun s => (quote s).toList :=
  .of_read readStringPrefix?_quote

end Json
end Restyle
