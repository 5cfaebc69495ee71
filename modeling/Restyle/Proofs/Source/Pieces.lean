import Restyle.Proofs.Script.Strings
import Restyle.Proofs.Source.Bytes.Attributes
import Restyle.Proofs.Source.Bytes.Types
import Restyle.Proofs.Source.TokensRead

/-!
# Restyle.Proofs.Source.Pieces

Texts without their comments, the search for a closing bracket, and texts split at a mark.
`Uncommented` is said of a text and of what is left of it, `Walks` of a text that leaves a search so
many brackets deep. A text with every bracket closed (`Flat`) is passed over by all of these searches,
and comments in it do not matter if they hold no quotation mark and no bracket (`Uncommented.walks`).
-/

namespace Restyle
namespace Source

open Scan Listing
open Script (StringBody)

variable {s : Listing} {i start depth fuel : Nat} {c mark quote : Char} {t u r body : List Char}

/-! ## Strings -/

theorem stringEndFrom?_add (hquote : quote = '"' ∨ quote = '\'') (hbody : StringBody quote body)
    (h : s.tail i = body ++ r) : stringEndFrom? quote s.chars i = some (i + body.length) := by
  induction hbody generalizing i with
  | close =>
    rw [Utf8.stringEndFrom?_of_getElem? (charAt?_of_cons h)]
    rcases hquote with rfl | rfl <;> rfl
  | escape d hs ih =>
    have hrest : stringEndFrom? quote s.chars (i + 2) = _ := ih (tail_add (t := ['\\', d]) h)
    rw [Utf8.stringEndFrom?_of_getElem? (charAt?_of_cons h), if_pos (by decide), hrest]
    simp only [List.length_cons]
    congr 1
    omega
  | char hmark hslash hline hs ih =>
    rw [Utf8.stringEndFrom?_of_getElem? (charAt?_of_cons h), if_neg (by simpa using hslash),
      if_neg (by simp [hline]), if_neg (by simpa using hmark), ih (tail_succ h)]
    simp only [List.length_cons]
    congr 1
    omega

theorem stringEnd?_add (hquote : quote = '"' ∨ quote = '\'') (hbody : StringBody quote body)
    (h : s.tail i = quote :: body ++ r) : stringEnd? s.chars i = some (i + (quote :: body).length) := by
  have hchar : s.chars[i]? = some quote := charAt?_of_cons h
  rw [stringEnd?, hchar]
  dsimp only
  rw [stringEndFrom?_add hquote hbody (tail_succ h), List.length_cons]
  congr 1
  omega

theorem stringStop_add (hquote : quote = '"' ∨ quote = '\'') (hbody : StringBody quote body)
    (h : s.tail i = quote :: body ++ r) : stringStop s.chars i = i + (quote :: body).length := by
  rw [stringStop, stringEnd?_add hquote hbody h, Option.getD_some]

theorem closeFrom?_string (hquote : quote = '"' ∨ quote = '\'') (hbody : StringBody quote body)
    (h : s.tail i = quote :: body ++ r) :
    closeFrom? s.chars depth i = closeFrom? s.chars depth (i + (quote :: body).length) := by
  obtain ⟨hi, hchar⟩ := Array.getElem?_eq_some_iff.mp (charAt?_of_cons h)
  have hmark : isQuoteMark s.chars[i] = true := by
    rw [hchar]
    rcases hquote with rfl | rfl <;> rfl
  have hend := stringEnd?_add hquote hbody h
  rw [closeFrom?.eq_def, dif_pos hi, if_pos hmark]
  split
  · rename_i next hnext
    rw [hend] at hnext
    rw [Option.some.inj hnext]
  · rename_i hnone
    rw [hend] at hnone
    cases hnone

/-! ## Comments -/

/-- A text, and the text without its comments, which are of such characters. Slashes stand in strings
and comments only. -/
inductive Uncommented (inside : Char → Bool) : List Char → List Char → Prop where
  | nil : Uncommented inside [] []
  | char {c : Char} {t u : List Char} (hquote : isQuoteMark c = false) (hslash : c ≠ '/')
      (h : Uncommented inside t u) : Uncommented inside (c :: t) (c :: u)
  | string {quote : Char} {body t u : List Char} (hquote : quote = '"' ∨ quote = '\'')
      (hbody : StringBody quote body) (h : Uncommented inside t u) :
      Uncommented inside (quote :: body ++ t) (quote :: body ++ u)
  | line {body t u : List Char} (hinside : ∀ c ∈ body, inside c = true) (hbody : '\n' ∉ body)
      (hend : ∀ c, t.head? = some c → c = '\n') (h : Uncommented inside t u) :
      Uncommented inside ('/' :: '/' :: body ++ t) u
  | block {body t u : List Char} (hinside : ∀ c ∈ body, inside c = true) (hbody : ¬ ['*', '/'] <:+: body)
      (h : Uncommented inside t u) :
      Uncommented inside (['/', '*'] ++ (body ++ '*' :: '/' :: t)) (' ' :: u)

theorem Uncommented.chars {inside : Char → Bool} {cs t u : List Char}
    (hcs : cs.all (fun c => !isQuoteMark c && c != '/') = true) (h : Uncommented inside t u) :
    Uncommented inside (cs ++ t) (cs ++ u) := by
  induction cs with
  | nil => exact h
  | cons c cs ih =>
    simp only [List.all_cons, Bool.and_eq_true, Bool.not_eq_true', bne_iff_ne] at hcs
    exact .char hcs.1.1 hcs.1.2 (ih hcs.2)

theorem withoutComments_of_getElem? (h : s.charAt? i = some c) :
    withoutComments s.chars (fuel + 1) i =
      if isQuoteMark c then
        slice s.chars i (stringStop s.chars i) ++ withoutComments s.chars fuel (stringStop s.chars i)
      else if startsAt s.chars i ['/', '/'] then withoutComments s.chars fuel (lineEnd s.chars i)
      else if startsAt s.chars i ['/', '*'] then
        ' ' :: withoutComments s.chars fuel ((commentEnd? s.chars (i + 2)).getD s.chars.size)
      else c :: withoutComments s.chars fuel (i + 1) := by
  have hchar : s.chars[i]? = some c := h
  rw [withoutComments, hchar]

theorem lineEnd_add (hi : i ≤ s.chars.size) (ht : '\n' ∉ t) (hr : ∀ c, r.head? = some c → c = '\n')
    (h : s.tail i = t ++ r) : lineEnd s.chars i = i + t.length := by
  rw [TokenReads.lineEnd_eq_skip hi]
  refine skip_add h (fun c hc => ?_) fun c hc => by rw [hr c hc]; rfl
  rw [bne_iff_ne]
  rintro rfl
  exact ht hc

theorem exists_fuel (hfuel : s.chars.size < fuel + i) (h : s.tail i = t ++ r) (ht : t ≠ []) :
    ∃ n, fuel = n + 1 ∧ i + t.length ≤ s.chars.size ∧ s.chars.size < n + (i + t.length) := by
  have hle := add_length_le_size h ht
  have hpos := List.length_pos_iff.mpr ht
  exact ⟨fuel - 1, by omega, hle, by omega⟩

/-- **Comments are taken out of a text.** -/
theorem withoutComments_eq {inside : Char → Bool} (h : Uncommented inside t u) (ht : s.tail i = t) (hi : i ≤ s.chars.size)
    (hfuel : s.chars.size < fuel + i) : withoutComments s.chars fuel i = u := by
  have hslash : isQuoteMark '/' = false := rfl
  induction h generalizing i fuel with
  | nil =>
    obtain ⟨n, rfl⟩ : ∃ n, fuel = n + 1 := ⟨fuel - 1, by omega⟩
    have hnone : s.chars[i]? = none := by
      show s.charAt? i = none
      rw [charAt?_eq, ht]
      rfl
    rw [withoutComments, hnone]
  | @char c t u hquote hne h ih =>
    obtain ⟨n, rfl, hle, hn⟩ := exists_fuel (t := [c]) hfuel ht (List.cons_ne_nil _ _)
    have hstarts : ∀ d, startsAt s.chars i ['/', d] = false := fun d => by
      rw [startsAt_eq, ht]
      simp [List.isPrefixOf, Ne.symm hne]
    rw [withoutComments_of_getElem? (charAt?_of_cons ht), hquote, hstarts, hstarts]
    simp only [Bool.false_eq_true, if_false]
    rw [ih (tail_succ ht) hle hn]
  | @string quote body t u hquote hbody h ih =>
    obtain ⟨n, rfl, hle, hn⟩ := exists_fuel (t := quote :: body) hfuel ht (List.cons_ne_nil _ _)
    have hmark : isQuoteMark quote = true := by rcases hquote with rfl | rfl <;> rfl
    rw [withoutComments_of_getElem? (charAt?_of_cons ht), if_pos hmark, stringStop_add hquote hbody ht,
      slice_add ht, ih (tail_add ht) hle hn]
  | @line body t u hinside hbody hend h ih =>
    obtain ⟨n, rfl, hle, hn⟩ := exists_fuel (t := '/' :: '/' :: body) hfuel ht (List.cons_ne_nil _ _)
    have hstarts : startsAt s.chars i ['/', '/'] = true := by
      rw [startsAt_eq, ht]
      rfl
    have hline : lineEnd s.chars i = i + ('/' :: '/' :: body).length :=
      lineEnd_add hi (by simpa using hbody) hend ht
    rw [withoutComments_of_getElem? (charAt?_of_cons ht), hslash, hstarts, hline]
    simp only [Bool.false_eq_true, if_false, if_true]
    exact ih (tail_add ht) hle hn
  | @block body t u hinside hbody h ih =>
    have ht' : s.tail i = (['/', '*'] ++ (body ++ ['*', '/'])) ++ t := by simpa using ht
    obtain ⟨n, rfl, hle, hn⟩ := exists_fuel hfuel ht' (List.cons_ne_nil _ _)
    have hstarts : startsAt s.chars i ['/', '/'] = false ∧ startsAt s.chars i ['/', '*'] = true := by
      rw [startsAt_eq, startsAt_eq, ht]
      exact ⟨rfl, rfl⟩
    have hend : commentEnd? s.chars (i + 2) = some (i + (['/', '*'] ++ (body ++ ['*', '/'])).length) := by
      have hfound : commentEnd? s.chars (i + 2) = _ := commentEnd?_add hbody (tail_add (t := ['/', '*']) ht)
      rw [hfound]
      simp only [List.length_append, List.length_cons, List.length_nil]
      congr 1
      omega
    rw [withoutComments_of_getElem? (charAt?_of_cons ht), hslash, hstarts.1, hstarts.2, hend, Option.getD_some]
    simp only [Bool.false_eq_true, if_false, if_true]
    rw [ih (tail_add ht') hle hn]

/-! ## Brackets and marks -/

/-- A search that is so many brackets deep before a text is so many deep behind it. The marks stand in
strings only. -/
inductive Walks (marks : List Char) : Nat → List Char → Nat → Prop where
  | nil (d : Nat) : Walks marks d [] d
  | char {d d' : Nat} {c : Char} {t : List Char} (hquiet : isQuiet c = true) (hmark : c ∉ marks)
      (h : Walks marks d t d') : Walks marks d (c :: t) d'
  | opens {d d' : Nat} {t : List Char} (h : Walks marks (d + 1) t d') : Walks marks d ('(' :: t) d'
  | closes {d d' : Nat} {t : List Char} (h : Walks marks d t d') : Walks marks (d + 1) (')' :: t) d'
  | string {d d' : Nat} {quote : Char} {body t : List Char} (hquote : quote = '"' ∨ quote = '\'')
      (hbody : StringBody quote body) (h : Walks marks d t d') : Walks marks d (quote :: body ++ t) d'

namespace Walks

variable {marks marks' : List Char} {d d' d'' : Nat}

theorem append (h : Walks marks d t d') (h' : Walks marks d' u d'') : Walks marks d (t ++ u) d'' := by
  induction h with
  | nil => exact h'
  | char hquiet hmark _ ih => exact .char hquiet hmark (ih h')
  | opens _ ih => exact .opens (ih h')
  | closes _ ih => exact .closes (ih h')
  | string hquote hbody _ ih =>
    rw [List.append_assoc]
    exact .string hquote hbody (ih h')

theorem mono (hmarks : marks' ⊆ marks) (h : Walks marks d t d') : Walks marks' d t d' := by
  induction h with
  | nil => exact .nil _
  | char hquiet hmark _ ih => exact .char hquiet (fun hc => hmark (hmarks hc)) ih
  | opens _ ih => exact .opens ih
  | closes _ ih => exact .closes ih
  | string hquote hbody _ ih => exact .string hquote hbody ih

/-- What stands before the text, by what its first character is. -/
theorem of_cons (hc : isQuoteMark c = false) (h : Walks marks d (c :: t) d') :
    isQuiet c = true ∧ c ∉ marks ∧ Walks marks d t d' ∨ c = '(' ∧ Walks marks (d + 1) t d' ∨
      c = ')' ∧ ∃ e, d = e + 1 ∧ Walks marks e t d' := by
  generalize hcs : c :: t = cs at h
  cases h with
  | nil => cases hcs
  | char hquiet hmark h =>
    cases hcs
    exact .inl ⟨hquiet, hmark, h⟩
  | opens h =>
    cases hcs
    exact .inr (.inl ⟨rfl, h⟩)
  | closes h =>
    cases hcs
    exact .inr (.inr ⟨rfl, _, rfl, h⟩)
  | string hquote hbody h =>
    cases hcs
    rcases hquote with rfl | rfl <;> cases hc

theorem of_string (hquote : quote = '"' ∨ quote = '\'') (hbody : StringBody quote body)
    (h : Walks marks d (quote :: body ++ t) d') : Walks marks d t d' := by
  have hmark : isQuoteMark quote = true := by rcases hquote with rfl | rfl <;> rfl
  generalize hcs : quote :: body ++ t = cs at h
  rw [List.cons_append] at hcs
  cases h with
  | nil => cases hcs
  | char hquiet =>
    cases hcs
    rw [isQuiet, hmark] at hquiet
    cases hquiet
  | opens =>
    cases hcs
    cases hmark
  | closes =>
    cases hcs
    cases hmark
  | string hquote' hbody' h =>
    rw [List.cons_append, List.cons.injEq] at hcs
    obtain ⟨rfl, hcs⟩ := hcs
    have hslash : quote ≠ '\\' := by rcases hquote with rfl | rfl <;> decide
    rwa [(hbody.append_inj hbody' hslash hcs).2]

theorem closeFrom?_eq (h : Walks marks d t d') (ht : s.tail i = t ++ r) :
    closeFrom? s.chars (d + 1) i = closeFrom? s.chars (d' + 1) (i + t.length) := by
  induction h generalizing i with
  | nil => rfl
  | char hquiet _ _ ih =>
    rw [closeFrom?_quiet (charAt?_of_cons ht) hquiet, ih (tail_succ ht), List.length_cons]
    congr 1
    omega
  | opens _ ih =>
    rw [closeFrom?_open (charAt?_of_cons ht) rfl, ih (tail_succ ht), List.length_cons]
    congr 1
    omega
  | closes _ ih =>
    rw [closeFrom?_close (charAt?_of_cons ht) rfl, ih (tail_succ ht), List.length_cons]
    congr 1
    omega
  | string hquote hbody _ ih =>
    rw [List.append_assoc] at ht
    rw [closeFrom?_string hquote hbody ht, ih (tail_add ht), List.length_append, Nat.add_assoc]

theorem splitFrom_eq (h : Walks marks d t d') (hmark : mark ∈ marks) (ht : s.tail i = t ++ r) :
    splitFrom s.chars mark d start i = splitFrom s.chars mark d' start (i + t.length) := by
  induction h generalizing i with
  | nil => rfl
  | @char d d' c t hquiet hne _ ih =>
    have hchar : s.chars[i]? = some c := charAt?_of_cons ht
    have hother : c ≠ mark := fun heq => hne (heq ▸ hmark)
    have hrest := ih (tail_succ ht)
    simp only [isQuiet, Bool.not_eq_true', Bool.or_eq_false_iff] at hquiet
    rw [Encoded.splitFrom_of_getElem? hchar, List.length_cons, ← Nat.add_assoc, Nat.add_right_comm i, ← hrest]
    simp [hquiet, hother]
  | opens _ ih =>
    have hchar : s.chars[i]? = some '(' := charAt?_of_cons ht
    have hrest := ih (tail_succ ht)
    rw [Encoded.splitFrom_of_getElem? hchar, List.length_cons, ← Nat.add_assoc, Nat.add_right_comm i, ← hrest]
    rfl
  | closes _ ih =>
    have hchar : s.chars[i]? = some ')' := charAt?_of_cons ht
    have hrest := ih (tail_succ ht)
    rw [Encoded.splitFrom_of_getElem? hchar, List.length_cons, ← Nat.add_assoc, Nat.add_right_comm i, ← hrest]
    rfl
  | @string d d' quote body t hquote hbody _ ih =>
    rw [List.append_assoc] at ht
    have hchar : s.chars[i]? = some quote := charAt?_of_cons ht
    have hquoteMark : isQuoteMark quote = true := by rcases hquote with rfl | rfl <;> rfl
    rw [Encoded.splitFrom_of_getElem? hchar, if_pos hquoteMark, stringStop_add hquote hbody ht,
      ih (tail_add ht), List.length_append, Nat.add_assoc]

end Walks

/-- A text in which every bracket is closed. The marks stand in strings only. -/
def Flat (marks : List Char) (t : List Char) : Prop := ∀ d, Walks marks d t d

namespace Flat

variable {marks marks' : List Char}

theorem nil (marks : List Char) : Flat marks [] := fun d => .nil d

theorem append (h : Flat marks t) (h' : Flat marks u) : Flat marks (t ++ u) := fun d => (h d).append (h' d)

theorem mono (hmarks : marks' ⊆ marks) (h : Flat marks t) : Flat marks' t := fun d => (h d).mono hmarks

theorem cons (hquiet : isQuiet c = true) (hmark : c ∉ marks) (h : Flat marks t) : Flat marks (c :: t) :=
  fun d => .char hquiet hmark (h d)

theorem of_forall (h : ∀ c ∈ t, isQuiet c = true ∧ c ∉ marks) : Flat marks t := by
  induction t with
  | nil => exact nil marks
  | cons c t ih =>
    obtain ⟨⟨hquiet, hmark⟩, ht⟩ := List.forall_mem_cons.mp h
    exact cons hquiet hmark (ih ht)

theorem string (hquote : quote = '"' ∨ quote = '\'') (hbody : StringBody quote body) :
    Flat marks (quote :: body) := fun d => by
  have h : Walks marks d (quote :: body ++ []) d := .string hquote hbody (.nil d)
  rwa [List.append_nil] at h

theorem parentheses (h : Flat marks t) : Flat marks ('(' :: t ++ [')']) := fun d =>
  .opens ((h (d + 1)).append (.closes (.nil d)))

theorem intercalate (hquiet : isQuiet mark = true) {ps : List (List Char)} (h : ∀ p ∈ ps, Flat [] p) :
    Flat [] ([mark].intercalate ps) := by
  induction ps with
  | nil => exact nil []
  | cons p ps ih =>
    obtain ⟨hp, hps⟩ := List.forall_mem_cons.mp h
    cases ps with
    | nil => simpa [List.intercalate] using hp
    | cons q ps =>
      have hrest := hp.append (cons hquiet (List.not_mem_nil) (ih hps))
      simpa [List.intercalate] using hrest

end Flat

/-- Comments without quotation marks and brackets do not count. -/
theorem Uncommented.walks {inside : Char → Bool} {d d' : Nat} (h : Uncommented inside t u)
    (hinside : ∀ c, inside c = true → isQuiet c = true) (hw : Walks [] d u d') : Walks [] d t d' := by
  induction h generalizing d with
  | nil => exact hw
  | char hquote hslash _ ih =>
    obtain ⟨hquiet, -, hu⟩ | ⟨rfl, hu⟩ | ⟨rfl, e, rfl, hu⟩ := hw.of_cons hquote
    · exact .char hquiet List.not_mem_nil (ih hu)
    · exact .opens (ih hu)
    · exact .closes (ih hu)
  | string hquote hbody _ ih => exact .string hquote hbody (ih (hw.of_string hquote hbody))
  | @line body t u hchars _ _ _ ih =>
    have hbody : Flat [] body := .of_forall fun c hc => ⟨hinside c (hchars c hc), List.not_mem_nil⟩
    exact .char rfl List.not_mem_nil (.char rfl List.not_mem_nil ((hbody d).append (ih hw)))
  | @block body t u hchars _ _ ih =>
    have hbody : Flat [] body := .of_forall fun c hc => ⟨hinside c (hchars c hc), List.not_mem_nil⟩
    obtain ⟨-, -, hw⟩ | ⟨h, -⟩ | ⟨h, -⟩ := hw.of_cons rfl
    · have hend := Walks.char (c := '*') rfl List.not_mem_nil (.char (c := '/') rfl List.not_mem_nil (ih hw))
      exact .char rfl List.not_mem_nil (.char rfl List.not_mem_nil ((hbody d).append hend))
    · cases h
    · cases h

/-! ## Pieces -/

theorem splitFrom_intercalate (hmark : isQuiet mark = true) {p : List Char} {ps : List (List Char)}
    {marks : List Char} (hin : mark ∈ marks) (hps : ∀ q ∈ p :: ps, Flat marks q) (h : s.tail i = [mark].intercalate (p :: ps)) :
    splitFrom s.chars mark 0 i i = p :: ps := by
  induction ps generalizing p i with
  | nil =>
    have htail : s.tail i = p ++ [] := by simpa [List.intercalate] using h
    have hnone : s.chars[i + p.length]? = none := by
      show s.charAt? _ = none
      rw [charAt?_eq, tail_add htail]
      rfl
    rw [(hps p (List.mem_cons_self ..) 0).splitFrom_eq hin htail, Encoded.splitFrom_of_none hnone, slice_to_size]
    exact congrArg (fun t => [t]) (htail.trans (List.append_nil p))
  | cons q ps ih =>
    obtain ⟨hp, hps⟩ := List.forall_mem_cons.mp hps
    have htail : s.tail i = p ++ mark :: [mark].intercalate (q :: ps) := by
      rw [h]
      simp [List.intercalate]
    have hrest := tail_add htail
    have hchar : s.chars[i + p.length]? = some mark := charAt?_of_cons hrest
    simp only [isQuiet, Bool.not_eq_true', Bool.or_eq_false_iff] at hmark
    rw [(hp 0).splitFrom_eq hin htail, Encoded.splitFrom_of_getElem? hchar]
    simp only [hmark, beq_self_eq_true, Bool.and_self, Bool.false_eq_true, if_false, if_true]
    rw [slice_add htail, ih hps (tail_succ hrest)]

/-- **A text is split at a mark into the pieces that the mark does not part.** -/
theorem split_intercalate (hmark : isQuiet mark = true) {ps : List (List Char)} (hne : ps ≠ [])
    {marks : List Char} (hin : mark ∈ marks) (hps : ∀ p ∈ ps, Flat marks p) : split ([mark].intercalate ps) mark = ps := by
  obtain ⟨p, ps, rfl⟩ := List.exists_cons_of_ne_nil hne
  exact splitFrom_intercalate (s := ⟨([mark].intercalate (p :: ps)).toArray, .js⟩) hmark hin hps rfl

end Source
end Restyle
