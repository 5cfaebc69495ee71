import Restyle.Proofs.Script.Words

/-!
# Restyle.Proofs.Script.Strings

Strings as words of scripts. `IsQuoted` says what a string stands for; it is read so whatever stands
behind it.
-/

namespace Restyle
namespace Script

variable {c : Char} {rest : List Char}

/-! ## Escapes -/

/-- Characters that neither end a string nor escape, whatever its marks are. -/
def IsInner (c : Char) : Prop := c ≠ '"' ∧ c ≠ '\'' ∧ c ≠ '\\'

theorem isInner_of_isHexDigit (hc : Text.isHexDigit c = true) : IsInner c := by
  refine ⟨?_, ?_, ?_⟩ <;>
  · rintro rfl
    exact absurd hc (by decide)

/-- A code point is read whatever stands behind it. -/
theorem codePoint?_append {cs rest : List Char} {n : Nat} (h : codePoint? cs = some (n, rest)) :
    ∃ mid, cs = mid ++ rest ∧ (∀ c ∈ mid, IsInner c ∧ c ≠ '\n') ∧
      ∀ rest', codePoint? (mid ++ rest') = some (n, rest') := by
  have hhex : ∀ c, Text.isHexDigit c = true → IsInner c ∧ c ≠ '\n' := by
    intro c hc
    refine ⟨isInner_of_isHexDigit hc, ?_⟩
    rintro rfl
    exact absurd hc (by decide)
  unfold codePoint? at h
  split at h
  · rename_i body
    have hds : ∀ c ∈ body.takeWhile Text.isHexDigit, Text.isHexDigit c = true :=
      List.all_eq_true.mp List.all_takeWhile
    generalize hds' : body.takeWhile Text.isHexDigit = ds at h hds
    dsimp only at h
    split at h
    · rename_i rest' hrest
      have hbody : body = ds ++ '}' :: rest' := by
        rw [← List.takeWhile_append_dropWhile (p := Text.isHexDigit) (l := body), hds', hrest]
      split at h
      · rename_i hvalid
        cases h
        refine ⟨'{' :: ds ++ ['}'], by simp [hbody], ?_, fun rest' => ?_⟩
        · intro c hc
          rw [List.cons_append, List.mem_cons, List.mem_append, List.mem_singleton] at hc
          rcases hc with rfl | hc | rfl
          · exact ⟨by unfold IsInner; decide, by decide⟩
          · exact hhex c (hds c hc)
          · exact ⟨by unfold IsInner; decide, by decide⟩
        · have htake : (ds ++ '}' :: rest').takeWhile Text.isHexDigit = ds := by
            rw [List.takeWhile_append_of_pos hds, List.takeWhile_cons_of_neg (by decide), List.append_nil]
          have hdrop : (ds ++ '}' :: rest').dropWhile Text.isHexDigit = '}' :: rest' := by
            rw [List.dropWhile_append_of_pos hds, List.dropWhile_cons_of_neg (by decide)]
          rw [List.append_assoc, List.cons_append]
          simp only [codePoint?, List.singleton_append, htake, hdrop, hvalid, if_true]
      · cases h
    · cases h
  · rename_i a b c d rest' hbrace
    split at h
    · rename_i hall
      cases h
      refine ⟨[a, b, c, d], rfl, ?_, fun rest' => ?_⟩
      · intro e he
        exact hhex e (List.all_eq_true.mp hall e he)
      · unfold codePoint?
        split
        · rename_i heq
          cases heq
          exact absurd (List.all_eq_true.mp hall '{' (List.mem_cons_self ..)) (by decide)
        · rename_i heq
          cases heq
          rw [if_pos hall]
          rfl
        · rename_i hshort
          exact absurd rfl (hshort a b c d rest')
    · cases h
  · cases h

theorem escape?_other {d : Char} {body : List Char} (hd : d ∉ ['n', 't', 'r', 'b', 'f', 'v', 'x', 'u'])
    (hline : d = '\r' → body.head? ≠ some '\n') :
    escape? (d :: body) =
      (if isLineEnd d then some []
        else if d.isDigit then if d == '0' && !body.head?.any Char.isDigit then some [0] else none
        else some (Utf16.unitsOfChar d)).map fun us => (us, body) := by
  unfold escape?
  split
  · rename_i heq
    cases heq
  iterate 9
    rename_i heq
    cases heq
    exact absurd hd (by decide)
  · rename_i heq
    cases heq
    exact absurd rfl (hline rfl)
  · rename_i heq
    cases heq
    split
    · rfl
    · split
      · split <;> rfl
      · rfl

/-- What an escape stands for does not depend on what stands behind the next character. -/
theorem escape?_append {cs rest : List Char} {us : List UInt16} {b : Char}
    (h : escape? cs = some (us, b :: rest)) :
    ∃ d mid, cs = d :: mid ++ b :: rest ∧ (∀ c ∈ mid, IsInner c ∧ (c = '\n' → d = '\r')) ∧
      ∀ rest', escape? (d :: mid ++ b :: rest') = some (us, b :: rest') := by
  have hsingle : ∀ d, escape? (d :: b :: rest) = some (us, b :: rest) →
      (∀ rest', escape? (d :: b :: rest') = some (us, b :: rest')) →
      ∃ d' mid, d :: b :: rest = d' :: mid ++ b :: rest ∧
        (∀ c ∈ mid, IsInner c ∧ (c = '\n' → d' = '\r')) ∧
        ∀ rest', escape? (d' :: mid ++ b :: rest') = some (us, b :: rest') :=
    fun d _ hd => ⟨d, [], rfl, List.forall_mem_nil _, hd⟩
  have hwhole := h
  unfold escape? at h
  split at h
  · cases h
  iterate 6
    cases h
    exact hsingle _ rfl fun _ => rfl
  · rename_i x y body
    split at h
    · rename_i hhex
      cases h
      rw [Bool.and_eq_true] at hhex
      have hline : ∀ c, Text.isHexDigit c = true → c ≠ '\n' := by
        rintro c hc rfl
        exact absurd hc (by decide)
      refine ⟨'x', [x, y], rfl, fun c hc => ?_, fun rest' => ?_⟩
      · rw [List.mem_cons, List.mem_singleton] at hc
        rcases hc with rfl | rfl
        · exact ⟨isInner_of_isHexDigit hhex.1, fun h => absurd h (hline _ hhex.1)⟩
        · exact ⟨isInner_of_isHexDigit hhex.2, fun h => absurd h (hline _ hhex.2)⟩
      · simp [escape?, hhex]
    · cases h
  · cases h
  · rename_i body
    rw [Option.map_eq_some_iff] at h
    obtain ⟨⟨n, rest'⟩, hfound, heq⟩ := h
    cases heq
    obtain ⟨mid, hmid, hinner, happend⟩ := codePoint?_append hfound
    refine ⟨'u', mid, by rw [hmid]; rfl, fun c hc => ?_, fun rest' => ?_⟩
    · exact ⟨(hinner c hc).1, fun h => absurd h (hinner c hc).2⟩
    · show (codePoint? (mid ++ b :: rest')).map _ = _
      rw [happend]
      rfl
  · cases h
    refine ⟨'\r', ['\n'], rfl, fun c hc => ⟨?_, fun _ => rfl⟩, fun _ => rfl⟩
    rw [List.mem_singleton.mp hc]
    exact ⟨by decide, by decide, by decide⟩
  · rename_i d body hn ht hr hb hf hv _ hx hu hreturn
    have hother : d ∉ ['n', 't', 'r', 'b', 'f', 'v', 'x', 'u'] := by
      simp only [List.mem_cons, List.not_mem_nil, or_false, not_or]
      exact ⟨hn, ht, hr, hb, hf, hv, hx, hu⟩
    have hline : d = '\r' → body.head? ≠ some '\n' := by
      intro hd hhead
      obtain ⟨rest', rfl⟩ := List.head?_eq_some_iff.mp hhead
      exact hreturn rest' hd rfl
    rw [escape?_other hother hline, Option.map_eq_some_iff] at hwhole
    obtain ⟨us', hus, heq⟩ := hwhole
    cases heq
    refine ⟨d, [], rfl, List.forall_mem_nil _, fun rest' => ?_⟩
    have hline' : d = '\r' → (b :: rest').head? ≠ some '\n' := hline
    show escape? (d :: b :: rest') = _
    rw [escape?_other hother hline', List.head?_cons]
    rw [List.head?_cons] at hus
    rw [hus]
    rfl

/-! ## Bodies of strings -/

/-- What stands in a string, up to its closing mark. -/
inductive StringBody (mark : Char) : List Char → Prop where
  | close : StringBody mark [mark]
  | escape {s : List Char} (d : Char) (hs : StringBody mark s) : StringBody mark ('\\' :: d :: s)
  | char {c : Char} {s : List Char} (hmark : c ≠ mark) (hslash : c ≠ '\\') (hline : c ≠ '\n')
      (hs : StringBody mark s) : StringBody mark (c :: s)

variable {mark : Char} {body : List Char} {us : List UInt16} {plain plain' : Bool} {out : List UInt16}
  {fuel : Nat}

theorem StringBody.append_chars {mid : List Char}
    (hmid : ∀ c ∈ mid, c ≠ mark ∧ c ≠ '\\' ∧ c ≠ '\n') (h : StringBody mark body) :
    StringBody mark (mid ++ body) := by
  induction mid with
  | nil => exact h
  | cons c mid ih =>
    obtain ⟨⟨hmark, hslash, hline⟩, hmid⟩ := List.forall_mem_cons.mp hmid
    exact .char hmark hslash hline (ih hmid)

theorem StringBody.stringSpan (h : StringBody mark body) (hmark : mark ≠ '\\') (rest : List Char) :
    Script.stringSpan mark (body ++ rest) = body.length := by
  induction h with
  | close =>
    rw [List.singleton_append, Script.stringSpan, if_pos (beq_self_eq_true mark)]
    · rfl
    · rintro _ _ rfl
      exact absurd rfl hmark
  | escape d _ ih =>
    rw [List.cons_append, List.cons_append, Script.stringSpan, ih]
    rfl
  | char hc hslash _ _ ih =>
    rw [List.cons_append, Script.stringSpan, if_neg (by simpa using hc), ih]
    · rfl
    · rintro _ _ rfl
      exact absurd rfl hslash

/-- A string ends at one place only. -/
theorem StringBody.append_inj {body' rest rest' : List Char} (h : StringBody mark body)
    (h' : StringBody mark body') (hmark : mark ≠ '\\') (heq : body ++ rest = body' ++ rest') :
    body = body' ∧ rest = rest' := by
  have hspan := h.stringSpan hmark rest
  rw [heq, h'.stringSpan hmark rest'] at hspan
  exact List.append_inj heq hspan.symm

theorem StringBody.exists_cons (h : StringBody mark body) : ∃ b s, body = b :: s := by
  cases h <;> exact ⟨_, _, rfl⟩

/-- A string that is read up to its mark is read so whatever stands behind it. -/
theorem readString_append {cs : List Char} (hmark : mark = '"' ∨ mark = '\'') (hreturn : '\r' ∉ cs)
    (h : readString mark fuel cs out plain = some (us, plain', rest)) :
    ∃ body, cs = body ++ rest ∧ StringBody mark body ∧ ∀ rest' fuel', fuel ≤ fuel' →
      readString mark fuel' (body ++ rest') out plain = some (us, plain', rest') := by
  have hslash : mark ≠ '\\' := by rcases hmark with rfl | rfl <;> decide
  induction fuel generalizing cs out plain with
  | zero => cases h
  | succ fuel ih =>
    have hfuel' : ∀ fuel', fuel + 1 ≤ fuel' → ∃ k, fuel' = k + 1 ∧ fuel ≤ k := fun fuel' hle =>
      ⟨fuel' - 1, by omega, by omega⟩
    cases cs with
    | nil => cases h
    | cons c cs =>
      rw [List.mem_cons, not_or] at hreturn
      rw [readString] at h
      split at h
      · rename_i hc
        rw [beq_iff_eq] at hc
        cases h
        refine ⟨[c], rfl, hc ▸ .close, fun rest' fuel' hle => ?_⟩
        obtain ⟨k, rfl, -⟩ := hfuel' fuel' hle
        rw [List.singleton_append, readString, if_pos (beq_iff_eq.mpr hc)]
      · rename_i hc
        split at h
        · cases h
        · rename_i hline
          split at h
          · rename_i hescape
            rw [beq_iff_eq] at hescape
            subst hescape
            split at h
            · rename_i us' cs' hread
              obtain ⟨b, s, rfl⟩ : ∃ b s, cs' = b :: s := by
                cases cs' with
                | nil => cases fuel <;> cases h
                | cons b s => exact ⟨b, s, rfl⟩
              obtain ⟨d, mid, rfl, hmid, hread'⟩ := escape?_append hread
              obtain ⟨body, hbody, hs, happend⟩ := ih (fun hmem => hreturn.2 (by simp_all)) h
              have hchars : ∀ c ∈ mid, c ≠ mark ∧ c ≠ '\\' ∧ c ≠ '\n' := by
                intro c hc
                obtain ⟨⟨hdouble, hsingle, hinner⟩, hbreak⟩ := hmid c hc
                refine ⟨?_, hinner, fun h => hreturn.2 (by simp [hbreak h])⟩
                rcases hmark with rfl | rfl
                · exact hdouble
                · exact hsingle
              refine ⟨'\\' :: d :: (mid ++ body), by simp [hbody], .escape d (hs.append_chars hchars),
                fun rest' fuel' hle => ?_⟩
              obtain ⟨k, rfl, hk⟩ := hfuel' fuel' hle
              obtain ⟨b', s', hcons⟩ := hs.exists_cons
              obtain ⟨rfl, rfl⟩ : b = b' ∧ s = s' ++ rest := by simpa [hcons] using hbody
              have hfound : escape? (d :: (mid ++ body) ++ rest') = some (us', body ++ rest') := by
                simpa [hcons] using hread' (s' ++ rest')
              rw [List.cons_append, readString, if_neg hc, if_neg hline, if_pos (beq_self_eq_true _),
                hfound]
              exact happend rest' k hk
            · cases h
          · rename_i hescape
            obtain ⟨s, rfl, hs, happend⟩ := ih hreturn.2 h
            have hbreak : c ≠ '\n' := by
              rintro rfl
              exact hline rfl
            refine ⟨c :: s, rfl, .char (by simpa using hc) (by simpa using hescape) hbreak hs,
              fun rest' fuel' hle => ?_⟩
            obtain ⟨k, rfl, hk⟩ := hfuel' fuel' hle
            rw [List.cons_append, readString, if_neg hc, if_neg hline, if_neg hescape]
            exact happend rest' k hk

/-! ## Strings as words -/

/-- Is the text a string of scripts that stands for these units? There must be no carriage return
in it, also not after a backslash. -/
structure IsQuoted (mark : Char) (inner : List Char) (s : Utf16) : Prop where
  isMark : mark = '"' ∨ mark = '\''
  noReturn : '\r' ∉ inner
  isRead : ∃ us plain, readString mark inner.length inner [] true = some (us, plain, []) ∧ Utf16.ofUnits us = s

variable {inner : List Char} {v : Utf16}

theorem IsQuoted.stringBody (h : IsQuoted mark inner v) : StringBody mark inner := by
  obtain ⟨us, plain, hread, -⟩ := h.isRead
  obtain ⟨body, hbody, hs, -⟩ := readString_append h.isMark h.noReturn hread
  rw [List.append_nil] at hbody
  exact hbody ▸ hs

theorem isToken_quoted (h : IsQuoted mark inner v) :
    ∃ plain, ∀ rest, IsToken (mark :: inner) (.string v plain) rest := by
  obtain ⟨us, plain, hread, rfl⟩ := h.isRead
  obtain ⟨body, hbody, hs, happend⟩ := readString_append h.isMark h.noReturn hread
  rw [List.append_nil] at hbody
  subst hbody
  refine ⟨plain, fun rest left hleft => ?_⟩
  rw [List.cons_append, List.length_cons, List.length_append] at hleft
  have hslash : mark ≠ '\\' := by rcases h.isMark with rfl | rfl <;> decide
  have htoken : readToken left (mark :: inner ++ rest) =
      (readString mark (left + 1) (inner ++ rest) [] true).map fun found =>
        (.string (Utf16.ofUnits found.1) found.2.1, stringSpan mark (inner ++ rest) + 1) := by
    rcases h.isMark with rfl | rfl <;> rfl
  rw [htoken, happend rest (left + 1) (by omega), hs.stringSpan hslash]
  rfl

theorem leads_quoted {gap : List Char} (h : IsQuoted mark inner v) (hgap : IsGap gap) :
    ∃ plain, ∀ rest, Leads (gap ++ mark :: inner) [⟨.string v plain, gap.any isLineEnd⟩] rest := by
  obtain ⟨plain, htoken⟩ := isToken_quoted h
  have hsolid : IsSolid mark := by rcases h.isMark with rfl | rfl <;> decide
  exact ⟨plain, fun rest => (htoken rest).leads hsolid hgap⟩

end Script
end Restyle
