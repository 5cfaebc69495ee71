import Mathlib
import Restyle.Proofs.Stylesheet.Kept

/-!
# Restyle.Proofs.Stylesheet.Comments

What the removal of comments leaves.

* `Uncommented.stripComments_append`: a text whose comments are closed is read on its own, whatever
  follows it.
* `stripComments_stripComments_iff`: removing comments again changes nothing, unless the text
  `Joins`: a slash stands before a comment and a star behind it, and the two make a new comment.

`Uncommented` says of a text what stands outside its comments. Strings are tracked by the state that
the text outside the comments leads to (`Quote.past`).
-/

namespace Restyle
namespace Stylesheet

variable {q : Quote} {c : Char} {cs rest kept before after gap : List Char}

/-! ## Strings -/

namespace Quote

/-- The state past a text. -/
def past (q : Quote) (cs : List Char) : Quote := cs.foldl (fun q c => (q.feed c).1) q

@[simp] theorem past_nil (q : Quote) : q.past [] = q := rfl

@[simp] theorem past_cons (q : Quote) (c : Char) (cs : List Char) :
    q.past (c :: cs) = (q.feed c).1.past cs := rfl

@[simp] theorem past_append (q : Quote) (cs rest : List Char) :
    q.past (cs ++ rest) = (q.past cs).past rest := List.foldl_append

/-- A character belongs to a string if it stands in one or is a quotation mark. -/
theorem feed_snd_eq_false_iff : (q.feed c).2 = false ↔ q.mark = none ∧ c ≠ '\'' ∧ c ≠ '"' := by
  unfold feed
  cases q.mark with
  | none => by_cases hc : c = '\'' <;> by_cases hc' : c = '"' <;> simp [hc, hc']
  | some m =>
    dsimp only
    repeat' split
    all_goals simp

/-- Outside strings only quotation marks change the state. -/
theorem feed_of_outside (hq : q.mark = none) (hc : c ≠ '\'' ∧ c ≠ '"') : q.feed c = (q, false) := by
  unfold feed
  rw [hq]
  simp [hc]

theorem feed_fst_of_snd (h : (q.feed c).2 = false) : (q.feed c).1 = q := by
  obtain ⟨hq, hc⟩ := feed_snd_eq_false_iff.mp h
  rw [feed_of_outside hq hc]

/-- A state that a reader comes to: the mark is a quotation mark, and a backslash counts within
strings only. -/
structure IsProper (q : Quote) : Prop where
  mark : ∀ m ∈ q.mark, m = '\'' ∨ m = '"'
  escaped : q.escaped = true → q.mark.isSome = true

theorem IsProper.feed (hq : q.IsProper) (c : Char) : (q.feed c).1.IsProper := by
  obtain ⟨hmark, hescaped⟩ := hq
  unfold Quote.feed
  split
  · rename_i m heq
    have hm := hmark m heq
    repeat' split
    all_goals constructor <;> simp_all
  · rename_i heq
    split
    · rename_i hc
      constructor <;> simp_all
    · exact ⟨hmark, hescaped⟩

theorem isProper_past (cs : List Char) : (past {} cs).IsProper := by
  induction cs using List.reverseRecOn with
  | nil => exact ⟨by simp, by simp⟩
  | append_singleton cs c ih =>
    rw [past_append]
    exact ih.feed c

theorem past_eq_of_mark (h : (past {} cs).mark = none) : past {} cs = {} := by
  have hescaped := (isProper_past cs).escaped
  revert h hescaped
  generalize past {} cs = q
  obtain ⟨mark, escaped⟩ := q
  rintro rfl hescaped
  cases escaped with
  | false => rfl
  | true => cases hescaped rfl

theorem eq_of_feed {q' : Quote} (h : q.feed c = (q', false)) : q' = q := by
  have hstate := feed_fst_of_snd (q := q) (c := c) (by rw [h])
  rwa [h] at hstate

end Quote

/-! ## Comments -/

/-- A comment that ends where its first end mark does. -/
def IsComment (cs : List Char) : Prop :=
  ∃ body, cs = '/' :: '*' :: (body ++ ['*', '/']) ∧ ¬ ['*', '/'] <:+: body ++ ['*']

/-- One closed comment after another. -/
inductive IsGap : List Char → Prop where
  | nil : IsGap []
  | cons {comment cs : List Char} : IsComment comment → IsGap cs → IsGap (comment ++ cs)

theorem afterComment_append {body : List Char} (h : ¬ ['*', '/'] <:+: body ++ ['*']) :
    afterComment (body ++ '*' :: '/' :: rest) = rest := by
  induction body with
  | nil => rfl
  | cons b body ih =>
    have htail : ¬ ['*', '/'] <:+: body ++ ['*'] := fun hin => h (List.infix_cons hin)
    rw [List.cons_append, afterComment]
    · exact ih htail
    · -- the end mark does not begin here
      rintro tail rfl hbody
      apply h
      cases body with
      | nil => cases hbody
      | cons b' body =>
        obtain ⟨rfl, -⟩ := List.cons_eq_cons.mp hbody
        exact ⟨[], body ++ ['*'], rfl⟩

/-- Where something is left behind a comment, the comment is closed. -/
theorem exists_body_of_afterComment (h : afterComment cs = c :: rest) :
    ∃ body, cs = body ++ '*' :: '/' :: c :: rest ∧ ¬ ['*', '/'] <:+: body ++ ['*'] := by
  fun_induction afterComment cs with
  | case1 => cases h
  | case2 tail =>
    subst h
    refine ⟨[], rfl, fun hin => ?_⟩
    have := hin.length_le
    simp at this
  | case3 b tail hend ih =>
    obtain ⟨body, rfl, hbody⟩ := ih h
    refine ⟨b :: body, rfl, fun hin => ?_⟩
    rw [List.cons_append, List.infix_cons_iff] at hin
    obtain hstart | hin := hin
    · obtain ⟨tail, htail⟩ := hstart
      cases body with
      | nil => simp at htail
      | cons b' body =>
        simp only [List.cons_append, List.nil_append, List.cons.injEq] at htail
        obtain ⟨rfl, rfl, -⟩ := htail
        exact hend _ rfl rfl
    · exact hbody hin

/-! ## What stands outside comments -/

/-- All comments of a text are closed, and `kept` is what stands outside them. -/
inductive Uncommented : Quote → List Char → List Char → Prop where
  | nil (q : Quote) : Uncommented q [] []
  | char {q : Quote} {c : Char} {cs kept : List Char} :
      ((q.feed c).2 = true ∨ ¬ (c = '/' ∧ cs.head? = some '*')) →
      Uncommented (q.feed c).1 cs kept → Uncommented q (c :: cs) (c :: kept)
  | comment {q : Quote} {comment cs kept : List Char} : q.mark = none → IsComment comment →
      Uncommented q cs kept → Uncommented q (comment ++ cs) kept

theorem Uncommented.sublist (hu : Uncommented q cs kept) : kept.Sublist cs := by
  induction hu with
  | nil => exact .refl _
  | char _ _ ih => exact ih.cons_cons _
  | comment _ _ _ ih => exact ih.trans (List.sublist_append_right _ _)

theorem pastComment?_eq_none_iff :
    pastComment? c cs = none ↔ ¬ (c = '/' ∧ cs.head? = some '*') := by
  unfold pastComment?
  split
  · simp
  · rename_i hne
    rw [eq_self, true_iff]
    rintro ⟨rfl, hhead⟩
    obtain ⟨body, rfl⟩ := List.head?_eq_some_iff.mp hhead
    exact hne body rfl rfl

theorem stripComments_inside (h : (q.feed c).2 = true) :
    stripComments q (c :: cs) = c :: stripComments (q.feed c).1 cs := by
  rw [stripComments]
  revert h
  generalize q.feed c = fed
  obtain ⟨q', inside⟩ := fed
  rintro rfl
  rfl

theorem stripComments_outside (h : (q.feed c).2 = false) : stripComments q (c :: cs) =
    match pastComment? c cs with
    | some rest => stripComments q rest
    | none => c :: stripComments q cs := by
  have hq := Quote.feed_fst_of_snd h
  rw [stripComments]
  revert h hq
  generalize q.feed c = fed
  obtain ⟨q', inside⟩ := fed
  rintro h rfl
  cases h
  dsimp only
  split <;> simp_all

theorem stripComments_comment {comment : List Char} (hq : q.mark = none) (hc : IsComment comment) :
    stripComments q (comment ++ rest) = stripComments q rest := by
  obtain ⟨body, rfl, hbody⟩ := hc
  have hoff : (q.feed '/').2 = false := by rw [Quote.feed_of_outside hq (by decide)]
  have hpast : pastComment? '/' ('*' :: (body ++ ['*', '/']) ++ rest) = some rest := by
    rw [List.cons_append, List.append_assoc]
    exact congrArg some (afterComment_append hbody)
  rw [List.cons_append, stripComments_outside hoff, hpast]

theorem stripComments_gap (hq : q.mark = none) (hg : IsGap gap) :
    stripComments q (gap ++ rest) = stripComments q rest := by
  induction hg with
  | nil => rfl
  | cons hc _ ih => rw [List.append_assoc, stripComments_comment hq hc, ih]

/-- Characters that begin no comment are kept. -/
theorem stripComments_char (h : (q.feed c).2 = true ∨ ¬ (c = '/' ∧ cs.head? = some '*')) :
    stripComments q (c :: cs) = c :: stripComments (q.feed c).1 cs := by
  cases hfeed : (q.feed c).2 with
  | true => exact stripComments_inside hfeed
  | false =>
    have hpast := pastComment?_eq_none_iff.mpr (h.resolve_left (by simp [hfeed]))
    rw [stripComments_outside hfeed, hpast, Quote.feed_fst_of_snd hfeed]

/-- Does nothing that follows make a comment of the slash at the end? -/
def Ends (kept rest : List Char) : Prop := kept.getLast? ≠ some '/' ∨ rest.head? ≠ some '*'

theorem Ends.of_cons (h : Ends (c :: kept) rest) : Ends kept rest := by
  refine h.imp_left fun h => ?_
  cases kept with
  | nil => simp
  | cons d kept => rwa [List.getLast?_cons_cons] at h

theorem not_begins_append {q' : Quote} (hu : Uncommented q' cs kept) (hend : Ends (c :: kept) rest)
    (hc : (q.feed c).2 = true ∨ ¬ (c = '/' ∧ cs.head? = some '*')) :
    (q.feed c).2 = true ∨ ¬ (c = '/' ∧ (cs ++ rest).head? = some '*') := by
  refine hc.imp_right fun hc h => ?_
  cases cs with
  | nil =>
    obtain rfl := List.sublist_nil.mp hu.sublist
    obtain hend | hend := hend
    · exact hend (by rw [h.1]; rfl)
    · exact hend h.2
  | cons d cs => exact hc h

/-- **A text with closed comments is read on its own.** Only a slash at its end could begin a
comment with what follows. -/
theorem Uncommented.stripComments_append (hu : Uncommented q cs kept) (hend : Ends kept rest) :
    stripComments q (cs ++ rest) = kept ++ stripComments (q.past kept) rest := by
  induction hu with
  | nil => rfl
  | char hc hu ih =>
    rw [List.cons_append, stripComments_char (not_begins_append hu hend hc), ih hend.of_cons]
    rfl
  | comment hq hc _ ih => rw [List.append_assoc, stripComments_comment hq hc, ih hend]

theorem Uncommented.append {kept' : List Char} (hu : Uncommented q cs kept) (hend : Ends kept rest)
    (hrest : Uncommented (q.past kept) rest kept') :
    Uncommented q (cs ++ rest) (kept ++ kept') := by
  induction hu with
  | nil => exact hrest
  | char hc hu ih => exact .char (not_begins_append hu hend hc) (ih hend.of_cons hrest)
  | comment hq hc _ ih =>
    rw [List.append_assoc]
    exact .comment hq hc (ih hend hrest)

theorem Uncommented.stripComments_eq (hu : Uncommented q cs kept) : stripComments q cs = kept := by
  have hend : Ends kept [] := .inr (by simp)
  have h := hu.stripComments_append hend
  rwa [List.append_nil, stripComments, List.append_nil] at h

/-- Where nothing is removed no comment begins. -/
theorem not_begins_of_eq_self (h : stripComments q (c :: cs) = c :: cs) :
    (q.feed c).2 = true ∨ ¬ (c = '/' ∧ cs.head? = some '*') := by
  refine (Bool.eq_false_or_eq_true (q.feed c).2).imp_right ?_
  rintro hfeed ⟨rfl, hhead⟩
  obtain ⟨rest, rfl⟩ := List.head?_eq_some_iff.mp hhead
  rw [stripComments_outside hfeed] at h
  -- what is left behind the comment is shorter
  have hlength := (stripComments_sublist q (afterComment rest)).length_le
  rw [show stripComments q (afterComment rest) = _ from h] at hlength
  have := length_afterComment_le rest
  simp only [List.length_cons] at hlength
  omega

theorem uncommented_self (h : stripComments q cs = cs) : Uncommented q cs cs := by
  induction cs generalizing q with
  | nil => exact .nil q
  | cons c cs ih =>
    have hc := not_begins_of_eq_self h
    rw [stripComments_char hc, List.cons.injEq] at h
    exact .char hc (ih h.2)

/-- The strings and the comments of a text are closed. -/
def ClosesAll (cs : List Char) : Prop :=
  ∃ kept, Uncommented {} cs kept ∧ (Quote.past {} kept).mark = none

/-! ## Removing comments twice -/

/-- Removing comments changes nothing just where no comment mark stands outside strings. -/
theorem stripComments_eq_self_iff : stripComments q cs = cs ↔
    ∀ before rest, cs = before ++ '/' :: '*' :: rest → (q.past before).mark ≠ none := by
  induction cs generalizing q with
  | nil => simp [stripComments]
  | cons c cs ih =>
    constructor
    · intro hself before rest heq
      have hc := not_begins_of_eq_self hself
      rw [stripComments_char hc, List.cons.injEq, and_iff_right rfl, ih] at hself
      cases before with
      | nil =>
        obtain ⟨rfl, rfl⟩ := List.cons_eq_cons.mp heq
        intro hmark
        rw [Quote.past_nil] at hmark
        rw [Quote.feed_of_outside hmark (by decide)] at hc
        simp at hc
      | cons b before =>
        obtain ⟨rfl, rfl⟩ := List.cons_eq_cons.mp heq
        exact hself before rest rfl
    · intro hnone
      have hc : (q.feed c).2 = true ∨ ¬ (c = '/' ∧ cs.head? = some '*') := by
        refine (Bool.eq_false_or_eq_true (q.feed c).2).imp_right ?_
        rintro hfeed ⟨rfl, hhead⟩
        obtain ⟨rest, rfl⟩ := List.head?_eq_some_iff.mp hhead
        exact hnone [] rest rfl (Quote.feed_snd_eq_false_iff.mp hfeed).1
      rw [stripComments_char hc, ih.mpr]
      rintro before rest rfl
      exact hnone (c :: before) rest rfl

/-- A slash outside strings stands before comments, and a star behind them. -/
def Joins (cs : List Char) : Prop :=
  ∃ before kept gap rest, cs = before ++ '/' :: (gap ++ '*' :: rest) ∧ Uncommented {} before kept ∧
    (Quote.past {} kept).mark = none ∧ IsGap gap ∧ gap ≠ []

/-- What is read on behind a comment stands behind its end mark. -/
theorem exists_comment (h : pastComment? c cs = some rest) (hne : rest ≠ []) :
    ∃ comment, c :: cs = comment ++ rest ∧ IsComment comment := by
  unfold pastComment? at h
  split at h
  · rename_i body
    obtain ⟨d, rest, rfl⟩ := List.exists_cons_of_ne_nil hne
    obtain ⟨body, rfl, hbody⟩ := exists_body_of_afterComment (Option.some.inj h)
    exact ⟨'/' :: '*' :: (body ++ ['*', '/']), by simp, body, rfl, hbody⟩
  · cases h

/-- A star that is kept first stands behind comments. -/
theorem exists_gap (hq : q.mark = none) (hs : stripComments q cs = '*' :: rest) :
    ∃ gap rest', cs = gap ++ '*' :: rest' ∧ IsGap gap := by
  fun_induction stripComments q cs with
  | case1 => cases hs
  | case2 q c tail q' hfeed ih =>
    obtain rfl := (List.cons.inj hs).1
    rw [Quote.feed_of_outside hq (by decide)] at hfeed
    cases hfeed
  | case3 q c tail q' hfeed after hpast ih =>
    obtain rfl := Quote.eq_of_feed hfeed
    obtain ⟨gap, rest', rfl, hgap⟩ := ih hq hs
    obtain ⟨comment, heq, hc⟩ := exists_comment hpast (by simp)
    exact ⟨comment ++ gap, rest', by rw [heq, List.append_assoc], .cons hc hgap⟩
  | case4 q c tail q' hfeed hpast ih =>
    obtain rfl := (List.cons.inj hs).1
    exact ⟨[], tail, rfl, .nil⟩

/-- A slash and a star that are kept together stand apart by comments only. -/
theorem exists_gap_of_kept (hs : stripComments q cs = before ++ '/' :: '*' :: rest)
    (hq : (q.past before).mark = none) : ∃ before' gap rest',
      cs = before' ++ '/' :: (gap ++ '*' :: rest') ∧ Uncommented q before' before ∧ IsGap gap ∧
        gap ≠ [] := by
  fun_induction stripComments q cs generalizing before with
  | case1 => simp at hs
  | case2 q c tail q' hfeed ih =>
    cases before with
    | nil =>
      obtain rfl := (List.cons.inj hs).1
      rw [Quote.past_nil] at hq
      rw [Quote.feed_of_outside hq (by decide)] at hfeed
      cases hfeed
    | cons b before =>
      obtain ⟨rfl, htail⟩ := List.cons.inj hs
      rw [Quote.past_cons, hfeed] at hq
      obtain ⟨before', gap, rest', rfl, hu, hgap, hne⟩ := ih htail hq
      refine ⟨c :: before', gap, rest', rfl, .char (.inl (by rw [hfeed])) ?_, hgap, hne⟩
      rwa [hfeed]
  | case3 q c tail q' hfeed after hpast ih =>
    obtain rfl := Quote.eq_of_feed hfeed
    obtain ⟨before', gap, rest', rfl, hu, hgap, hne⟩ := ih hs hq
    obtain ⟨comment, heq, hc⟩ := exists_comment hpast (by simp)
    refine ⟨comment ++ before', gap, rest', by rw [heq, List.append_assoc], ?_, hgap, hne⟩
    exact .comment (Quote.feed_snd_eq_false_iff.mp (by rw [hfeed])).1 hc hu
  | case4 q c tail q' hfeed hpast ih =>
    obtain rfl := Quote.eq_of_feed hfeed
    have hopen := pastComment?_eq_none_iff.mp hpast
    cases before with
    | nil =>
      -- this is the slash, and no comment begins with it
      obtain ⟨rfl, htail⟩ := List.cons.inj hs
      obtain ⟨gap, rest', rfl, hgap⟩ := exists_gap hq htail
      refine ⟨[], gap, rest', rfl, .nil _, hgap, ?_⟩
      rintro rfl
      exact hopen ⟨rfl, rfl⟩
    | cons b before =>
      obtain ⟨rfl, htail⟩ := List.cons.inj hs
      rw [Quote.past_cons, hfeed] at hq
      obtain ⟨before', gap, rest', rfl, hu, hgap, hne⟩ := ih htail hq
      refine ⟨c :: before', gap, rest', rfl, .char (.inr fun h => hopen ?_) ?_, hgap, hne⟩
      · refine ⟨h.1, ?_⟩
        rw [List.head?_append, h.2]
        rfl
      · rwa [hfeed]

/-- **Removing comments again changes nothing, unless the text around a comment joins.** -/
theorem stripComments_stripComments_iff (cs : List Char) :
    stripComments {} (stripComments {} cs) = stripComments {} cs ↔ ¬ Joins cs := by
  rw [stripComments_eq_self_iff]
  constructor
  · rintro hnone ⟨before, kept, gap, rest, rfl, hu, hmark, hgap, hne⟩
    have hslash : ¬ ('/' = '/' ∧ (gap ++ '*' :: rest).head? = some '*') := by
      cases hgap with
      | nil => exact absurd rfl hne
      | cons hc _ =>
        obtain ⟨body, rfl, -⟩ := hc
        simp
    refine hnone kept (stripComments (Quote.past {} kept) rest) ?_ hmark
    rw [hu.stripComments_append (.inr (by simp)), stripComments_char (.inr hslash),
      Quote.feed_of_outside hmark (by decide), stripComments_gap hmark hgap,
      stripComments_char (.inr (by simp)), Quote.feed_of_outside hmark (by decide)]
  · rintro hjoins before rest hs hmark
    obtain ⟨before', gap, rest', heq, hu, hgap, hne⟩ := exists_gap_of_kept hs hmark
    exact hjoins ⟨before', before, gap, rest', heq, hu, hmark, hgap, hne⟩

end Stylesheet
end Restyle
