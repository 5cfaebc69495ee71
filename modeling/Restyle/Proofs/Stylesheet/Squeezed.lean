import Mathlib
import Restyle.Proofs.Source.Bytes.Offset
import Restyle.Proofs.Stylesheet.Comments

/-!
# Restyle.Proofs.Stylesheet.Squeezed

Blanks in the value of a declaration. A value is written with one space for each run of blanks
outside its strings (`oneSpaced`), and the question is who says what a string is.

* `normalizeValue_eq`: the writer reads ASCII characters only, and those that cut a text into
  declarations read every byte. They agree as long as no character outside ASCII stands behind a
  backslash in a string.
-/

namespace Restyle
namespace Stylesheet

open Source.Utf8 (IsAscii bytes)

variable {q : Quote} {c : Char} {cs : List Char} {read read' : Quote → Char → Quote × Bool}
  {t : Char × Bool} {ts us : List (Char × Bool)}

/-! ## Readers of strings -/

/-- The state past a text. -/
def pastBy (read : Quote → Char → Quote × Bool) (q : Quote) (cs : List Char) : Quote :=
  cs.foldl (fun q c => (read q c).1) q

/-- Each character with whether it belongs to a string. -/
def tagged (read : Quote → Char → Quote × Bool) (q : Quote) : List Char → List (Char × Bool)
  | [] => []
  | c :: cs => (c, (read q c).2) :: tagged read (read q c).1 cs

theorem pastBy_concat (read : Quote → Char → Quote × Bool) (q : Quote) (cs : List Char) (c : Char) :
    pastBy read q (cs ++ [c]) = (read (pastBy read q cs) c).1 := List.foldl_concat ..

theorem tagged_concat (read : Quote → Char → Quote × Bool) (q : Quote) (cs : List Char) (c : Char) :
    tagged read q (cs ++ [c]) = tagged read q cs ++ [(c, (read (pastBy read q cs) c).2)] := by
  induction cs generalizing q with
  | nil => rfl
  | cons d cs ih =>
    rw [List.cons_append, tagged, ih]
    rfl

/-- Readers that agree wherever the one of them comes to agree on the text. -/
theorem agree_of_forall (h : ∀ before c rest, cs = before ++ c :: rest →
    read (pastBy read q before) c = read' (pastBy read q before) c) :
    tagged read q cs = tagged read' q cs ∧ pastBy read q cs = pastBy read' q cs := by
  induction cs generalizing q with
  | nil => exact ⟨rfl, rfl⟩
  | cons c cs ih =>
    have hc : read q c = read' q c := h [] c cs rfl
    obtain ⟨htags, hpast⟩ := ih (q := (read q c).1) fun before d rest heq =>
      h (c :: before) d rest (by rw [heq, List.cons_append])
    refine ⟨?_, ?_⟩
    · rw [tagged, tagged, htags, hc]
    · show pastBy read (read q c).1 cs = pastBy read' (read' q c).1 cs
      rw [hpast, hc]

namespace Quote

/-- Reads every byte of a character. The character belongs to a string if its bytes do. -/
def feedBytes (q : Quote) (c : Char) : Quote × Bool :=
  (bytes c).foldl (fun s b => ((s.1.feed b).1, s.2 && (s.1.feed b).2)) (q, true)

/-- Reads ASCII characters only. Another belongs to a string if one is open. -/
def feedAscii (q : Quote) (c : Char) : Quote × Bool :=
  if c.toNat < 128 then q.feed c else (q, q.mark.isSome)

/-- A character outside ASCII ends an escape and does nothing else. -/
theorem feed_of_wide (hq : q.IsProper) (hc : ¬ IsAscii c) :
    q.feed c = ({ q with escaped := false }, q.mark.isSome) := by
  have hne : ∀ m : Char, IsAscii m → c ≠ m := fun m hm heq => hc (heq ▸ hm)
  obtain ⟨mark, escaped⟩ := q
  cases mark with
  | none =>
    have hescaped : escaped = false := by
      rw [Bool.eq_false_iff]
      exact fun h => Bool.false_ne_true (hq.escaped h)
    rw [feed_of_outside rfl ⟨hne _ (by decide), hne _ (by decide)⟩, hescaped]
    rfl
  | some m =>
    have hm : IsAscii m := by obtain rfl | rfl := hq.mark m rfl <;> decide
    cases escaped with
    | true => rfl
    | false => simp [feed, hne m hm, hne '\\' (by decide)]

theorem feedBytes_eq (hq : q.IsProper) (c : Char) : q.feedBytes c = q.feed c := by
  -- the first byte outside ASCII ends an escape, and those behind it change nothing
  have hrun : ∀ (bs : List Char) (q : Quote), q.IsProper → q.escaped = false →
      (∀ b ∈ bs, ¬ IsAscii b) → bs.foldl (fun (s : Quote × Bool) b =>
        ((s.1.feed b).1, s.2 && (s.1.feed b).2)) (q, q.mark.isSome) = (q, q.mark.isSome) := by
    intro bs
    induction bs with
    | nil => exact fun _ _ _ _ => rfl
    | cons b bs ih =>
      intro q hq hescaped hbs
      have hb := feed_of_wide hq (hbs b List.mem_cons_self)
      have hsame : ({ q with escaped := false } : Quote) = q := by rw [← hescaped]
      rw [List.foldl_cons, hb, hsame, Bool.and_self]
      exact ih q hq hescaped fun d hd => hbs d (List.mem_cons_of_mem b hd)
  by_cases hc : IsAscii c
  · rw [feedBytes, Source.Utf8.bytes_of_isAscii hc]
    rfl
  · have hbs : ∀ b ∈ bytes c, ¬ IsAscii b := fun b hb => Source.Utf8.not_isAscii_of_mem_bytes hc hb
    rw [feedBytes]
    obtain ⟨b, bs, hbytes⟩ := List.exists_cons_of_ne_nil
      (List.ne_nil_of_mem (Source.Utf8.lead_mem_bytes c))
    rw [hbytes] at hbs ⊢
    have hb := feed_of_wide hq (hbs b List.mem_cons_self)
    have hproper : (q.feed b).1.IsProper := hq.feed b
    rw [hb] at hproper
    rw [feed_of_wide hq hc, List.foldl_cons, hb, Bool.true_and]
    exact hrun bs _ hproper rfl fun d hd => hbs d (List.mem_cons_of_mem b hd)

/-- The readers differ on characters outside ASCII behind a backslash. -/
theorem feedAscii_eq_iff (hq : q.IsProper) :
    q.feedAscii c = q.feed c ↔ ¬ (¬ IsAscii c ∧ q.escaped = true) := by
  by_cases hc : IsAscii c
  · simp [feedAscii, show c.toNat < 128 from hc, hc]
  · rw [feedAscii, if_neg (show ¬ c.toNat < 128 from hc), feed_of_wide hq hc]
    obtain ⟨mark, escaped⟩ := q
    cases escaped <;> simp [hc]

/-- A string ends at the quotation mark that it begins with. -/
theorem mark_of_closed (hin : (q.feed c).2 = true) (h : (q.feed c).1.mark = none) :
    q.mark = some c := by
  obtain ⟨mark, escaped⟩ := q
  unfold feed at hin h
  cases mark with
  | none =>
    by_cases hc : (c == '\'' || c == '"') = true
    · simp only [hc, if_true, reduceCtorEq] at h
    · simp only [hc, if_false, Bool.false_eq_true] at hin
  | some m =>
    by_cases hc : c = m
    · rw [hc]
    · cases escaped <;> by_cases hslash : c = '\\' <;> simp [hc, hslash] at h

end Quote

/-! ## Runs of blanks -/

/-- A blank outside strings. -/
def isGap (t : Char × Bool) : Bool := !t.2 && Text.isBlank t.1

/-- One space for every longest run of blanks outside strings, all else as it is. -/
def oneSpaced (ts : List (Char × Bool)) : List Char :=
  (ts.splitBy fun s t => isGap s && isGap t).flatMap fun run =>
    if run.all isGap then [' '] else run.map Prod.fst

theorem oneSpaced_append (h : ∀ s ∈ ts.getLast?, ∀ t ∈ us.head?, (isGap s && isGap t) = false) :
    oneSpaced (ts ++ us) = oneSpaced ts ++ oneSpaced us := by
  rw [oneSpaced, List.splitBy_append h, List.flatMap_append]
  rfl

theorem oneSpaced_singleton (ht : isGap t = false) : oneSpaced [t] = [t.1] := by
  rw [oneSpaced, List.splitBy_of_isChain (List.cons_ne_nil _ _) (List.isChain_singleton _),
    List.flatMap_singleton, if_neg (by simp [ht])]
  rfl

theorem oneSpaced_of_forall (hne : ts ≠ []) (h : ∀ t ∈ ts, isGap t = true) :
    oneSpaced ts = [' '] := by
  have hchain : ts.IsChain fun s t => (isGap s && isGap t) = true := by
    refine List.Pairwise.isChain (List.pairwise_of_forall_mem_list fun s hs t ht => ?_)
    rw [h s hs, h t ht, Bool.and_self]
  rw [oneSpaced, List.splitBy_of_isChain hne hchain, List.flatMap_singleton,
    if_pos (List.all_eq_true.mpr h)]

theorem oneSpaced_cons_of_not_gap (ht : isGap t = false) (ts : List (Char × Bool)) :
    oneSpaced (t :: ts) = t.1 :: oneSpaced ts := by
  rw [← List.singleton_append, oneSpaced_append (by simp [ht]), oneSpaced_singleton ht]
  rfl

theorem isGap_head?_dropWhile (ts : List (Char × Bool)) :
    ∀ t ∈ (ts.dropWhile isGap).head?, isGap t = false := by
  intro t ht
  have hnot := List.head?_dropWhile_not isGap ts
  rw [ht] at hnot
  exact hnot

theorem oneSpaced_cons_of_gap (ht : isGap t = true) (ts : List (Char × Bool)) :
    oneSpaced (t :: ts) = ' ' :: oneSpaced (ts.dropWhile isGap) := by
  have hrun : ∀ s ∈ t :: ts.takeWhile isGap, isGap s = true := by
    rw [List.forall_mem_cons]
    exact ⟨ht, fun s hs => List.mem_takeWhile_imp hs⟩
  have hcut : ∀ s ∈ (t :: ts.takeWhile isGap).getLast?, ∀ u ∈ (ts.dropWhile isGap).head?,
      (isGap s && isGap u) = false := by
    intro s _ u hu
    rw [isGap_head?_dropWhile ts u hu, Bool.and_false]
  conv_lhs => rw [← List.takeWhile_append_dropWhile (p := isGap) (l := ts)]
  rw [← List.cons_append, oneSpaced_append hcut, oneSpaced_of_forall (List.cons_ne_nil _ _) hrun]
  rfl

theorem squeezeValue_cons (q : Quote) (spaced : Bool) (c : Char) (cs : List Char) :
    squeezeValue q spaced (c :: cs) =
      if isGap (c, (q.feedAscii c).2) = true then
        if spaced then squeezeValue (q.feedAscii c).1 true cs
        else ' ' :: squeezeValue (q.feedAscii c).1 true cs
      else c :: squeezeValue (q.feedAscii c).1 false cs := by
  have hread : q.feedAscii c =
      ((if c.toNat < 128 then q.feed c else (q, false)).1,
        (if c.toNat < 128 then q.feed c else (q, false)).2 ||
          (if c.toNat < 128 then q.feed c else (q, false)).1.mark.isSome) := by
    rw [Quote.feedAscii]
    split
    · refine Prod.ext rfl ?_
      cases hin : (q.feed c).2 with
      | true => rfl
      | false => rw [Quote.feed_fst_of_snd hin, (Quote.feed_snd_eq_false_iff.mp hin).1]; rfl
    · simp
  rw [squeezeValue, hread, isGap]
  generalize (if c.toNat < 128 then q.feed c else (q, false)) = fed
  obtain ⟨q', inside⟩ := fed
  dsimp only
  cases hin : inside || q'.mark.isSome with
  | true => simp
  | false => simp

/-- **The writer of values writes each run as one space**, with strings as it reads them. -/
theorem squeezeValue_eq (q : Quote) (cs : List Char) :
    squeezeValue q false cs = oneSpaced (tagged Quote.feedAscii q cs) ∧
      squeezeValue q true cs = oneSpaced ((tagged Quote.feedAscii q cs).dropWhile isGap) := by
  induction cs generalizing q with
  | nil => exact ⟨rfl, rfl⟩
  | cons c cs ih =>
    obtain ⟨hfalse, htrue⟩ := ih (q.feedAscii c).1
    rw [squeezeValue_cons, squeezeValue_cons, tagged, hfalse, htrue]
    cases hgap : isGap (c, (q.feedAscii c).2) with
    | true =>
      rw [oneSpaced_cons_of_gap hgap, List.dropWhile_cons_of_pos hgap]
      exact ⟨rfl, rfl⟩
    | false =>
      rw [List.dropWhile_cons_of_neg (by simp [hgap]), oneSpaced_cons_of_not_gap hgap]
      exact ⟨rfl, rfl⟩

/-! ## Ends -/

/-- Drops runs of blanks outside strings at both ends. -/
def trimGaps (ts : List (Char × Bool)) : List (Char × Bool) :=
  (ts.dropWhile isGap).rdropWhile isGap

theorem oneSpaced_reverse (ts : List (Char × Bool)) :
    oneSpaced ts.reverse = (oneSpaced ts).reverse := by
  -- on the length, since a whole run is taken off at once
  induction hn : ts.length using Nat.strong_induction_on generalizing ts with
  | _ n ih =>
    cases ts with
    | nil => rfl
    | cons t ts =>
      rw [List.length_cons] at hn
      cases ht : isGap t with
      | false =>
        rw [List.reverse_cons, oneSpaced_append (by simp [ht]), oneSpaced_singleton ht,
          oneSpaced_cons_of_not_gap ht, List.reverse_cons, ih ts.length (by omega) ts rfl]
      | true =>
        have hrun : ∀ s ∈ (t :: ts.takeWhile isGap).reverse, isGap s = true := by
          intro s hs
          obtain rfl | hs := List.mem_cons.mp (List.mem_reverse.mp hs)
          · exact ht
          · exact List.mem_takeWhile_imp hs
        have hcut : ∀ s ∈ (ts.dropWhile isGap).reverse.getLast?,
            ∀ u ∈ (t :: ts.takeWhile isGap).reverse.head?, (isGap s && isGap u) = false := by
          intro s hs u _
          rw [List.getLast?_reverse] at hs
          rw [isGap_head?_dropWhile ts s hs, Bool.false_and]
        have hlength := (List.dropWhile_sublist isGap (l := ts)).length_le
        conv_lhs => rw [← List.takeWhile_append_dropWhile (p := isGap) (l := ts)]
        rw [← List.cons_append, List.reverse_append, oneSpaced_append hcut,
          oneSpaced_of_forall (by simp) hrun, oneSpaced_cons_of_gap ht, List.reverse_cons,
          ih (ts.dropWhile isGap).length (by omega) _ rfl]

/-- Blanks are cut from the front of what is written as they are cut from the text. -/
theorem dropWhile_oneSpaced
    (h : ∀ t ∈ (ts.dropWhile isGap).head?, Text.isBlank t.1 = false) :
    (oneSpaced ts).dropWhile Text.isBlank = oneSpaced (ts.dropWhile isGap) := by
  have hfull : ∀ us : List (Char × Bool), (∀ t ∈ us.head?, Text.isBlank t.1 = false) →
      (oneSpaced us).dropWhile Text.isBlank = oneSpaced us := by
    intro us hus
    cases us with
    | nil => rfl
    | cons u us =>
      have hu := hus u rfl
      rw [oneSpaced_cons_of_not_gap (by simp [isGap, hu]),
        List.dropWhile_cons_of_neg (by simp [hu])]
  cases ts with
  | nil => rfl
  | cons t ts =>
    cases ht : isGap t with
    | true =>
      rw [List.dropWhile_cons_of_pos ht] at h ⊢
      rw [oneSpaced_cons_of_gap ht, List.dropWhile_cons_of_pos (by decide), hfull _ h]
    | false =>
      rw [List.dropWhile_cons_of_neg (by simp [ht])] at h ⊢
      exact hfull _ h

theorem trimBy_oneSpaced (hfirst : ∀ t ∈ (ts.dropWhile isGap).head?, Text.isBlank t.1 = false)
    (hlast : ∀ t ∈ (ts.reverse.dropWhile isGap).head?, Text.isBlank t.1 = false) :
    Text.trimBy Text.isBlank (oneSpaced ts) = oneSpaced (trimGaps ts) := by
  have hback : ∀ t ∈ ((ts.dropWhile isGap).reverse.dropWhile isGap).head?,
      Text.isBlank t.1 = false := by
    have hsplit : ts.reverse = (ts.dropWhile isGap).reverse ++ (ts.takeWhile isGap).reverse := by
      rw [← List.reverse_append, List.takeWhile_append_dropWhile]
    rw [hsplit, List.dropWhile_append] at hlast
    split at hlast
    · rename_i hempty
      rw [List.isEmpty_iff.mp hempty]
      simp
    · intro t ht
      refine hlast t ?_
      rw [List.head?_append, Option.mem_def.mp ht, Option.some_or]
      rfl
  rw [Text.trimBy, dropWhile_oneSpaced hfirst, ← oneSpaced_reverse, dropWhile_oneSpaced hback,
    ← oneSpaced_reverse]
  rfl

/-- The first character that is no gap is no blank: a string begins with its quotation mark. -/
theorem not_isBlank_of_first (cs : List Char) :
    ∀ t ∈ ((tagged Quote.feed {} cs).dropWhile isGap).head?, Text.isBlank t.1 = false := by
  induction cs with
  | nil => simp [tagged]
  | cons c cs ih =>
    rw [tagged]
    cases hin : (Quote.feed {} c).2 with
    | false =>
      rw [Quote.feed_fst_of_snd hin]
      cases hc : Text.isBlank c with
      | true =>
        rw [List.dropWhile_cons_of_pos (by simp [isGap, hc])]
        exact ih
      | false =>
        rw [List.dropWhile_cons_of_neg (by simp [isGap, hc])]
        rintro t ⟨⟩
        exact hc
    | true =>
      rw [List.dropWhile_cons_of_neg (by simp [isGap])]
      rintro t ⟨⟩
      have hquote : c = '\'' ∨ c = '"' := by
        by_contra hne
        rw [not_or] at hne
        rw [Quote.feed_snd_eq_false_iff.mpr ⟨rfl, hne⟩] at hin
        cases hin
      obtain rfl | rfl := hquote <;> decide

/-- So is the last one, if no string is open at the end. -/
theorem not_isBlank_of_last (h : (pastBy Quote.feed {} cs).mark = none) :
    ∀ t ∈ ((tagged Quote.feed {} cs).reverse.dropWhile isGap).head?, Text.isBlank t.1 = false := by
  induction cs using List.reverseRecOn with
  | nil => simp [tagged]
  | append_singleton cs c ih =>
    rw [pastBy_concat] at h
    rw [tagged_concat, List.reverse_concat]
    have hproper : (pastBy Quote.feed {} cs).IsProper := Quote.isProper_past cs
    revert h ih hproper
    generalize pastBy Quote.feed {} cs = q
    intro ih h hproper
    cases hin : (q.feed c).2 with
    | false =>
      rw [Quote.feed_fst_of_snd hin] at h
      cases hc : Text.isBlank c with
      | true =>
        rw [List.dropWhile_cons_of_pos (by simp [isGap, hc])]
        exact ih h
      | false =>
        rw [List.dropWhile_cons_of_neg (by simp [isGap, hc])]
        rintro t ⟨⟩
        exact hc
    | true =>
      rw [List.dropWhile_cons_of_neg (by simp [isGap])]
      rintro t ⟨⟩
      obtain rfl | rfl := hproper.mark c (Quote.mark_of_closed hin h) <;> decide

/-! ## Values -/

/-- A character outside ASCII stands in a string behind a backslash that escapes it. -/
def EscapesWide (cs : List Char) : Prop :=
  ∃ before c rest, cs = before ++ c :: rest ∧ ¬ IsAscii c ∧
    (pastBy Quote.feedBytes {} before).escaped = true

theorem feedBytes_agree (cs : List Char) :
    tagged Quote.feed {} cs = tagged Quote.feedBytes {} cs ∧
      pastBy Quote.feed {} cs = pastBy Quote.feedBytes {} cs :=
  agree_of_forall fun before c _ _ => (Quote.feedBytes_eq (Quote.isProper_past before) c).symm

theorem feedAscii_agree (h : ¬ EscapesWide cs) :
    tagged Quote.feed {} cs = tagged Quote.feedAscii {} cs ∧
      pastBy Quote.feed {} cs = pastBy Quote.feedAscii {} cs := by
  refine agree_of_forall fun before c rest heq => ?_
  refine ((Quote.feedAscii_eq_iff (Quote.isProper_past before)).mpr ?_).symm
  rintro ⟨hc, hescaped⟩
  refine h ⟨before, c, rest, heq, hc, ?_⟩
  rw [← (feedBytes_agree before).2]
  exact hescaped

/-- The two readers come to the same states just where no such character is escaped. -/
theorem not_escapesWide_iff : ¬ EscapesWide cs ↔ ∀ before, before <+: cs →
    pastBy Quote.feedAscii {} before = pastBy Quote.feedBytes {} before := by
  constructor
  · rintro h before ⟨rest, rfl⟩
    have hbefore : ¬ EscapesWide before := by
      rintro ⟨front, c, back, rfl, hc, hescaped⟩
      exact h ⟨front, c, back ++ rest, by simp, hc, hescaped⟩
    rw [← (feedAscii_agree hbefore).2, (feedBytes_agree before).2]
  · rintro h ⟨before, c, rest, rfl, hc, hescaped⟩
    have hsame := h (before ++ [c]) ⟨rest, by simp⟩
    have hproper : (pastBy Quote.feedBytes {} before).IsProper := by
      rw [← (feedBytes_agree before).2]
      exact Quote.isProper_past before
    rw [pastBy_concat, pastBy_concat, h before (List.prefix_append _ _),
      Quote.feedBytes_eq hproper, Quote.feed_of_wide hproper hc, Quote.feedAscii,
      if_neg (show ¬ c.toNat < 128 from hc)] at hsame
    -- one of the readers has still to end the escape
    have hended := congrArg Quote.escaped hsame
    rw [hescaped] at hended
    cases hended

/-- **A value has its strings as written and one space for each run of blanks outside them**, for the
writer's reading of strings; and for the reading by bytes, which is that of the other readers, as
long as the two come to the same states. What is cut at the ends is no part of a string, unless one is
still open. -/
theorem normalizeValue_eq (cs : List Char) :
    tagged Quote.feed {} cs = tagged Quote.feedBytes {} cs ∧
    normalizeValue cs =
      String.ofList (Text.trimBy Text.isBlank (oneSpaced (tagged Quote.feedAscii {} cs))) ∧
    (¬ EscapesWide cs ↔ ∀ before, before <+: cs →
      pastBy Quote.feedAscii {} before = pastBy Quote.feedBytes {} before) ∧
    (¬ EscapesWide cs → normalizeValue cs =
      String.ofList (Text.trimBy Text.isBlank (oneSpaced (tagged Quote.feedBytes {} cs)))) ∧
    ((pastBy Quote.feedBytes {} cs).mark = none →
      Text.trimBy Text.isBlank (oneSpaced (tagged Quote.feedBytes {} cs)) =
        oneSpaced (trimGaps (tagged Quote.feedBytes {} cs))) := by
  obtain ⟨htags, hpast⟩ := feedBytes_agree cs
  have hascii : normalizeValue cs =
      String.ofList (Text.trimBy Text.isBlank (oneSpaced (tagged Quote.feedAscii {} cs))) := by
    rw [normalizeValue, (squeezeValue_eq {} cs).1]
  refine ⟨htags, hascii, not_escapesWide_iff, fun h => ?_, fun h => ?_⟩
  · rw [hascii, ← (feedAscii_agree h).1, htags]
  · rw [← htags]
    rw [← hpast] at h
    exact trimBy_oneSpaced (not_isBlank_of_first cs) (not_isBlank_of_last h)

/-- Accents, an escaped quotation mark, and the other mark within a string. -/
theorem normalizeValue_eq_accents :
    let cs := " 'é  \\' \"x'  é \n b ".toList
    ¬ EscapesWide cs ∧ (pastBy Quote.feedBytes {} cs).mark = none ∧
      normalizeValue cs = String.ofList (oneSpaced (trimGaps (tagged Quote.feedBytes {} cs))) ∧
      normalizeValue cs = "'é  \\' \"x' é b" := by
  intro cs
  obtain ⟨-, -, hiff, hvalue, htrim⟩ := normalizeValue_eq cs
  have hstates : ∀ before ∈ cs.inits,
      pastBy Quote.feedAscii {} before = pastBy Quote.feedBytes {} before := by decide +kernel
  have hwide : ¬ EscapesWide cs :=
    hiff.mpr fun before h => hstates before ((List.mem_inits before cs).mpr h)
  have hclosed : (pastBy Quote.feedBytes {} cs).mark = none := by decide +kernel
  exact ⟨hwide, hclosed, by rw [hvalue hwide, htrim hclosed], by decide +kernel⟩

/-- Behind an escaped accent the writer misses the end of the string, and keeps the blanks after
it. -/
theorem escaped_accent_keeps_blanks :
    let cs := " \"\\é\"  b".toList
    EscapesWide cs ∧ normalizeValue cs = "\"\\é\"  b" ∧
      Text.trimBy Text.isBlank (oneSpaced (tagged Quote.feedBytes {} cs)) = "\"\\é\" b".toList ∧
      parseDeclarations "a: \"\\é\"  b" = [⟨"a", "\"\\é\"  b"⟩] := by
  intro cs
  refine ⟨⟨" \"\\".toList, 'é', "\"  b".toList, by decide, by decide, by decide +kernel⟩, ?_⟩
  exact ⟨by decide +kernel, by decide +kernel, by decide +kernel⟩

end Stylesheet
end Restyle
