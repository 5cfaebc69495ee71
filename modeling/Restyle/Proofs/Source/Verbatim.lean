import Restyle.Proofs.Source.Copied

/-!
# Restyle.Proofs.Source.Verbatim

Expressions without types lower to themselves: in the dialects without types all of them, in those
with types the ones in which no operand is taken for a return type (`lower_phrase`).
-/

namespace Restyle
namespace Source

open Scan Listing

variable {s : Listing} {c : Cursor} {t r : List Char} {p : Previous}

namespace Phrase

theorem not_closes (args : Phrase .arguments) : ¬ args.closes = true := by
  cases args with
  | nothing | one | more => exact Bool.false_ne_true

/-- The phrase is copied wherever it stands, if parentheses that it ends with are not taken there
for those of parameters. -/
def IsCopied (s : Listing) {role : Role} (e : Phrase role) : Prop :=
  ∀ (c : Cursor) (r : List Char), s.tail c.pos = e.text ++ r → GoesOn role.precedes r →
    c.previous.IsFresh →
    (s.dialect.hasTypes = true → e.closes = true → HoldsNoParameters s (c.pos + e.text.length)) →
    ∃ p, Copies s (s.chars.size + 8) c e.text p

theorem isCopied_name (lead : Gap) (x : Name) : (name lead x).IsCopied s := by
  intro c r h hr hfresh _
  simp only [text, List.append_assoc] at h
  have hname : Copies s 1 (c.past lead.text c.previous) x.text (.word x.text) :=
    .name (tail_add h) (hr.mono fun _ => isNameFollower_of_isFollower) hfresh
  exact ⟨_, ((Copies.gap h).append hname).mono (by omega)⟩

theorem isCopied_number (lead : Gap) (n : Numeral) : (number lead n).IsCopied s := by
  intro c r h hr _ _
  simp only [text, List.append_assoc] at h
  have hnumber : Copies s 1 (c.past lead.text c.previous) n.text .value :=
    .numeral (tail_add h) hr
  exact ⟨_, ((Copies.gap h).append hnumber).mono (by omega)⟩

/-- What stands in parentheses is copied with them. -/
theorem copies_enclosed {role : Role} {e : Phrase role} {lead last : Gap}
    (he : e.IsCopied s) (hrole : ∀ r, GoesOn role.precedes (last.text ++ ')' :: r))
    (hlevel : s.dialect.hasTypes = true →
      e.keepsTo isQuiet = true ∧ last.keepsTo isQuiet = true)
    (h : s.tail c.pos = lead.text ++ ('(' :: (e.text ++ last.text) ++ ')' :: r))
    (hholds : s.dialect.hasTypes = true → HoldsNoParameters s
      (c.pos + (lead.text ++ ('(' :: (e.text ++ last.text) ++ [')'])).length)) :
    Copies s (s.chars.size + 8) c
      (lead.text ++ ('(' :: (e.text ++ last.text) ++ [')'])) .value := by
  refine .parentheses (by omega) h
    (fun htypes => (e.level (hlevel htypes).1).append (Gap.level (hlevel htypes).2)) hholds
    fun c' h' hfresh => ?_
  rw [List.append_assoc] at h'
  have hlast := tail_add h'
  obtain ⟨p, he⟩ := he c' _ h' (hrole r) hfresh
    (fun _ _ => holdsNoParameters_of_gap (by decide) hlast)
  exact ⟨p, he.append ((Copies.gap hlast).mono (by omega))⟩

theorem isCopied_group {lead last : Gap} {e : Phrase .expression} (he : e.IsCopied s)
    (hlevel : s.dialect.hasTypes = true →
      e.keepsTo isQuiet = true ∧ last.keepsTo isQuiet = true) :
    (group lead e last).IsCopied s := by
  intro c r h _ _ hclose
  simp only [text, List.append_assoc, List.cons_append, List.nil_append] at h
  rw [← List.append_assoc e.text] at h
  exact ⟨_, copies_enclosed he (fun _ => last.goesOn_mark (by decide)) hlevel h
    (fun htypes => hclose htypes rfl)⟩

theorem isCopied_call {f : Phrase .operand} {lead last : Gap} {args : Phrase .arguments}
    (hf : f.IsCopied s) (hargs : args.IsCopied s)
    (hlevel : s.dialect.hasTypes = true →
      args.keepsTo isQuiet = true ∧ last.keepsTo isQuiet = true) :
    (call f lead args last).IsCopied s := by
  intro c r h _ hfresh hclose
  simp only [text, List.append_assoc, List.cons_append, List.nil_append] at h
  have hafter := tail_add h
  obtain ⟨p, hf⟩ := hf c _ h (lead.goesOn_mark (by decide)) hfresh
    (fun _ _ => holdsNoParameters_of_gap (by decide) hafter)
  rw [← List.append_assoc args.text] at hafter
  have hargs : Copies s (s.chars.size + 8) (c.past f.text p)
      (lead.text ++ ('(' :: (args.text ++ last.text) ++ [')'])) .value := by
    refine copies_enclosed hargs (fun _ => last.goesOn_mark (by decide)) hlevel hafter
      fun htypes => ?_
    have hholds := hclose htypes rfl
    rw [text, List.length_append, ← Nat.add_assoc] at hholds
    exact hholds
  exact ⟨_, hf.append hargs⟩

theorem isCopied_operand {e : Phrase .operand} (he : e.IsCopied s) :
    (operand e).IsCopied s :=
  fun c r h hr => he c r h (hr.mono fun _ => isFollower_of_isEnd)

theorem isCopied_conditional {test : Phrase .operand} {mark colon : Gap}
    {yes no : Phrase .expression} (htest : test.IsCopied s) (hyes : yes.IsCopied s)
    (hno : no.IsCopied s)
    (hguess : s.dialect.hasTypes = true → no.isTame = true ∧
      (yes.closes = true → colon.isBlank = true → no.asType ≠ .arrow)) :
    (conditional test mark yes colon no).IsCopied s := by
  intro c r h hr hfresh hclose
  simp only [text, List.append_assoc, List.cons_append] at h
  have hafter := tail_add h
  obtain ⟨p, htest⟩ := htest c _ h (mark.goesOn_mark (by decide)) hfresh
    (fun _ _ => holdsNoParameters_of_gap (by decide) hafter)
  obtain ⟨q, hbranches⟩ : ∃ q, Copies s (s.chars.size + 8) (c.past test.text p)
      (mark.text ++ '?' :: (yes.text ++ (colon.text ++ ':' :: no.text))) q := by
    refine Copies.gapMark (by omega) (by decide) hafter fun c₁ h₁ hpos₁ hfresh₁ => ?_
    have hcolon := tail_add h₁
    -- parentheses that end `yes` are followed by a colon, which might give them a return type
    obtain ⟨q, hyes⟩ := hyes c₁ _ h₁ (colon.goesOn_mark (by decide)) hfresh₁
      fun htypes hcloses => holdsNoParameters_of_colon hcolon hr (hguess htypes).1
        ((hguess htypes).2 hcloses)
    obtain ⟨q', hno⟩ : ∃ q', Copies s (s.chars.size + 8) (c₁.past yes.text q)
        (colon.text ++ ':' :: no.text) q' := by
      refine Copies.gapMark (by omega) (by decide) hcolon fun c₂ h₂ hpos₂ hfresh₂ => ?_
      refine hno c₂ r h₂ hr hfresh₂ fun htypes hcloses => ?_
      have hend : c₂.pos + no.text.length =
          c.pos + (conditional test mark yes colon no).text.length := by
        simp [text, hpos₂, hpos₁]
        omega
      rw [hend]
      exact hclose htypes hcloses
    exact ⟨q', hyes.append hno⟩
  exact ⟨q, htest.append hbranches⟩

/-- After the parameters of an arrow function, its sign and its body are copied. -/
theorem copies_body {sign : Gap} {body : Phrase .expression} (hbody : body.IsCopied s)
    (h : s.tail c.pos = sign.text ++ '=' :: '>' :: (body.text ++ r)) (hr : GoesOn isEnd r)
    (hclose : s.dialect.hasTypes = true → body.closes = true →
      HoldsNoParameters s (c.pos + (sign.text ++ '=' :: '>' :: body.text).length)) :
    ∃ p, Copies s (s.chars.size + 8) c (sign.text ++ '=' :: '>' :: body.text) p := by
  refine Copies.arrow (by omega) h fun c' h' hpos hfresh => ?_
  refine hbody c' r h' hr hfresh fun htypes hcloses => ?_
  have hend : c'.pos + body.text.length =
      c.pos + (sign.text ++ '=' :: '>' :: body.text).length := by
    simp only [hpos, List.length_append, List.length_cons]
    omega
  rw [hend]
  exact hclose htypes hcloses

theorem isCopied_arrow {lead sign : Gap} {x : Name} {body : Phrase .expression}
    (hbody : body.IsCopied s) : (arrow lead x sign body).IsCopied s := by
  intro c r h hr hfresh hclose
  simp only [text, List.append_assoc, List.cons_append] at h
  have hname : Copies s 1 (c.past lead.text c.previous) x.text (.word x.text) :=
    .name (tail_add h) (sign.goesOn_mark (by decide)) hfresh
  obtain ⟨p, hbody⟩ : ∃ p, Copies s (s.chars.size + 8)
      ((c.past lead.text c.previous).past x.text (.word x.text))
      (sign.text ++ '=' :: '>' :: body.text) p := by
    refine copies_body hbody (tail_add (tail_add h)) hr fun htypes hcloses => ?_
    have hholds := hclose htypes hcloses
    rw [text, List.length_append, List.length_append, ← Nat.add_assoc, ← Nat.add_assoc] at hholds
    exact hholds
  have hlead : Copies s (s.chars.size + 8) c lead.text c.previous :=
    (Copies.gap h).mono (by omega)
  exact ⟨p, hlead.append ((hname.mono (by omega)).append hbody)⟩

/-- The parameters of an arrow function are copied, as such or as any code in parentheses. -/
theorem copies_params {lead last sign : Gap} {params : List Param} {body : Phrase .expression}
    (h : s.tail c.pos =
      lead.text ++ ('(' :: paramsText last params ++ ')' :: (sign.text ++ '=' :: '>' :: r)))
    (htame : s.dialect.hasTypes = true → (arrows lead params last sign body).isTame = true) :
    ∃ p, Copies s (s.chars.size + 8) c
      (lead.text ++ ('(' :: paramsText last params ++ [')'])) p := by
  by_cases hread : s.dialect.hasTypes = true ∧ sign.isBlank = true
  · obtain ⟨htypes, hsign⟩ := hread
    have hlevel := level_params (htame htypes)
    have hcomments := htame htypes
    simp only [isTame, hsign, if_true, Bool.and_eq_true] at hcomments
    have hparen := tail_add h
    have hsize : (paramsText last params).length ≤ s.chars.size :=
      length_le_size (tail_succ hparen)
    have hlead : Copies s (s.chars.size + 8) c lead.text c.previous :=
      (Copies.gap h).mono (by omega)
    have hlist : Copies s (s.chars.size + 8) (c.past lead.text c.previous)
        ('(' :: (paramsText last params ++ [')'])) .value := by
      refine .single (r := sign.text ++ '=' :: '>' :: r) ?_ ⟨by decide, by decide⟩
        fun fuel hfuel =>
          construct_parameters hparen htypes hsign hlevel hcomments.1.1 hcomments.1.2 (by omega)
      refine hparen.trans ?_
      simp
    exact ⟨_, hlead.append hlist⟩
  · refine ⟨_, .parentheses (by omega) h (fun htypes => level_params (htame htypes))
      (fun htypes => ?_) fun c' h' hfresh' => ?_⟩
    · have hsign : sign.isBlank = false := by simpa [htypes] using hread
      have hafter :
          s.tail (c.pos + (lead.text ++ ('(' :: paramsText last params ++ [')'])).length) =
            sign.text ++ '=' :: '>' :: r := by
        refine tail_add (h.trans ?_)
        simp
      refine holdsNoParameters (p := (· == '/')) ?_ (by decide)
      rw [hafter]
      exact Gap.goesOn_of_not_isBlank hsign (by decide)
    · obtain ⟨p, hparams⟩ := Copies.params h' (.cons (by decide) (by decide)) hfresh'
      exact ⟨p, hparams.mono (by omega)⟩

theorem isCopied_arrows {lead last sign : Gap} {params : List Param} {body : Phrase .expression}
    (hbody : body.IsCopied s)
    (htame : s.dialect.hasTypes = true → (arrows lead params last sign body).isTame = true) :
    (arrows lead params last sign body).IsCopied s := by
  intro c r h hr _ hclose
  simp only [text, List.append_assoc, List.cons_append, List.nil_append] at h
  obtain ⟨p, hlist⟩ := copies_params h htame
  have hafter : s.tail (c.pos + (lead.text ++ ('(' :: paramsText last params ++ [')'])).length) =
      sign.text ++ '=' :: '>' :: (body.text ++ r) := by
    refine tail_add (h.trans ?_)
    simp
  obtain ⟨q, hbody⟩ : ∃ q, Copies s (s.chars.size + 8)
      (c.past (lead.text ++ ('(' :: paramsText last params ++ [')'])) p)
      (sign.text ++ '=' :: '>' :: body.text) q := by
    refine copies_body hbody hafter hr fun htypes hcloses => ?_
    have hholds := hclose htypes hcloses
    rw [text, ← List.append_assoc, List.length_append, ← Nat.add_assoc] at hholds
    exact hholds
  refine ⟨q, ?_⟩
  rw [text, ← List.append_assoc]
  exact hlist.append hbody

theorem isCopied_one {e : Phrase .expression} (he : e.IsCopied s) : (one e).IsCopied s := by
  intro c r h hr hfresh _
  -- what follows the arguments is the closing parenthesis, maybe after a comment
  have hafter : s.tail (c.pos + e.text.length) = r := tail_add h
  have hend : GoesOn isEnd r := hr.mono fun d hd => by
    obtain hd | hd := Bool.or_eq_true_iff.mp hd
    · rw [eq_of_beq hd]
      decide
    · rw [eq_of_beq hd]
      decide
  refine he c r h hend hfresh fun _ _ => holdsNoParameters (p := Role.arguments.precedes) ?_
    (by decide)
  rw [hafter]
  exact hr

theorem isCopied_more {e : Phrase .expression} {comma : Gap} {rest : Phrase .arguments}
    (he : e.IsCopied s) (hrest : rest.IsCopied s) : (more e comma rest).IsCopied s := by
  intro c r h hr hfresh _
  simp only [text, List.append_assoc, List.cons_append] at h
  have hcomma := tail_add h
  obtain ⟨p, he⟩ := he c _ h (comma.goesOn_mark (by decide)) hfresh
    (fun _ _ => holdsNoParameters_of_gap (by decide) hcomma)
  obtain ⟨q, hrest⟩ : ∃ q, Copies s (s.chars.size + 8) (c.past e.text p)
      (comma.text ++ ',' :: rest.text) q := by
    refine Copies.gapMark (by omega) (by decide) hcomma fun c' h' _ hfresh' => ?_
    exact hrest c' r h' hr hfresh' fun _ hcloses => absurd hcloses rest.not_closes
  exact ⟨q, he.append hrest⟩

/-- Phrases are copied: in dialects without types all of them, else those without a wrong guess. -/
theorem isCopied {role : Role} (e : Phrase role)
    (htame : s.dialect.hasTypes = true → e.isTame = true) : e.IsCopied s := by
  induction e with
  | name lead x => exact isCopied_name lead x
  | number lead n => exact isCopied_number lead n
  | group lead e last ih =>
    simp only [isTame, Bool.and_eq_true] at htame
    exact isCopied_group (ih fun htypes => (htame htypes).1.1)
      fun htypes => ⟨(htame htypes).1.2, (htame htypes).2⟩
  | call f lead args last ihf ihargs =>
    simp only [isTame, Bool.and_eq_true] at htame
    exact isCopied_call (ihf fun htypes => (htame htypes).1.1.1)
      (ihargs fun htypes => (htame htypes).1.1.2)
      fun htypes => ⟨(htame htypes).1.2, (htame htypes).2⟩
  | operand e ih => exact isCopied_operand (ih htame)
  | conditional test mark yes colon no ihtest ihyes ihno =>
    simp only [isTame, Bool.and_eq_true] at htame
    refine isCopied_conditional (ihtest fun htypes => (htame htypes).1.1.1)
      (ihyes fun htypes => (htame htypes).1.1.2) (ihno fun htypes => (htame htypes).1.2)
      fun htypes => ⟨(htame htypes).1.2, fun hcloses hblank harrow => ?_⟩
    have hguess := (htame htypes).2
    rw [hcloses, hblank, harrow] at hguess
    cases hguess
  | arrow lead x sign body ih => exact isCopied_arrow (ih htame)
  | arrows lead params last sign body ih =>
    refine isCopied_arrows (ih fun htypes => ?_) htame
    have hbody := htame htypes
    simp only [isTame, Bool.and_eq_true] at hbody
    exact hbody.2
  | nothing => exact fun _ _ _ _ _ _ => ⟨_, .nil⟩
  | one e ih => exact isCopied_one (ih htame)
  | more e comma rest ihe ihrest =>
    simp only [isTame, Bool.and_eq_true] at htame
    exact isCopied_more (ihe fun htypes => (htame htypes).1)
      (ihrest fun htypes => (htame htypes).2)

end Phrase

/-- Source that is copied from its first character to its last lowers to itself. -/
theorem lower_of_copies {dialect : Dialect}
    (h : Copies ⟨t.toArray, dialect⟩ (t.length + 8) {} t p) :
    lower (String.ofList t) dialect = .ok (String.ofList t) := by
  have hend : Listing.charAt? ⟨t.toArray, dialect⟩ (({} : Cursor).pos + t.length) = none := by
    simp [Listing.charAt?]
  have hcode : code ⟨t.toArray, dialect⟩ (stepsPerChar * (t.length + 2)) .text 0 {} =
      .ok (Cursor.past {} t p) := h.code_text hend (by rw [stepsPerChar]; omega)
  unfold lower
  simp only [String.toList_ofList, hcode]
  simp

/-- Expressions without types lower to themselves, if no guess about a type goes wrong in them. -/
theorem lower_phrase (e : Phrase .expression) (last : Gap) (dialect : Dialect)
    (htame : dialect.hasTypes = true → e.isTame = true) :
    lower (String.ofList (e.text ++ last.text)) dialect =
      .ok (String.ofList (e.text ++ last.text)) := by
  let s : Listing := ⟨(e.text ++ last.text).toArray, dialect⟩
  have hstart : s.tail ({} : Cursor).pos = e.text ++ last.text := rfl
  have hlast : s.tail (({} : Cursor).pos + e.text.length) = last.text ++ [] := by
    rw [List.append_nil]
    exact tail_add hstart
  have hslash : GoesOn (· == '/') (last.text ++ []) := last.goesOn (by decide) .nil
  have hend : GoesOn isEnd last.text := by
    rw [← List.append_nil last.text]
    exact last.goesOn (by decide) .nil
  obtain ⟨p, he⟩ := e.isCopied htame {} last.text hstart hend ⟨rfl, rfl⟩
    (fun _ _ => holdsNoParameters (hlast ▸ hslash) (by decide))
  have hgap : Copies s ((e.text ++ last.text).length + 8) (Cursor.past {} e.text p)
      last.text p := (Copies.gap hlast).mono (by omega)
  exact lower_of_copies (he.append hgap)

theorem lower_phrase_nested :
    lower "a ? (b) : f(c, (x, y /* = 0 */) => .5e-1)" .tsx =
      .ok "a ? (b) : f(c, (x, y /* = 0 */) => .5e-1)" := by
  let function : Phrase .expression := .arrows [.space ' ' rfl]
    [⟨[], ⟨'x', [], rfl, nofun⟩, []⟩, ⟨[.space ' ' rfl], ⟨'y', [], rfl, nofun⟩,
      [.space ' ' rfl, .comment [' ', '=', ' ', '0', ' '] (by decide)]⟩] []
    [.space ' ' rfl] (.operand (.number [.space ' ' rfl]
      ⟨true, ⟨'5', ['e'], rfl, List.forall_mem_singleton.mpr rfl⟩,
        some (true, ⟨'1', [], rfl, nofun⟩)⟩))
  let e : Phrase .expression :=
    .conditional (.name [] ⟨'a', [], rfl, nofun⟩) [.space ' ' rfl]
      (.operand (.group [.space ' ' rfl] (.operand (.name [] ⟨'b', [], rfl, nofun⟩)) []))
      [.space ' ' rfl]
      (.operand (.call (.name [.space ' ' rfl] ⟨'f', [], rfl, nofun⟩) []
        (.more (.operand (.name [] ⟨'c', [], rfl, nofun⟩)) [] (.one function))
        []))
  have htext : String.ofList (e.text ++ Gap.text []) =
      "a ? (b) : f(c, (x, y /* = 0 */) => .5e-1)" := by decide +kernel
  have h := lower_phrase e [] .tsx (fun _ => by decide +kernel)
  rwa [htext] at h

/-- The arrow function after a conditional's colon is taken for a return type and its body. -/
theorem not_forall_lower_phrase : ¬ ∀ (e : Phrase .expression) (last : Gap),
    lower (String.ofList (e.text ++ last.text)) .tsx =
      .ok (String.ofList (e.text ++ last.text)) := by
  intro h
  -- `a ? (b) : c => d` becomes `a ? (b) => d`
  have hcopied := congrArg Except.toOption (h
    (.conditional (.name [] ⟨'a', [], rfl, nofun⟩) [.space ' ' rfl]
      (.operand (.group [.space ' ' rfl] (.operand (.name [] ⟨'b', [], rfl, nofun⟩)) []))
      [.space ' ' rfl]
      (.arrow [.space ' ' rfl] ⟨'c', [], rfl, nofun⟩ [.space ' ' rfl]
        (.operand (.name [.space ' ' rfl] ⟨'d', [], rfl, nofun⟩)))) [])
  revert hcopied
  decide +kernel

end Source
end Restyle
