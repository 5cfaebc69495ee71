import Restyle.Pattern.Text

/-!
# Restyle.Proofs.Pattern.Reads

What a match covers. `Reads p st st'` says by rules what a pattern does between two states: which
text it passes, and which groups it sets. The matcher hands on only states that are read so
(`reads_of_run`), whichever of the ways to match it ends up with; the order in which it tries them
does not matter here.

The rules are those of patterns that look neither ahead nor back and repeat no group (`isPlain`).
-/

namespace Restyle
namespace Pattern

variable {α β : Type}

namespace State

/-- Every symbol counts as one. -/
def ByOne (st : State α) : Prop := st.width = fun _ => 1

/-- From one state to another over a text. -/
structure Passes (st : State α) (text : List α) (st' : State α) : Prop where
  rest : st.rest = text ++ st'.rest
  before : st'.before = text.reverse ++ st.before
  pos : st'.pos = st.pos + text.length
  width : st'.width = st.width

namespace Passes

theorem refl (st : State α) : Passes st [] st := ⟨rfl, rfl, rfl, rfl⟩

theorem trans {st₁ st₂ st₃ : State α} {text text' : List α} (h : Passes st₁ text st₂)
    (h' : Passes st₂ text' st₃) : Passes st₁ (text ++ text') st₃ where
  rest := by rw [h.rest, h'.rest, List.append_assoc]
  before := by rw [h'.before, h.before, List.reverse_append, List.append_assoc]
  pos := by rw [h'.pos, h.pos, List.length_append, Nat.add_assoc]
  width := h'.width.trans h.width

theorem advance {st : State α} (hone : st.ByOne) {a : α} {rest : List α}
    (h : st.rest = a :: rest) : Passes st [a] (st.advance a rest) where
  rest := h
  before := rfl
  pos := by
    show st.pos + st.width a = st.pos + 1
    rw [show st.width = fun _ => 1 from hone]
  width := rfl

theorem lt_of_cons {st st' : State α} {a : α} {text : List α} (h : Passes st (a :: text) st') :
    st'.rest.length < st.rest.length := by
  rw [h.rest, List.length_append]
  exact Nat.lt_add_of_pos_left (Nat.succ_pos _)

theorem byOne {st st' : State α} {text : List α} (h : Passes st text st') (hone : st.ByOne) :
    st'.ByOne := h.width.trans hone

end Passes

theorem takeWidth_one (n : Nat) (cs : List α) : takeWidth (fun _ => 1) n cs = cs.take n := by
  induction cs generalizing n with
  | nil => cases n <;> rfl
  | cons c cs ih =>
    cases n with
    | zero => rfl
    | succ n => rw [takeWidth, List.take_succ_cons, Nat.add_sub_cancel, ih]

/-- The extent between two states is where the first stands and the text between them. -/
theorem Passes.extent {st st' : State α} {text : List α} (h : Passes st text st')
    (hone : st.ByOne) : st.extent st' = (st.pos, text) := by
  unfold State.extent
  rw [show st.width = fun _ => 1 from hone, takeWidth_one, h.pos, h.rest, Nat.add_sub_cancel_left,
    List.take_left]

theorem lookup_filter {γ : Type} {p : Nat → Bool} {index : Nat} (hp : p index = true)
    (groups : List (Nat × γ)) :
    (groups.filter fun g => p g.1).lookup index = groups.lookup index := by
  induction groups with
  | nil => rfl
  | cons g groups ih =>
    obtain ⟨i, x⟩ := g
    rw [List.filter_cons]
    split
    · rw [List.lookup_cons, List.lookup_cons, ih]
    · rename_i hdrop
      have hne : (index == i) = false := by
        rw [beq_eq_false_iff_ne]
        rintro rfl
        exact hdrop hp
      rw [ih, List.lookup_cons, hne]

theorem group?_withGroup (st : State α) (index : Nat) (extent : Nat × List α) :
    (st.withGroup index extent).group? index = some extent := by
  simp [group?, withGroup]

theorem group?_withGroup_of_ne (st : State α) {i index : Nat} (extent : Nat × List α)
    (hne : i ≠ index) : (st.withGroup i extent).group? index = st.group? index := by
  have hkeep : (index != i) = true := bne_iff_ne.mpr (Ne.symm hne)
  have hskip : (index == i) = false := beq_eq_false_iff_ne.mpr (Ne.symm hne)
  show List.lookup index ((i, extent) :: st.groups.filter (·.1 != i)) = st.groups.lookup index
  rw [List.lookup_cons, hskip]
  exact lookup_filter (p := fun j => j != i) hkeep st.groups

theorem group?_without (st : State α) {indices : List Nat} {index : Nat}
    (h : indices.contains index = false) : (st.without indices).group? index = st.group? index :=
  lookup_filter (p := fun i => !indices.contains i) (by rw [h]; rfl) st.groups

theorem group?_without_of_mem (st : State α) {indices : List Nat} {index : Nat}
    (h : indices.contains index = true) : (st.without indices).group? index = none := by
  refine List.lookup_eq_none_iff.mpr fun g hg => ?_
  obtain ⟨-, hkeep⟩ := List.mem_filter.mp hg
  have hne : index ≠ g.1 := by
    rintro rfl
    rw [h] at hkeep
    cases hkeep
  exact bne_iff_ne.mpr hne

end State

/-! ## Patterns -/

/-- Does a pattern look neither ahead nor back, repeat no group, and ask for no more rounds than it
allows? -/
def isPlain : Pattern α → Bool
  | empty | symbol _ | between _ => true
  | seq a b | alt a b => a.isPlain && b.isPlain
  | times _ least most p => decide (least ≤ most) && p.isPlain
  | many _ p | group _ p | forget _ p => p.isPlain
  | look .. | again .. => false

/-- The least number of symbols that a pattern covers. -/
def least : Pattern α → Nat
  | empty | between _ | many .. | look .. | again .. => 0
  | symbol _ => 1
  | seq a b => a.least + b.least
  | alt a b => min a.least b.least
  | times _ low _ p => low * p.least
  | group _ p | forget _ p => p.least

/-- May a text that a pattern covers begin with a symbol? -/
def opens : Pattern α → α → Bool
  | empty, _ | between _, _ | look .., _ => false
  | again .., _ => true
  | symbol p, a => p a
  | seq p q, a => p.opens a || p.least == 0 && q.opens a
  | alt p q, a => p.opens a || q.opens a
  | many _ p, a | times _ _ _ p, a | group _ p, a | forget _ p, a => p.opens a

/-- The patterns whose texts a group may hold. -/
def held : Pattern α → Nat → List (Pattern α)
  | empty, _ | symbol _, _ | between _, _ | look .., _ | again .., _ => []
  | seq p q, index | alt p q, index => p.held index ++ q.held index
  | many _ p, index | times _ _ _ p, index | forget _ p, index => p.held index
  | group i p, index => if i == index then p :: p.held index else p.held index

/-- What a pattern does between two states. -/
inductive Reads : Pattern α → State α → State α → Prop where
  | empty {st : State α} : Reads .empty st st
  | symbol {p : α → Bool} {st : State α} {a : α} {rest : List α} : st.rest = a :: rest →
      p a = true → Reads (.symbol p) st (st.advance a rest)
  | seq {a b : Pattern α} {st st₁ st₂ : State α} : Reads a st st₁ → Reads b st₁ st₂ →
      Reads (.seq a b) st st₂
  | altFirst {a b : Pattern α} {st st' : State α} : Reads a st st' → Reads (.alt a b) st st'
  | altSecond {a b : Pattern α} {st st' : State α} : Reads b st st' → Reads (.alt a b) st st'
  | manyStop {greedy : Bool} {p : Pattern α} {st : State α} : Reads (.many greedy p) st st
  | manyAgain {greedy : Bool} {p : Pattern α} {st st₁ st₂ : State α} : Reads p st st₁ →
      Reads (.many greedy p) st₁ st₂ → Reads (.many greedy p) st st₂
  | timesStop {greedy : Bool} {most : Nat} {p : Pattern α} {st : State α} :
      Reads (.times greedy 0 most p) st st
  | timesAgain {greedy : Bool} {least most : Nat} {p : Pattern α} {st st₁ st₂ : State α} :
      Reads p st st₁ → Reads (.times greedy (least - 1) most p) st₁ st₂ →
      Reads (.times greedy least (most + 1) p) st st₂
  | group {index : Nat} {p : Pattern α} {st st' : State α} : Reads p st st' →
      Reads (.group index p) st (st'.withGroup index (st.extent st'))
  | forget {indices : List Nat} {p : Pattern α} {st st' : State α} :
      Reads p (st.without indices) st' → Reads (.forget indices p) st st'
  | between {p : Option α → Option α → Bool} {st : State α} :
      p st.before.head? st.rest.head? = true → Reads (.between p) st st

namespace Reads

/-- What is read is a text. -/
theorem exists_passes {p : Pattern α} {st st' : State α} (h : Reads p st st') (hone : st.ByOne) :
    ∃ text, st.Passes text st' := by
  induction h with
  | empty | manyStop | timesStop | between => exact ⟨[], .refl _⟩
  | symbol hrest _ => exact ⟨_, .advance hone hrest⟩
  | seq _ _ ih₁ ih₂ | manyAgain _ _ ih₁ ih₂ | timesAgain _ _ ih₁ ih₂ =>
    obtain ⟨_, h₁⟩ := ih₁ hone
    obtain ⟨_, h₂⟩ := ih₂ (h₁.byOne hone)
    exact ⟨_, h₁.trans h₂⟩
  | altFirst _ ih | altSecond _ ih => exact ih hone
  | group _ ih =>
    obtain ⟨text, h⟩ := ih hone
    exact ⟨text, h.rest, h.before, h.pos, h.width⟩
  | forget _ ih =>
    obtain ⟨text, h⟩ := ih hone
    exact ⟨text, h.rest, h.before, h.pos, h.width⟩

theorem byOne {p : Pattern α} {st st' : State α} (h : Reads p st st') (hone : st.ByOne) :
    st'.ByOne := by
  obtain ⟨_, hpass⟩ := h.exists_passes hone
  exact hpass.byOne hone

/-- No text is shorter than the least of its pattern. -/
theorem least_le {p : Pattern α} {st st' : State α} (h : Reads p st st') (hone : st.ByOne) :
    st'.rest.length + p.least ≤ st.rest.length := by
  induction h with
  | empty | manyStop | between => exact Nat.le_refl _
  | timesStop => simp [least]
  | symbol hrest _ => simp [least, hrest, State.advance]
  | seq h₁ _ ih₁ ih₂ =>
    have := ih₁ hone
    have := ih₂ (h₁.byOne hone)
    simp only [least]
    omega
  | manyAgain h₁ _ ih₁ ih₂ =>
    have := ih₁ hone
    have := ih₂ (h₁.byOne hone)
    simp only [least] at *
    omega
  | @timesAgain _ low _ p _ _ _ h₁ _ ih₁ ih₂ =>
    have := ih₁ hone
    have := ih₂ (h₁.byOne hone)
    cases low with
    | zero => simp only [least, Nat.zero_mul, Nat.zero_sub] at *; omega
    | succ low => simp only [least, Nat.add_one_sub_one, Nat.succ_mul] at *; omega
  | altFirst _ ih | altSecond _ ih =>
    have := ih hone
    simp only [least]
    omega
  | group _ ih | forget _ ih => exact ih hone

/-- A text that moves on begins with a symbol with which its pattern opens. -/
theorem opens {p : Pattern α} {st st' : State α} (h : Reads p st st') (hone : st.ByOne)
    (hmoved : st'.rest.length < st.rest.length) :
    ∃ a rest, st.rest = a :: rest ∧ p.opens a = true := by
  induction h with
  | empty | manyStop | timesStop | between => exact absurd hmoved (Nat.lt_irrefl _)
  | symbol hrest ha => exact ⟨_, _, hrest, ha⟩
  | @seq p q st st₁ st₂ h₁ h₂ ih₁ ih₂ =>
    obtain ⟨text, hpass⟩ := h₁.exists_passes hone
    cases text with
    | nil =>
      have hleast := h₁.least_le hone
      rw [show st₁.rest = st.rest from hpass.rest.symm] at hleast ih₂
      obtain ⟨a, rest, hrest, ha⟩ := ih₂ (hpass.byOne hone) hmoved
      have hempty : p.least = 0 := by omega
      exact ⟨a, rest, hrest, by simp [Pattern.opens, hempty, ha]⟩
    | cons b text =>
      obtain ⟨a, rest, hrest, ha⟩ := ih₁ hone hpass.lt_of_cons
      exact ⟨a, rest, hrest, by simp [Pattern.opens, ha]⟩
  | @manyAgain _ p st st₁ st₂ h₁ _ ih₁ ih₂ | @timesAgain _ _ _ p st st₁ st₂ h₁ _ ih₁ ih₂ =>
    obtain ⟨text, hpass⟩ := h₁.exists_passes hone
    cases text with
    | nil =>
      rw [show st₁.rest = st.rest from hpass.rest.symm] at ih₂
      exact ih₂ (hpass.byOne hone) hmoved
    | cons b text => exact ih₁ hone hpass.lt_of_cons
  | altFirst _ ih | altSecond _ ih =>
    obtain ⟨a, rest, hrest, ha⟩ := ih hone hmoved
    exact ⟨a, rest, hrest, by simp [Pattern.opens, ha]⟩
  | group _ ih | forget _ ih => exact ih hone hmoved

theorem exists_cons {p : Pattern α} {st st' : State α} {text : List α} (h : Reads p st st')
    (hone : st.ByOne) (hpass : st.Passes text st') (hp : 1 ≤ p.least) :
    ∃ a rest, text = a :: rest ∧ p.opens a = true := by
  have hleast := h.least_le hone
  obtain ⟨a, rest, hrest, ha⟩ := h.opens hone (by omega)
  cases text with
  | nil => rw [hpass.rest, List.nil_append] at hleast; omega
  | cons b text =>
    have hb := hpass.rest.symm.trans hrest
    cases hb
    exact ⟨a, text, rfl, ha⟩

/-- What a group holds was there before, or has been read by a pattern of that group. -/
theorem group?_of {p : Pattern α} {st st' : State α} {index : Nat} {x : Nat × List α}
    (h : Reads p st st') (hone : st.ByOne) (hx : st'.group? index = some x) :
    st.group? index = some x ∨
      ∃ q ∈ p.held index, ∃ st₁ st₂ : State α,
        Reads q st₁ st₂ ∧ st₁.ByOne ∧ st₁.Passes x.2 st₂ := by
  induction h with
  | empty | symbol | manyStop | timesStop | between => exact .inl hx
  | seq h₁ _ ih₁ ih₂ =>
    obtain hx | ⟨q, hq, hread⟩ := ih₂ (h₁.byOne hone) hx
    · obtain hx | ⟨q, hq, hread⟩ := ih₁ hone hx
      · exact .inl hx
      · exact .inr ⟨q, List.mem_append_left _ hq, hread⟩
    · exact .inr ⟨q, List.mem_append_right _ hq, hread⟩
  | manyAgain h₁ _ ih₁ ih₂ | timesAgain h₁ _ ih₁ ih₂ =>
    obtain hx | hread := ih₂ (h₁.byOne hone) hx
    · exact ih₁ hone hx
    · exact .inr hread
  | altFirst _ ih =>
    obtain hx | ⟨q, hq, hread⟩ := ih hone hx
    · exact .inl hx
    · exact .inr ⟨q, List.mem_append_left _ hq, hread⟩
  | altSecond _ ih =>
    obtain hx | ⟨q, hq, hread⟩ := ih hone hx
    · exact .inl hx
    · exact .inr ⟨q, List.mem_append_right _ hq, hread⟩
  | @group i p st st' h ih =>
    by_cases hi : i = index
    · subst hi
      rw [State.group?_withGroup] at hx
      cases hx
      obtain ⟨text, hpass⟩ := h.exists_passes hone
      refine .inr ⟨p, by simp [held], st, st', h, hone, ?_⟩
      rw [hpass.extent hone]
      exact hpass
    · rw [State.group?_withGroup_of_ne _ _ hi] at hx
      obtain hx | ⟨q, hq, hread⟩ := ih hone hx
      · exact .inl hx
      · exact .inr ⟨q, by simpa [held, hi] using hq, hread⟩
  | @forget indices p st st' _ ih =>
    obtain hx | hread := ih hone hx
    · left
      cases hmem : indices.contains index with
      | false => rwa [State.group?_without _ hmem] at hx
      | true =>
        rw [State.group?_without_of_mem _ hmem] at hx
        cases hx
    · exact .inr hread

end Reads

/-! ## What the matcher does -/

theorem run_symbol {p : α → Bool} {k : State α → Option β} {st : State α} :
    (symbol p).run false k st =
      match st.rest with
      | a :: rest => if p a then k (st.advance a rest) else none
      | [] => none := by
  unfold run State.step?
  cases st.rest <;> rfl

/-- The states after some symbols of a class, put to a test, are the rounds of a repetition. -/
theorem findSome?_runs {p : α → Bool} {k : State α → Option β} (left : List α) {st : State α}
    (hone : st.ByOne) (out : List (State α)) :
    (runs false p left st out).findSome? k =
      (rounds true ((symbol p).run false) k left st <|> out.findSome? k) := by
  induction left generalizing st out with
  | nil => cases h : k st <;> simp [runs, rounds, h]
  | cons _ left ih =>
    simp only [runs, rounds, run_symbol, State.step?]
    cases hrest : st.rest with
    | nil => cases h : k st <;> simp [h]
    | cons a rest =>
      have hpass := State.Passes.advance hone hrest
      have hne : st.pos ≠ (st.advance a rest).pos := by
        have := hpass.pos
        simp only [List.length_singleton] at this
        omega
      dsimp only
      split
      · rw [ih (hpass.byOne hone)]
        cases h : k st <;> cases rounds true ((symbol p).run false) k left (st.advance a rest) <;>
          simp [h, hne]
      · cases h : k st <;> simp [h]

theorem run_many {greedy : Bool} {p : Pattern α} {k : State α → Option β} {st : State α}
    (hone : st.ByOne) :
    (many greedy p).run false k st = rounds greedy (p.run false) k st.rest st := by
  cases greedy with
  | false => cases p <;> rfl
  | true =>
    cases p with
    | symbol p => exact (findSome?_runs st.rest hone []).trans (by simp)
    | empty | seq | alt | many | times | group | forget | between | look | again => rfl

theorem eq_some_of_orElse {a b : Option β} {x : β} (h : (a <|> b) = some x) :
    a = some x ∨ b = some x := by
  cases a with
  | none => exact .inr h
  | some _ => exact .inl h

/-- The matcher hands on only states that the pattern reads. -/
def Sound (p : Pattern α) : Prop :=
  ∀ {β : Type} {k : State α → Option β} {st : State α} {b : β}, st.ByOne →
    p.run false k st = some b → ∃ st', Reads p st st' ∧ k st' = some b

theorem Sound.rounds {greedy : Bool} {p : Pattern α} (hp : Sound p) {k : State α → Option β}
    {b : β} (left : List α) {st : State α} (hone : st.ByOne)
    (h : rounds greedy (p.run false) k left st = some b) :
    ∃ st', Reads (.many greedy p) st st' ∧ k st' = some b := by
  induction left generalizing st with
  | nil => exact ⟨st, .manyStop, h⟩
  | cons _ left ih =>
    have again (h : p.run false (fun st' => if st.pos != st'.pos then
        Pattern.rounds greedy (p.run false) k left st' else none) st = some b) :
        ∃ st', Reads (.many greedy p) st st' ∧ k st' = some b := by
      obtain ⟨st₁, hread, hnext⟩ := hp hone h
      obtain ⟨-, hnext⟩ := Option.ite_none_right_eq_some.mp hnext
      obtain ⟨st', hrest, hk⟩ := ih (hread.byOne hone) hnext
      exact ⟨st', .manyAgain hread hrest, hk⟩
    unfold Pattern.rounds at h
    cases greedy with
    | true =>
      obtain h | h := eq_some_of_orElse h
      · exact again h
      · exact ⟨st, .manyStop, h⟩
    | false =>
      obtain h | h := eq_some_of_orElse h
      · exact ⟨st, .manyStop, h⟩
      · exact again h

theorem Sound.counted {greedy : Bool} {p : Pattern α} (hp : Sound p) {k : State α → Option β}
    {b : β} (least more : Nat) {st : State α} (hone : st.ByOne)
    (h : counted greedy (p.run false) k least more st = some b) :
    ∃ st', Reads (.times greedy least (least + more) p) st st' ∧ k st' = some b := by
  induction least generalizing st with
  | succ least ih =>
    rw [Pattern.counted] at h
    obtain ⟨st₁, hread, hnext⟩ := hp hone h
    obtain ⟨st', hrest, hk⟩ := ih (hread.byOne hone) hnext
    refine ⟨st', ?_, hk⟩
    rw [Nat.add_right_comm]
    exact .timesAgain hread hrest
  | zero =>
    induction more generalizing st with
    | zero =>
      rw [Pattern.counted] at h
      exact ⟨st, .timesStop, h⟩
    | succ more ih =>
      have again (h : p.run false (fun st' => if st.pos != st'.pos then
          Pattern.counted greedy (p.run false) k 0 more st' else none) st = some b) :
          ∃ st', Reads (.times greedy 0 (0 + (more + 1)) p) st st' ∧ k st' = some b := by
        obtain ⟨st₁, hread, hnext⟩ := hp hone h
        obtain ⟨-, hnext⟩ := Option.ite_none_right_eq_some.mp hnext
        obtain ⟨st', hrest, hk⟩ := ih (hread.byOne hone) hnext
        exact ⟨st', .timesAgain hread hrest, hk⟩
      unfold Pattern.counted at h
      cases greedy with
      | true =>
        obtain h | h := eq_some_of_orElse h
        · exact again h
        · exact ⟨st, .timesStop, h⟩
      | false =>
        obtain h | h := eq_some_of_orElse h
        · exact ⟨st, .timesStop, h⟩
        · exact again h

/-- **A match is read.** -/
theorem sound_of_isPlain {p : Pattern α} (hp : p.isPlain = true) : Sound p := by
  induction p with
  | empty => exact fun {_ _ st _} _ h => ⟨st, .empty, h⟩
  | symbol p =>
    intro β k st b _ h
    rw [run_symbol] at h
    split at h
    · rename_i a rest hrest
      obtain ⟨hpa, hk⟩ := Option.ite_none_right_eq_some.mp h
      exact ⟨_, .symbol hrest hpa, hk⟩
    · cases h
  | seq p q ihp ihq =>
    obtain ⟨hp, hq⟩ := Bool.and_eq_true_iff.mp hp
    intro β k st b hone h
    obtain ⟨st₁, hread₁, h⟩ := ihp hp hone h
    obtain ⟨st₂, hread₂, hk⟩ := ihq hq (hread₁.byOne hone) h
    exact ⟨st₂, .seq hread₁ hread₂, hk⟩
  | alt p q ihp ihq =>
    obtain ⟨hp, hq⟩ := Bool.and_eq_true_iff.mp hp
    intro β k st b hone h
    obtain h | h := eq_some_of_orElse h
    · obtain ⟨st', hread, hk⟩ := ihp hp hone h
      exact ⟨st', .altFirst hread, hk⟩
    · obtain ⟨st', hread, hk⟩ := ihq hq hone h
      exact ⟨st', .altSecond hread, hk⟩
  | many greedy p ih =>
    intro β k st b hone h
    rw [run_many hone] at h
    exact Sound.rounds (ih hp) _ hone h
  | times greedy least most p ih =>
    obtain ⟨hle, hp⟩ := Bool.and_eq_true_iff.mp hp
    intro β k st b hone h
    obtain ⟨st', hread, hk⟩ := Sound.counted (ih hp) _ _ hone h
    rw [Nat.add_sub_of_le (of_decide_eq_true hle)] at hread
    exact ⟨st', hread, hk⟩
  | group index p ih =>
    intro β k st b hone h
    obtain ⟨st', hread, hk⟩ := ih hp hone h
    exact ⟨_, .group hread, hk⟩
  | forget indices p ih =>
    intro β k st b hone h
    obtain ⟨st', hread, hk⟩ := ih hp (show (st.without indices).ByOne from hone) h
    exact ⟨st', .forget hread, hk⟩
  | between p =>
    intro β k st b _ h
    obtain ⟨hb, hk⟩ := Option.ite_none_right_eq_some.mp h
    exact ⟨st, .between hb, hk⟩
  | look | again => cases hp

/-! ## Finding -/

theorem matchAt?_spec {p : Pattern α} (hp : p.isPlain = true) {st : State α} {m : Match α}
    (hone : st.ByOne) (h : p.matchAt? st = some m) :
    m.start = st.pos ∧ Reads p st m.after ∧ st.Passes m.text m.after := by
  obtain ⟨after, hrun, rfl⟩ := Option.map_eq_some_iff.mp h
  obtain ⟨st', hread, hk⟩ := sound_of_isPlain hp hone hrun
  cases hk
  obtain ⟨text, hpass⟩ := hread.exists_passes hone
  refine ⟨rfl, hread, ?_⟩
  show st.Passes (st.extent after).2 after
  rw [hpass.extent hone]
  exact hpass

/-- A match is read somewhere in the text, without groups set before. -/
theorem find?_spec {p : Pattern α} (hp : p.isPlain = true) {st : State α} {m : Match α}
    (hone : st.ByOne) (h : p.find? st = some m) :
    ∃ skipped st₀, st.Passes skipped st₀ ∧ m.start = st₀.pos ∧
      Reads p { st₀ with groups := [] } m.after ∧ st₀.Passes m.text m.after := by
  fun_induction find? p st with
  | case1 st m' hm =>
    cases h
    have hone' : ({ st with groups := [] } : State α).ByOne := hone
    obtain ⟨hstart, hread, hpass⟩ := matchAt?_spec hp hone' hm
    exact ⟨[], st, .refl st, hstart, hread, ⟨hpass.rest, hpass.before, hpass.pos, hpass.width⟩⟩
  | case2 => cases h
  | case3 st hnone a rest hrest ih =>
    have hstep := State.Passes.advance hone hrest
    obtain ⟨skipped, st₀, hskip, hstart, hread, hpass⟩ := ih (hstep.byOne hone) h
    exact ⟨a :: skipped, st₀, hstep.trans hskip, hstart, hread, hpass⟩

end Pattern
end Restyle
