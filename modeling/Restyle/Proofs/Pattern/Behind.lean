import Mathlib
import Restyle.Proofs.Pattern.Reads

/-!
# Restyle.Proofs.Pattern.Behind

Matching behind other text. A state of a text becomes a state of a longer one by putting symbols in
front (`State.behind`). A pattern that cannot tell the start of a text from what then stands before
it (`Blind`) does the same there: `find?_behind` for one match, `replaceAll_behind` for all.

The matches that are replaced in a text change the number of times a symbol occurs
(`count_replaceAll`). A pattern mentions the symbols that its texts can have; a group without a
symbol is one whose patterns do not mention it (`not_mem_group?`).
-/

namespace Restyle
namespace Pattern

variable {α β γ : Type} {p : Pattern α} {front : List α} {st : State α}

/-- The state with other symbols in front. -/
def State.behind (front : List α) (st : State α) : State α where
  before := st.before ++ front.reverse
  rest := st.rest
  pos := st.pos + front.length
  groups := st.groups.map fun g => (g.1, g.2.1 + front.length, g.2.2)
  width := st.width

/-- The match with other symbols in front. -/
def Match.behind (front : List α) (m : Match α) : Match α where
  start := m.start + front.length
  text := m.text
  after := m.after.behind front

/-- A pattern takes the start of a text and a given symbol before it for the same. -/
def Blind (edge : α) : Pattern α → Prop
  | empty | symbol _ => True
  | seq a b | alt a b => a.Blind edge ∧ b.Blind edge
  | many _ p | times _ _ _ p | group _ p | forget _ p => p.Blind edge
  | between test => ∀ after, test none after = test (some edge) after
  | look .. | again .. => False

namespace State

theorem head?_before_behind {edge : α} (hedge : front.getLast? = some edge) :
    (st.behind front).before.head? = some (st.before.head?.getD edge) := by
  show (st.before ++ front.reverse).head? = _
  cases st.before with
  | nil => rw [List.nil_append, List.head?_reverse, hedge]; rfl
  | cons a before => rfl

theorem advance_behind (a : α) (rest : List α) :
    (st.behind front).advance a rest = (st.advance a rest).behind front := by
  simp only [behind, advance, State.mk.injEq, List.cons_append, true_and, and_true]
  omega

theorem extent_behind (st' : State α) :
    (st.behind front).extent (st'.behind front) =
      ((st.extent st').1 + front.length, (st.extent st').2) := by
  simp only [behind, extent, Nat.add_sub_add_right]

theorem withGroup_behind (index : Nat) (extent : Nat × List α) :
    (st.behind front).withGroup index (extent.1 + front.length, extent.2) =
      (st.withGroup index extent).behind front := by
  simp only [behind, withGroup, List.map_cons, List.filter_map, Function.comp_def]

theorem without_behind (indices : List Nat) :
    (st.behind front).without indices = (st.without indices).behind front := by
  simp only [behind, without, List.filter_map, Function.comp_def]

/-- The symbols of a group are those they were. -/
theorem group?_behind (index : Nat) :
    ((st.behind front).group? index).map (·.2) = (st.group? index).map (·.2) := by
  unfold group? behind
  induction st.groups with
  | nil => rfl
  | cons g groups ih =>
    obtain ⟨i, x⟩ := g
    simp only [List.map_cons, List.lookup_cons]
    cases index == i with
    | true => rfl
    | false => exact ih

end State

/-! ## One match -/

theorem map_orElse (f : β → γ) (a b : Option β) : (a <|> b).map f = (a.map f <|> b.map f) := by
  cases a <;> rfl

/-- Two continuations do the same, one of them behind the other symbols. -/
def Follows (front : List α) (f : β → γ) (k : State α → Option β) (k' : State α → Option γ) :
    Prop :=
  ∀ st : State α, st.ByOne → k' (st.behind front) = (k st).map f

/-- A pattern does the same behind the other symbols, whatever follows it. -/
def Follows.Kept (front : List α) (p : Pattern α) : Prop :=
  ∀ {β γ : Type} {f : β → γ} {k : State α → Option β} {k' : State α → Option γ},
    Follows front f k k' → Follows front f (p.run false k) (p.run false k')

namespace Follows

variable {f : β → γ} {k : State α → Option β} {k' : State α → Option γ}

/-- One more round is made if it has moved on, behind the other symbols or not. -/
theorem moved {next : State α → Option β} {next' : State α → Option γ}
    (h : Follows front f next next') (st : State α) :
    Follows front f (fun st' => if st.pos != st'.pos then next st' else none)
      (fun st' => if (st.behind front).pos != st'.pos then next' st' else none) := by
  intro st' hone
  have hsame : ((st.behind front).pos != (st'.behind front).pos) = (st.pos != st'.pos) := by
    rw [Bool.eq_iff_iff, bne_iff_ne, bne_iff_ne]
    exact not_congr Nat.add_right_cancel_iff
  dsimp only
  rw [hsame, h st' hone]
  split <;> rfl

theorem rounds (hp : Kept front p) (hk : Follows front f k k') (greedy : Bool) (left : List α) :
    Follows front f (rounds greedy (p.run false) k left) (rounds greedy (p.run false) k' left) := by
  induction left with
  | nil => exact hk
  | cons _ left ih =>
    intro st hone
    simp only [Pattern.rounds]
    have hagain := hp (ih.moved st) st hone
    rw [hagain, hk st hone]
    cases greedy
    · exact (map_orElse f _ _).symm
    · exact (map_orElse f _ _).symm

theorem counted (hp : Kept front p) (hk : Follows front f k k') (greedy : Bool)
    (least more : Nat) :
    Follows front f (counted greedy (p.run false) k least more)
      (counted greedy (p.run false) k' least more) := by
  induction least with
  | succ least ih =>
    intro st hone
    simp only [Pattern.counted]
    exact hp ih st hone
  | zero =>
    induction more with
    | zero =>
      intro st hone
      simp only [Pattern.counted]
      exact hk st hone
    | succ more ih =>
      intro st hone
      simp only [Pattern.counted]
      have hagain := hp (ih.moved st) st hone
      rw [hagain, hk st hone]
      cases greedy
      · exact (map_orElse f _ _).symm
      · exact (map_orElse f _ _).symm

theorem many (hp : Kept front p) (greedy : Bool) : Kept front (.many greedy p) := by
  intro _ _ f k k' hk st hone
  rw [run_many (show (st.behind front).ByOne from hone), run_many hone]
  exact hk.rounds hp greedy st.rest st hone

/-- **Matching behind other text.** -/
theorem kept {edge : α} (hedge : front.getLast? = some edge) (hp : p.Blind edge) :
    Kept front p := by
  induction p with
  | empty => exact id
  | symbol test =>
    intro _ _ f k k' hk st hone
    have hrest : (st.behind front).rest = st.rest := rfl
    rw [run_symbol, run_symbol, hrest]
    cases st.rest with
    | nil => rfl
    | cons a rest =>
      dsimp only
      rw [State.advance_behind, hk (st.advance a rest) hone]
      split <;> rfl
  | seq a b iha ihb => exact fun hk => iha hp.1 (ihb hp.2 hk)
  | alt a b iha ihb =>
    intro _ _ f k k' hk st hone
    unfold run
    rw [iha hp.1 hk st hone, ihb hp.2 hk st hone, map_orElse]
  | many greedy p ih => exact many (ih hp) greedy
  | times greedy least most p ih => exact fun hk => hk.counted (ih hp) greedy least (most - least)
  | group index p ih =>
    intro _ _ f k k' hk st hone
    refine ih hp (fun st' hone' => ?_) st hone
    show k' ((st'.behind front).withGroup index ((st.behind front).extent (st'.behind front))) = _
    rw [State.extent_behind, State.withGroup_behind]
    exact hk (st'.withGroup index (st.extent st')) hone'
  | forget indices p ih =>
    intro _ _ f k k' hk st hone
    unfold run
    rw [State.without_behind]
    exact ih hp hk (st.without indices) hone
  | between test =>
    intro _ _ f k k' hk st hone
    unfold run
    rw [State.head?_before_behind hedge, hk st hone]
    have htest : test (some (st.before.head?.getD edge)) (st.behind front).rest.head? =
        test st.before.head? st.rest.head? := by
      cases st.before.head? with
      | none => exact (hp st.rest.head?).symm
      | some _ => rfl
    rw [htest]
    split <;> rfl
  | look | again => exact hp.elim

end Follows

theorem matchAt?_behind {edge : α} (hedge : front.getLast? = some edge) (hp : p.Blind edge)
    (hone : st.ByOne) : p.matchAt? (st.behind front) = (p.matchAt? st).map (Match.behind front) := by
  have hsome : Follows front (State.behind front) (some : State α → _) some := fun _ _ => rfl
  have hrun := Follows.kept hedge hp hsome st hone
  unfold matchAt?
  rw [hrun, Option.map_map, Option.map_map]
  congr 1
  funext after
  simp only [Function.comp_apply, Match.behind, State.extent_behind]
  rfl

theorem find?_behind {edge : α} (hedge : front.getLast? = some edge) (hp : p.Blind edge)
    (hone : st.ByOne) : p.find? (st.behind front) = (p.find? st).map (Match.behind front) := by
  have hmatch (st : State α) (hone : st.ByOne) :
      p.matchAt? { st.behind front with groups := [] } =
        (p.matchAt? { st with groups := [] }).map (Match.behind front) :=
    matchAt?_behind hedge hp (show State.ByOne { st with groups := [] } from hone)
  fun_induction find? p st with
  | case1 st m hm =>
    rw [find?, hmatch st hone, hm]
    rfl
  | case2 st hnone hrest =>
    rw [find?, hmatch st hone, hnone]
    dsimp only [Option.map_none]
    split
    · rfl
    · rename_i h
      simp only [State.behind, hrest] at h
      cases h
  | case3 st hnone a rest hrest ih =>
    rw [find?, hmatch st hone, hnone]
    dsimp only [Option.map_none]
    split
    · rename_i h
      simp only [State.behind, hrest] at h
      cases h
    · rename_i a' rest' h
      simp only [State.behind, hrest] at h
      cases h
      rw [State.advance_behind]
      exact ih hone

/-- A match in a text is read behind what is skipped. -/
theorem find?_text {text : List α} {m : Match α} (hp : p.isPlain = true)
    (h : p.find? { rest := text } = some m) :
    ∃ skipped, text = skipped ++ (m.text ++ m.after.rest) ∧ m.start = skipped.length ∧
      Reads p (({ rest := m.text ++ m.after.rest } : State α).behind skipped) m.after ∧
      (({ rest := m.text ++ m.after.rest } : State α).behind skipped).Passes m.text m.after := by
  obtain ⟨skipped, st, hskip, hstart, hread, hpass⟩ := find?_spec hp
    (show State.ByOne { rest := text } from rfl) h
  have hst : { st with groups := [] } =
      ({ rest := m.text ++ m.after.rest } : State α).behind skipped := by
    have hpos := hskip.pos
    have hbefore := hskip.before
    have hwidth := hskip.width
    simp only [State.behind, State.mk.injEq, List.nil_append, List.map_nil, true_and]
    exact ⟨by simpa using hbefore, hpass.rest, hpos, hwidth⟩
  refine ⟨skipped, ?_, ?_, hst ▸ hread, ?_⟩
  · rw [← hpass.rest]
    exact hskip.rest
  · rw [hstart, hskip.pos, Nat.zero_add]
  · rw [← hst]
    exact ⟨hpass.rest, hpass.before, hpass.pos, hpass.width⟩

/-! ## A front in which nothing begins -/

/-- The first match in a text begins among the symbols in front. -/
def BeginsIn (p : Pattern α) (front s : List α) : Prop :=
  ∃ m, p.find? { rest := front ++ s } = some m ∧ m.start < front.length

/-- If nothing begins in front of a text, searching there is searching behind the front. -/
theorem find?_front (p : Pattern α) (past front s : List α) :
    (∃ m, p.find? (({ rest := front ++ s } : State α).behind past) = some m ∧
      m.start < (past ++ front).length) ∨
    p.find? (({ rest := front ++ s } : State α).behind past) =
      p.find? (({ rest := s } : State α).behind (past ++ front)) := by
  induction front generalizing past with
  | nil => exact .inr (by rw [List.append_nil, List.nil_append])
  | cons a front ih =>
    rw [find?]
    split
    · rename_i m hm
      obtain ⟨after, -, rfl⟩ := Option.map_eq_some_iff.mp hm
      refine .inl ⟨_, rfl, ?_⟩
      simp [State.behind]
    · have hnext : (({ rest := a :: front ++ s } : State α).behind past).advance a (front ++ s) =
          ({ rest := front ++ s } : State α).behind (past ++ [a]) := by
        simp only [State.behind, State.advance, List.reverse_append, List.reverse_singleton,
          List.singleton_append, List.nil_append, List.length_append, List.length_singleton,
          List.map_nil, Nat.zero_add]
      have hrest := ih (past ++ [a])
      rw [List.append_assoc, List.singleton_append, ← hnext] at hrest
      exact hrest

theorem find?_append {edge : α} {s : List α} (hedge : front.getLast? = some edge)
    (hp : p.Blind edge) (hfront : ¬ p.BeginsIn front s) :
    p.find? { rest := front ++ s } = (p.find? { rest := s }).map (Match.behind front) := by
  obtain ⟨m, hm, hstart⟩ | h := find?_front p [] front s
  · exact absurd ⟨m, hm, hstart⟩ hfront
  · exact h.trans (find?_behind hedge hp rfl)

/-! ## All matches -/

/-- What is made of a match does not depend on what stands in front. -/
def Steady (front : List α) (make : Match α → List α) : Prop :=
  ∀ m : Match α, make (m.behind front) = make m

variable {make : Match α → List α} {s : List α}

theorem find?_after {m : Match α} (hp : p.isPlain = true) (hone : st.ByOne)
    (h : p.find? st = some m) :
    ({ m.after with groups := [] } : State α).ByOne ∧
      m.after.rest.length + p.least ≤ st.rest.length := by
  obtain ⟨skipped, st₀, hskip, -, hread, hpass⟩ := find?_spec hp hone h
  have hone₀ := hskip.byOne hone
  have hleast := hread.least_le (show State.ByOne { st₀ with groups := [] } from hone₀)
  refine ⟨hpass.byOne hone₀, ?_⟩
  rw [hskip.rest, List.length_append]
  exact Nat.le_trans hleast (Nat.le_add_left _ _)

/-- Every match of a pattern that covers something takes from the text, so more rounds than it has
symbols make no difference. -/
theorem replaceAll_fuel (hp : p.isPlain = true) (hleast : 1 ≤ p.least) {n n' : Nat}
    (hone : st.ByOne) (hn : st.rest.length < n) (hn' : st.rest.length < n') :
    p.replaceAll make n st = p.replaceAll make n' st := by
  induction n generalizing n' st with
  | zero => omega
  | succ n ih =>
    obtain ⟨n', rfl⟩ : ∃ k, n' = k + 1 := ⟨n' - 1, by omega⟩
    simp only [replaceAll]
    cases hm : p.find? st with
    | none => rfl
    | some m =>
      obtain ⟨hone', hless⟩ := find?_after hp hone hm
      dsimp only
      rw [ih hone' (show m.after.rest.length < n by omega)
        (show m.after.rest.length < n' by omega)]

theorem replaceAll_behind {edge : α} (hedge : front.getLast? = some edge) (hblind : p.Blind edge)
    (hp : p.isPlain = true) (hmake : Steady front make) (n : Nat) (hone : st.ByOne) :
    p.replaceAll make n (st.behind front) = p.replaceAll make n st := by
  induction n generalizing st with
  | zero => rfl
  | succ n ih =>
    simp only [replaceAll, find?_behind hedge hblind hone]
    cases hm : p.find? st with
    | none => rfl
    | some m =>
      dsimp only [Option.map_some]
      have hskipped : ((st.behind front).extent { st.behind front with
          pos := (m.behind front).start }).2 = (st.extent { st with pos := m.start }).2 := by
        simp only [State.extent, State.behind, Match.behind, Nat.add_sub_add_right]
      rw [hskipped, hmake m]
      congr 1
      exact ih (find?_after hp hone hm).1

/-- **Replacing behind a front in which nothing begins.** -/
theorem replaceAll_append {edge : α} (hedge : front.getLast? = some edge) (hblind : p.Blind edge)
    (hp : p.isPlain = true) (hleast : 1 ≤ p.least) (hmake : Steady front make)
    (hfront : ¬ p.BeginsIn front s) :
    p.replaceAll make ((front ++ s).length + 1) { rest := front ++ s } =
      front ++ p.replaceAll make (s.length + 1) { rest := s } := by
  simp only [replaceAll, find?_append hedge hblind hfront]
  cases hm : p.find? { rest := s } with
  | none => rfl
  | some m =>
    dsimp only [Option.map_some]
    obtain ⟨hone, hless⟩ := find?_after hp (show State.ByOne { rest := s } from rfl) hm
    change m.after.rest.length + p.least ≤ s.length at hless
    have hskipped : (State.extent ({ rest := front ++ s } : State α)
        { rest := front ++ s, pos := (m.behind front).start }).2 =
          front ++ (State.extent ({ rest := s } : State α) { rest := s, pos := m.start }).2 := by
      simp only [State.extent, State.takeWidth_one, Match.behind, Nat.sub_zero]
      rw [Nat.add_comm, List.take_length_add_append]
    have hrest : p.replaceAll make (front ++ s).length
        { (m.behind front).after with groups := [] } =
          p.replaceAll make s.length { m.after with groups := [] } := by
      refine (replaceAll_behind hedge hblind hp hmake _ hone).trans ?_
      refine replaceAll_fuel hp hleast hone ?_ ?_
      · show m.after.rest.length < (front ++ s).length
        rw [List.length_append]
        omega
      · show m.after.rest.length < s.length
        omega
    rw [hskipped, hmake m, hrest]
    simp only [List.append_assoc]

end Pattern

/-! ## What is replaced -/

namespace Pattern

variable {α : Type} {p : Pattern α} {st st' : State α} {text : List α} {a : α}

/-! ## Symbols of a pattern -/

/-- May a text that a pattern covers hold a symbol? -/
def mentions : Pattern α → α → Bool
  | empty, _ | between _, _ | look .., _ => false
  | again .., _ => true
  | symbol p, a => p a
  | seq p q, a | alt p q, a => p.mentions a || q.mentions a
  | many _ p, a | times _ _ _ p, a | group _ p, a | forget _ p, a => p.mentions a

theorem State.Passes.unique {text' : List α} (h : st.Passes text st') (h' : st.Passes text' st') :
    text = text' :=
  List.append_cancel_right (h.rest.symm.trans h'.rest)

/-- What is read over two stretches has its symbols from one of them. -/
theorem State.Passes.mem_or {st₁ : State α} {first second : List α} (h₁ : st.Passes first st₁)
    (h₂ : st₁.Passes second st') (h : st.Passes text st') (ha : a ∈ text) :
    a ∈ first ∨ a ∈ second := by
  rw [h.unique (h₁.trans h₂)] at ha
  exact List.mem_append.mp ha

theorem Reads.mentions (h : Reads p st st') (hone : st.ByOne) (hpass : st.Passes text st')
    (ha : a ∈ text) : p.mentions a = true := by
  induction h generalizing text with
  | @empty st | @manyStop _ _ st | @timesStop _ _ _ st | @between _ st =>
    rw [hpass.unique (.refl st)] at ha
    cases ha
  | symbol hrest hp =>
    rw [hpass.unique (.advance hone hrest), List.mem_singleton] at ha
    rw [ha]
    exact hp
  | seq h₁ h₂ ih₁ ih₂ =>
    obtain ⟨first, hfirst⟩ := h₁.exists_passes hone
    obtain ⟨second, hsecond⟩ := h₂.exists_passes (hfirst.byOne hone)
    rw [Pattern.mentions, Bool.or_eq_true]
    obtain ha | ha := hfirst.mem_or hsecond hpass ha
    · exact .inl (ih₁ hone hfirst ha)
    · exact .inr (ih₂ (hfirst.byOne hone) hsecond ha)
  | manyAgain h₁ h₂ ih₁ ih₂ | timesAgain h₁ h₂ ih₁ ih₂ =>
    obtain ⟨first, hfirst⟩ := h₁.exists_passes hone
    obtain ⟨second, hsecond⟩ := h₂.exists_passes (hfirst.byOne hone)
    obtain ha | ha := hfirst.mem_or hsecond hpass ha
    · exact ih₁ hone hfirst ha
    · exact ih₂ (hfirst.byOne hone) hsecond ha
  | altFirst _ ih =>
    rw [Pattern.mentions, Bool.or_eq_true]
    exact .inl (ih hone hpass ha)
  | altSecond _ ih =>
    rw [Pattern.mentions, Bool.or_eq_true]
    exact .inr (ih hone hpass ha)
  | group _ ih => exact ih hone ⟨hpass.rest, hpass.before, hpass.pos, hpass.width⟩ ha
  | forget _ ih => exact ih hone ⟨hpass.rest, hpass.before, hpass.pos, hpass.width⟩ ha

/-- No group holds a symbol that its patterns do not mention. -/
theorem not_mem_group? {index : Nat} (h : Reads p st st') (hone : st.ByOne)
    (hnone : st.group? index = none) (hheld : ∀ q ∈ p.held index, q.mentions a = false) :
    a ∉ ((st'.group? index).map (·.2)).getD [] := by
  intro ha
  cases hgroup : st'.group? index with
  | none => rw [hgroup] at ha; cases ha
  | some x =>
    rw [hgroup] at ha
    obtain hx | ⟨q, hq, st₁, st₂, hread, hone, hpass⟩ := h.group?_of hone hgroup
    · rw [hnone] at hx
      cases hx
    · have := hread.mentions hone hpass ha
      rw [hheld q hq] at this
      cases this

/-! ## Matches that are replaced -/

/-- The matches of a pattern, one behind the other, as `replaceAll` takes them. -/
def matchesFrom (p : Pattern α) : Nat → State α → List (Match α)
  | 0, _ => []
  | fuel + 1, st =>
    match p.find? st with
    | none => []
    | some m => m :: p.matchesFrom fuel { m.after with groups := [] }

/-- A replaced match comes from a place in the text where it is read. -/
theorem exists_reads_of_mem (hp : p.isPlain = true) (hone : st.ByOne) {fuel : Nat} {m : Match α}
    (hm : m ∈ p.matchesFrom fuel st) :
    ∃ st₀ : State α, st₀.ByOne ∧ st₀.groups = [] ∧ Reads p st₀ m.after := by
  induction fuel generalizing st with
  | zero => cases hm
  | succ fuel ih =>
    cases hfound : p.find? st with
    | none => simp [matchesFrom, hfound] at hm
    | some m' =>
      simp only [matchesFrom, hfound, List.mem_cons] at hm
      obtain ⟨skipped, st₀, hskip, -, hread, hpass⟩ := find?_spec hp hone hfound
      obtain rfl | hm := hm
      · exact ⟨{ st₀ with groups := [] }, hskip.byOne hone, rfl, hread⟩
      · exact ih (find?_after hp hone hfound).1 hm

/-- **Replacing changes the number of a symbol by what it puts for the matches.** -/
theorem count_replaceAll [BEq α] (hp : p.isPlain = true) (make : Match α → List α) (a : α)
    (fuel : Nat) (hone : st.ByOne) :
    (p.replaceAll make fuel st).count a +
        ((p.matchesFrom fuel st).map fun m => m.text.count a).sum =
      st.rest.count a + ((p.matchesFrom fuel st).map fun m => (make m).count a).sum := by
  induction fuel generalizing st with
  | zero => rfl
  | succ fuel ih =>
    cases hfound : p.find? st with
    | none => simp [replaceAll, matchesFrom, hfound]
    | some m =>
      simp only [replaceAll, matchesFrom, hfound]
      obtain ⟨skipped, st₀, hskip, hstart, -, hpass⟩ := find?_spec hp hone hfound
      have hrest := ih (find?_after hp hone hfound).1
      have hskipped : (st.extent { st with pos := m.start }).2 = skipped := by
        have hextent : st.extent { st with pos := m.start } = st.extent st₀ := by
          unfold State.extent
          rw [hstart]
        rw [hextent, hskip.extent hone]
      have htext : st.rest.count a = skipped.count a + m.text.count a + m.after.rest.count a := by
        rw [hskip.rest, hpass.rest, List.count_append, List.count_append, Nat.add_assoc]
      rw [hskipped, List.map_cons, List.map_cons, List.sum_cons, List.sum_cons, List.count_append,
        List.count_append, htext]
      dsimp only at hrest
      omega

end Pattern
end Restyle
