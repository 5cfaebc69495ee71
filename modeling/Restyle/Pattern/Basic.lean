/-!
# Restyle.Pattern.Basic

Patterns over sequences of symbols, matched with backtracking: the first alternative that leads
to a match wins, and a repetition takes as many (or, if lazy, as few) rounds as it can. A pattern
is matched from left to right, or, where it looks at what comes before, from right to left.
`Pattern.run` passes each way to match to a continuation.
-/

namespace Restyle

/-- A pattern over symbols of a type. -/
inductive Pattern (α : Type) where
  | empty
  /-- One symbol of a class. -/
  | symbol (p : α → Bool)
  | seq (first second : Pattern α)
  | alt (first second : Pattern α)
  /-- Any number of rounds, none of them empty. -/
  | many (greedy : Bool) (p : Pattern α)
  /-- A number of rounds from `least` to `most`; those beyond the least are not empty. -/
  | times (greedy : Bool) (least most : Nat) (p : Pattern α)
  | group (index : Nat) (p : Pattern α)
  /-- A pattern that starts without what some groups have matched. -/
  | forget (groups : List Nat) (p : Pattern α)
  /-- A test of the symbols on both sides, `none` at an end of the sequence. -/
  | between (p : Option α → Option α → Bool)
  /-- What follows, or what comes before, matches or does not match; nothing is consumed. -/
  | look (back positive : Bool) (p : Pattern α)
  /-- The symbols that a group matched, up to a given likeness. -/
  | again (same : α → α → Bool) (index : Nat)

namespace Pattern

/-- Where a match stands: the symbols before (nearest first) and after, the position, and the
extents of the groups matched so far. A position is the sum of the widths of the symbols
before it. -/
structure State (α : Type) where
  before : List α := []
  rest : List α
  pos : Nat := 0
  groups : List (Nat × Nat × List α) := []
  width : α → Nat := fun _ => 1

namespace State

variable {α : Type}

/-- Passes over one symbol. -/
def advance (st : State α) (a : α) (rest : List α) : State α :=
  { st with before := a :: st.before, rest, pos := st.pos + st.width a }

/-- The next symbol in a direction, and the state beyond it. -/
def step? (st : State α) (back : Bool) : Option (α × State α) :=
  match back, st.before, st.rest with
  | false, _, a :: rest => some (a, st.advance a rest)
  | true, a :: before, rest =>
    some (a, { st with before, rest := a :: rest, pos := st.pos - st.width a })
  | _, _, _ => none

/-- The symbols that are left in a direction. -/
def left (st : State α) (back : Bool) : List α := if back then st.before else st.rest

/-- Extent of a group: position and symbols. -/
def group? (st : State α) (index : Nat) : Option (Nat × List α) := st.groups.lookup index

/-- Passes over given symbols, if they come next. -/
def expect? (back : Bool) (same : α → α → Bool) (st : State α) : List α → Option (State α)
  | [] => some st
  | a :: as =>
    match st.step? back with
    | some (b, st) => if same a b then st.expect? back same as else none
    | none => none

/-- The first symbols, up to a sum of their widths. -/
def takeWidth (width : α → Nat) : Nat → List α → List α
  | 0, _ => []
  | _ + 1, [] => []
  | n + 1, a :: as => a :: takeWidth width (n + 1 - width a) as

/-- Position and symbols between two states, the first of them to the left. -/
def extent (first last : State α) : Nat × List α :=
  (first.pos, takeWidth first.width (last.pos - first.pos) first.rest)

/-- Sets the extent of a group. -/
def withGroup (st : State α) (index : Nat) (extent : Nat × List α) : State α :=
  { st with groups := (index, extent) :: st.groups.filter (·.1 != index) }

/-- Without the extents of some groups. -/
def without (st : State α) (indices : List Nat) : State α :=
  { st with groups := st.groups.filter (!indices.contains ·.1) }

end State

variable {α : Type}

/-- Rounds of a repetition; every round moves on, so there are at most as many as symbols left,
which are given. -/
def rounds {β : Type} (greedy : Bool) (round : (State α → Option β) → State α → Option β)
    (k : State α → Option β) : List α → State α → Option β
  | [], st => k st
  | _ :: left, st =>
    let again (_ : Unit) :=
      round (fun st' => if st.pos != st'.pos then rounds greedy round k left st' else none) st
    if greedy then again () <|> k st else k st <|> again ()

/-- The states after any number of symbols of a class, the last first. -/
def runs (back : Bool) (p : α → Bool) : List α → State α → List (State α) → List (State α)
  | [], st, out => st :: out
  | _ :: left, st, out =>
    match st.step? back with
    | some (a, next) => if p a then runs back p left next (st :: out) else st :: out
    | none => st :: out

/-- A number of rounds that has to be made, then a number that may be. -/
def counted {β : Type} (greedy : Bool) (round : (State α → Option β) → State α → Option β)
    (k : State α → Option β) : Nat → Nat → State α → Option β
  | least + 1, more, st => round (counted greedy round k least more) st
  | 0, 0, st => k st
  | 0, more + 1, st =>
    let again (_ : Unit) :=
      round (fun st' => if st.pos != st'.pos then counted greedy round k 0 more st' else none) st
    if greedy then again () <|> k st else k st <|> again ()

/-- Hands every way to match in a direction to `k`, best first, until one succeeds. -/
def run : Pattern α → Bool → {β : Type} → (State α → Option β) → State α → Option β
  | empty, _, _, k, st => k st
  | symbol p, back, _, k, st =>
    match st.step? back with
    | some (a, st) => if p a then k st else none
    | none => none
  | seq a b, back, _, k, st => if back then b.run back (a.run back k) st else a.run back (b.run back k) st
  | alt a b, back, _, k, st => a.run back k st <|> b.run back k st
  | many true (symbol p), back, _, k, st => (runs back p (st.left back) st []).findSome? k
  | many greedy p, back, _, k, st => rounds greedy (p.run back) k (st.left back) st
  | times greedy least most p, back, _, k, st =>
    counted greedy (p.run back) k least (most - least) st
  | group index p, back, _, k, st =>
    p.run back (fun st' =>
      k (st'.withGroup index (if back then st'.extent st else st.extent st'))) st
  | forget indices p, back, _, k, st => p.run back k (st.without indices)
  | between p, _, _, k, st => if p st.before.head? st.rest.head? then k st else none
  | look back positive p, _, _, k, st =>
    match p.run back some st, positive with
    | some st', true => k { st with groups := st'.groups }
    | none, false => k st
    | _, _ => none
  | again same index, back, _, k, st =>
    match st.group? index with
    | some (_, symbols) =>
      match st.expect? back same (if back then symbols.reverse else symbols) with
      | some st' => k st'
      | none => none
    | none => k st

/-- A match: where it starts, the symbols it covers, what follows, and its groups. -/
structure Match (α : Type) where
  start : Nat
  text : List α
  after : State α

/-- Matches at a state. -/
def matchAt? (p : Pattern α) (st : State α) : Option (Match α) :=
  (p.run false some st).map fun after =>
    { start := st.pos, text := (st.extent after).2, after }

/-- The first match at or after a state. -/
def find? (p : Pattern α) (st : State α) : Option (Match α) :=
  match p.matchAt? { st with groups := [] } with
  | some m => some m
  | none =>
    match _h : st.rest with
    | [] => none
    | a :: rest => p.find? (st.advance a rest)
termination_by st.rest.length
decreasing_by simp_all [State.advance]

namespace Match

variable {α : Type}

/-- The symbols of a group, if it took part. -/
def group? (m : Match α) (index : Nat) : Option (List α) :=
  (m.after.group? index).map (·.2)

end Match

/-- Replaces every match by a text made from it. Matches are not empty. -/
def replaceAll (p : Pattern α) (make : Match α → List α) : Nat → State α → List α
  | 0, st => st.rest
  | fuel + 1, st =>
    match p.find? st with
    | none => st.rest
    | some m =>
      (st.extent { st with pos := m.start }).2 ++ make m ++
        replaceAll p make fuel { m.after with groups := [] }

end Pattern
end Restyle
