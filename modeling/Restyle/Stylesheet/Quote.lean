import Restyle.Text

/-!
# Restyle.Stylesheet.Quote

Reading style text with regard to string literals. `Quote` says whether the reader stands in a
string; `cutTop` and `splitTop` find a mark outside strings, parentheses and brackets;
`stripComments` removes comments outside strings.
-/

namespace Restyle
namespace Stylesheet

/-- The quotation mark of the string the reader is in, and whether a backslash came last. -/
structure Quote where
  mark : Option Char := none
  escaped : Bool := false
  deriving Repr, BEq, DecidableEq

namespace Quote

/-- The state after one more character, and whether that character belongs to a string. -/
def feed (q : Quote) (c : Char) : Quote × Bool :=
  match q.mark with
  | some m =>
    if q.escaped then ({ q with escaped := false }, true)
    else if c == '\\' then ({ q with escaped := true }, true)
    else if c == m then ({ q with mark := none }, true)
    else (q, true)
  | none => if c == '\'' || c == '"' then ({ q with mark := some c }, true) else (q, false)

end Quote

/-- Cuts at the first `target` outside strings, parentheses and brackets. -/
def cutTopFrom (target : Char) (q : Quote) (parens brackets : Nat) :
    List Char → Option (List Char × List Char)
  | [] => none
  | c :: cs =>
    let (q, inside) := q.feed c
    let go (parens brackets : Nat) :=
      (cutTopFrom target q parens brackets cs).map fun (before, after) => (c :: before, after)
    if inside then go parens brackets
    else if c == '(' then go (parens + 1) brackets
    else if c == ')' then go (parens - 1) brackets
    else if c == '[' then go parens (brackets + 1)
    else if c == ']' then go parens (brackets - 1)
    else if c == target && parens == 0 && brackets == 0 then some ([], cs)
    else go parens brackets

def cutTop (target : Char) (cs : List Char) : Option (List Char × List Char) :=
  cutTopFrom target {} 0 0 cs

theorem length_cutTopFrom {target : Char} {q : Quote} {p b : Nat} {cs before after : List Char}
    (h : cutTopFrom target q p b cs = some (before, after)) :
    before.length + after.length + 1 = cs.length := by
  induction cs generalizing q p b before after with
  | nil => simp [cutTopFrom] at h
  | cons c cs ih =>
    simp only [cutTopFrom] at h
    have step : ∀ {q p b}, ((cutTopFrom target q p b cs).map fun x => (c :: x.1, x.2)) =
        some (before, after) → before.length + after.length + 1 = (c :: cs).length := by
      intro q p b h
      simp only [Option.map_eq_some_iff, Prod.mk.injEq] at h
      obtain ⟨⟨x, y⟩, hx, rfl, rfl⟩ := h
      have := ih hx
      simp only [List.length_cons] at *
      omega
    repeat' split at h
    all_goals first
      | exact step h
      | (simp only [Option.some.injEq, Prod.mk.injEq] at h
         obtain ⟨rfl, rfl⟩ := h
         simp)

theorem length_cutTop {target : Char} {cs before after : List Char}
    (h : cutTop target cs = some (before, after)) :
    before.length + after.length + 1 = cs.length :=
  length_cutTopFrom h

/-- The pieces between marks outside strings, parentheses and brackets. Each piece is read from
a fresh state. -/
def splitTop (mark : Char) (cs : List Char) : List (List Char) :=
  match _h : cutTop mark cs with
  | none => [cs]
  | some (before, after) => before :: splitTop mark after
termination_by cs.length
decreasing_by
  have := length_cutTop _h
  omega

/-- The text after a comment's end; empty if the comment is not closed. -/
def afterComment : List Char → List Char
  | [] => []
  | '*' :: '/' :: rest => rest
  | _ :: rest => afterComment rest

theorem length_afterComment_le (cs : List Char) : (afterComment cs).length ≤ cs.length := by
  fun_induction afterComment cs <;> simp_all <;> omega

/-- The text after a comment that begins with `c`, if one does. -/
def pastComment? (c : Char) (cs : List Char) : Option (List Char) :=
  match c, cs with
  | '/', '*' :: body => some (afterComment body)
  | _, _ => none

theorem length_pastComment? {c : Char} {cs rest : List Char} (h : pastComment? c cs = some rest) :
    rest.length ≤ cs.length := by
  simp only [pastComment?] at h
  split at h
  · next body =>
    have := length_afterComment_le body
    simp only [Option.some.injEq] at h
    subst h
    simp only [List.length_cons]
    omega
  · simp at h

/-- Removes comments that begin outside strings. -/
def stripComments (q : Quote) (cs : List Char) : List Char :=
  match cs with
  | [] => []
  | c :: rest =>
    match q.feed c with
    | (q, true) => c :: stripComments q rest
    | (q, false) =>
      match _h : pastComment? c rest with
      | some after => stripComments q after
      | none => c :: stripComments q rest
termination_by cs.length
decreasing_by
  · simp
  · have := length_pastComment? _h
    simp only [List.length_cons]
    omega
  · simp

end Stylesheet
end Restyle
