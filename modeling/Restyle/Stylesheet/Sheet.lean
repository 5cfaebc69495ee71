import Restyle.Stylesheet.Declaration
import Restyle.Stylesheet.Selector

/-!
# Restyle.Stylesheet.Sheet

Style sheets: rules read from text. Groups (`@media`, `@supports`, `@layer`) are opened, other
at-rules passed over, and a rule is kept once per selector of its list that can be read.
-/

namespace Restyle
namespace Stylesheet

structure Rule where
  selector : Selector
  declarations : List Declaration
  deriving Repr, BEq, DecidableEq, Inhabited

/-- The rules of a sheet in order. -/
structure Sheet where
  rules : List Rule := []
  deriving Repr, BEq, DecidableEq, Inhabited

/-- Cuts at the brace that closes a block, from inside the block. -/
def cutBlock (q : Quote) (depth : Nat) : List Char → Option (List Char × List Char)
  | [] => none
  | c :: cs =>
    let (q, inside) := q.feed c
    let go (depth : Nat) :=
      (cutBlock q depth cs).map fun (before, after) => (c :: before, after)
    if inside then go depth
    else if c == '{' then go (depth + 1)
    else if c == '}' then
      match depth with
      | 0 => some ([], cs)
      | depth + 1 => go depth
    else go depth

theorem length_cutBlock {q : Quote} {depth : Nat} {cs before after : List Char}
    (h : cutBlock q depth cs = some (before, after)) :
    before.length + after.length + 1 = cs.length := by
  induction cs generalizing q depth before after with
  | nil => simp [cutBlock] at h
  | cons c cs ih =>
    simp only [cutBlock] at h
    have step : ∀ {q depth}, ((cutBlock q depth cs).map fun x => (c :: x.1, x.2)) =
        some (before, after) → before.length + after.length + 1 = (c :: cs).length := by
      intro q depth h
      simp only [Option.map_eq_some_iff, Prod.mk.injEq] at h
      obtain ⟨⟨x, y⟩, hx, rfl, rfl⟩ := h
      have := ih hx
      simp only [List.length_cons] at *
      omega
    repeat' split at h
    all_goals first
      | exact step h
      | (simp only [Option.some.injEq, Prod.mk.injEq] at h
         obtain ⟨rfl, rfl⟩ := h
         simp)

/-- White space and semicolons may stand before a rule. -/
def isRuleSeparator (c : Char) : Bool := Text.isSpace c || c == ';'

/-- Head and body of the next block, and the text after it. -/
def nextBlock? (cs : List Char) : Option (List Char × List Char × List Char) :=
  match cutTop '{' (cs.dropWhile isRuleSeparator) with
  | none => none
  | some (head, inside) => (cutBlock {} 0 inside).map fun (body, rest) => (head, body, rest)

theorem length_nextBlock? {cs head body rest : List Char}
    (h : nextBlock? cs = some (head, body, rest)) :
    body.length < cs.length ∧ rest.length < cs.length := by
  simp only [nextBlock?] at h
  have h₀ := (List.dropWhile_sublist isRuleSeparator (l := cs)).length_le
  split at h
  · simp at h
  · next hd inside hc =>
    simp only [Option.map_eq_some_iff, Prod.mk.injEq] at h
    obtain ⟨⟨b, r⟩, hb, rfl, rfl, rfl⟩ := h
    have h₁ := length_cutTop hc
    have h₂ := length_cutBlock hb
    simp only at h₂ ⊢
    omega

/-- At-rules whose block holds rules of the sheet. -/
def isGroup (head : String) : Bool :=
  ["@media", "@supports", "@layer"].any fun name =>
    (Text.after? name.toList (Text.lower head).toList).isSome

/-- The rules that one block stands for. -/
def rulesOf (head : String) (body : List Char) : List Rule :=
  match parseDeclarations (String.ofList body) with
  | [] => []
  | declarations =>
    (splitTop ',' head.toList).filterMap fun part =>
      (Selector.parse? part).map ({ selector := ·, declarations })

/-- The rules of text without comments. -/
def parseRules (cs : List Char) : List Rule :=
  match _h : nextBlock? cs with
  | none => []
  | some (head, body, rest) =>
    let head := Text.squeeze (String.ofList head)
    let here :=
      if head.isEmpty then []
      else if isGroup head then parseRules body
      else if head.front == '@' then []
      else rulesOf head body
    here ++ parseRules rest
termination_by cs.length
decreasing_by
  · exact (length_nextBlock? _h).1
  · exact (length_nextBlock? _h).2

def Sheet.parse (css : String) : Sheet :=
  ⟨parseRules (stripComments {} css.toList)⟩

end Stylesheet
end Restyle
