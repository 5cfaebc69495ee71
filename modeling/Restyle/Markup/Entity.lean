import Restyle.Text

/-!
# Restyle.Markup.Entity

Character references in markup text: six names and numbers in decimal or hexadecimal. What is
no reference stays as written, so decoding never fails.
-/

namespace Restyle
namespace Markup
namespace Entity

/-- Longest name of a reference, in bytes. -/
def nameLimit : Nat := 9

/-- A number without sign, or with one `+`, of at least one digit. -/
def number? (digit : Char → Bool) (value : List Char → Nat) (cs : List Char) : Option Nat :=
  let ds := match cs with
    | '+' :: rest => rest
    | _ => cs
  if !ds.isEmpty && ds.all digit then some (value ds) else none

/-- The character that a name stands for; the name is what stands between `&` and `;`. -/
def ofName? : List Char → Option Char
  | ['a', 'm', 'p'] => some '&'
  | ['l', 't'] => some '<'
  | ['g', 't'] => some '>'
  | ['q', 'u', 'o', 't'] => some '"'
  | ['a', 'p', 'o', 's'] => some '\''
  | ['n', 'b', 's', 'p'] => some '\u00a0'
  | '#' :: 'x' :: ds => (number? Text.isHexDigit Text.hexadecimal ds).bind Text.scalar?
  | '#' :: 'X' :: ds => (number? Text.isHexDigit Text.hexadecimal ds).bind Text.scalar?
  | '#' :: ds => (number? Char.isDigit Text.decimal ds).bind Text.scalar?
  | _ => none

/-- Reads the rest of a reference after its `&`. -/
def reference? (cs : List Char) : Option (Char × List Char) :=
  let name := cs.takeWhile (· != ';')
  match cs.dropWhile (· != ';') with
  | [] => none
  | _ :: rest =>
    if Text.byteLength name ≤ nameLimit then (ofName? name).map (·, rest) else none

theorem length_reference? {cs rest : List Char} {c : Char}
    (h : reference? cs = some (c, rest)) : rest.length < cs.length := by
  simp only [reference?] at h
  split at h
  · simp at h
  · next r heq =>
    have hl := (List.dropWhile_sublist (fun c => c != ';') (l := cs)).length_le
    rw [heq] at hl
    split at h
    · simp only [Option.map_eq_some_iff, Prod.mk.injEq] at h
      obtain ⟨_, _, _, rfl⟩ := h
      simp only [List.length_cons] at hl
      omega
    · simp at h

/-- Replaces every reference, from left to right. -/
def decode (cs : List Char) : List Char :=
  match cs with
  | [] => []
  | c :: rest =>
    if c == '&' then
      match h : reference? rest with
      | some (decoded, after) =>
        have := length_reference? h
        decoded :: decode after
      | none => c :: decode rest
    else c :: decode rest
termination_by cs.length
decreasing_by
  · simp only [List.length_cons]; omega
  · simp
  · simp

end Entity

/-- Text with every reference replaced. -/
def decodeEntities (s : String) : String :=
  String.ofList (Entity.decode s.toList)

end Markup
end Restyle
