import Restyle.Stylesheet.Quote

/-!
# Restyle.Stylesheet.Declaration

Declarations `name: value` separated by semicolons, as they stand in a rule or in a `style`
attribute. Pieces without a colon, a name or a value are passed over.
-/

namespace Restyle
namespace Stylesheet

structure Declaration where
  name : String
  value : String
  deriving Repr, BEq, DecidableEq, Inhabited

/-- Writes every run of blanks outside strings as one space. Only ASCII characters change the
string state. -/
def squeezeValue (q : Quote) (spaced : Bool) : List Char → List Char
  | [] => []
  | c :: cs =>
    let (q, inside) := if c.toNat < 128 then q.feed c else (q, false)
    if inside || q.mark.isSome then c :: squeezeValue q false cs
    else if Text.isBlank c then
      if spaced then squeezeValue q true cs else ' ' :: squeezeValue q true cs
    else c :: squeezeValue q false cs

/-- A value as stored: blanks squeezed outside strings, none at the ends. -/
def normalizeValue (cs : List Char) : String :=
  String.ofList (Text.trimBy Text.isBlank (squeezeValue {} false cs))

/-- Reads one piece between semicolons. -/
def Declaration.parse? (cs : List Char) : Option Declaration :=
  match cutTop ':' (Text.trimBy Text.isBlank cs) with
  | none => none
  | some (before, after) =>
    let name := Text.lower (Text.squeeze (String.ofList before))
    let value := normalizeValue after
    if name.isEmpty || value.isEmpty then none else some ⟨name, value⟩

/-- The declarations of a block, from text without its braces. -/
def parseDeclarations (s : String) : List Declaration :=
  (splitTop ';' (stripComments {} s.toList)).filterMap Declaration.parse?

end Stylesheet
end Restyle
