import Restyle.Text.Printable

/-!
# Restyle.Source.Literal

String literals of the generated code, in double quotation marks. Characters that do not show
are written by their codes.
-/

namespace Restyle
namespace Source

/-- One character inside a string literal. -/
def literalChar (c : Char) : List Char :=
  if c == '\x00' then ['\\', '0']
  else if c == '\t' then ['\\', 't']
  else if c == '\r' then ['\\', 'r']
  else if c == '\n' then ['\\', 'n']
  else if c == '\\' then ['\\', '\\']
  else if c == '"' then ['\\', '"']
  else if Text.isPrintable c then [c]
  else ['\\', 'u', '{'] ++ Text.hexDigits c.toNat ++ ['}']

/-- The literal of a string. -/
def stringLiteral (s : List Char) : List Char :=
  '"' :: s.flatMap literalChar ++ ['"']

end Source
end Restyle
