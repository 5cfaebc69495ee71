import Restyle.Text

/-!
# Restyle.Source.Fault

Why component source cannot be lowered, and where. The wording is in `Fault.message`.
-/

namespace Restyle
namespace Source

inductive Fault where
  | endOfInput
  | openComment
  | openString
  | openTemplate
  | openRegex
  | openElement (name : List Char)
  | openContents
  | loneSlash
  | noSpread
  | strayInTag
  | emptyAttribute
  | noAttributeValue
  | noName
  | openClosingTag
  | wrongClosingTag (expected : List Char)
  | enumHead
  | enumBody
  | enumMember (key : List Char)
  /-- The bound on the number of steps was reached. -/
  | exhausted
  deriving Repr, BEq, DecidableEq

namespace Fault

def message : Fault → String
  | endOfInput => "Unexpected end of input, expected `\x7d`"
  | openComment => "Unterminated comment"
  | openString => "Unterminated string constant"
  | openTemplate => "Unterminated template literal"
  | openRegex => "Unterminated regular expression"
  | openElement name => "Unterminated JSX element <" ++ String.ofList name ++ ">"
  | openContents => "Unterminated JSX contents"
  | loneSlash => "Expected `>` after `/` in JSX tag"
  | noSpread => "Expected `...` in JSX spread attribute"
  | strayInTag => "Unexpected token in JSX tag"
  | emptyAttribute => "JSX attributes must only be assigned a non-empty expression"
  | noAttributeValue => "JSX value should be either an expression or a quoted JSX text"
  | noName => "Expected a JSX tag or attribute name"
  | openClosingTag => "Expected `>` to close JSX closing tag"
  | wrongClosingTag expected =>
    "Expected corresponding JSX closing tag for <" ++ String.ofList expected ++ ">"
  | enumHead => "Expected an enum name followed by `\x7b`"
  | enumBody => "Unterminated enum body"
  | enumMember key => "Invalid enum member `" ++ String.ofList key ++ "`"
  | exhausted => "Too many steps"

end Fault

/-- A fault and the position, in characters, where it was found. -/
structure FaultAt where
  fault : Fault
  position : Nat
  deriving Repr, BEq, DecidableEq

/-- A fault and its byte offset in the source. -/
structure LoweringError where
  fault : Fault
  offset : Nat
  deriving Repr, BEq, DecidableEq

end Source
end Restyle
