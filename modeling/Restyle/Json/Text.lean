import Restyle.Text

/-!
# Restyle.Json.Text

JSON strings and flat JSON objects. `quote` writes a string; `readString?` and `readPairs?`
read the strings and the objects of strings that a whole JSON text consists of.
-/

namespace Restyle
namespace Json

/-- Hexadecimal digit in lower case. -/
def hexDigit (n : Nat) : Char :=
  if n < 10 then Char.ofNat (48 + n) else Char.ofNat (87 + n)

/-- One character inside a JSON string. -/
def escapeChar (c : Char) : List Char :=
  if c == '"' then ['\\', '"']
  else if c == '\\' then ['\\', '\\']
  else if c == '\x08' then ['\\', 'b']
  else if c == '\x0c' then ['\\', 'f']
  else if c == '\n' then ['\\', 'n']
  else if c == '\r' then ['\\', 'r']
  else if c == '\t' then ['\\', 't']
  else if c.toNat < 32 then ['\\', 'u', '0', '0', hexDigit (c.toNat / 16), hexDigit (c.toNat % 16)]
  else [c]

/-- A string as JSON text. -/
def quote (s : String) : String :=
  String.ofList ('"' :: s.toList.flatMap escapeChar ++ ['"'])

/-- White space between JSON tokens. -/
def isSpace (c : Char) : Bool := c == ' ' || c == '\t' || c == '\n' || c == '\r'

def skipSpaces (cs : List Char) : List Char := cs.dropWhile isSpace

/-- Reads four hexadecimal digits. -/
def readUnit? : List Char → Option (Nat × List Char)
  | a :: b :: c :: d :: rest =>
    if [a, b, c, d].all Text.isHexDigit then some (Text.hexadecimal [a, b, c, d], rest) else none
  | _ => none

/-- Reads what follows a backslash: one character, or a pair of surrogates for one. -/
def readEscape? : List Char → Option (Char × List Char)
  | '"' :: rest => some ('"', rest)
  | '\\' :: rest => some ('\\', rest)
  | '/' :: rest => some ('/', rest)
  | 'b' :: rest => some ('\x08', rest)
  | 'f' :: rest => some ('\x0c', rest)
  | 'n' :: rest => some ('\n', rest)
  | 'r' :: rest => some ('\r', rest)
  | 't' :: rest => some ('\t', rest)
  | 'u' :: rest =>
    match readUnit? rest with
    | none => none
    | some (high, rest) =>
      if 0xD800 ≤ high && high < 0xDC00 then
        match rest with
        | '\\' :: 'u' :: rest =>
          match readUnit? rest with
          | some (low, rest) =>
            if 0xDC00 ≤ low && low < 0xE000 then
              (Text.scalar? (0x10000 + (high - 0xD800) * 0x400 + (low - 0xDC00))).map (·, rest)
            else none
          | none => none
        | _ => none
      else (Text.scalar? high).map (·, rest)
  | _ => none

/-- Reads the rest of a string after its opening quotation mark. The first argument bounds the
number of characters. -/
def readChars? : Nat → List Char → Option (List Char × List Char)
  | 0, _ => none
  | _, [] => none
  | fuel + 1, c :: cs =>
    if c == '"' then some ([], cs)
    else if c == '\\' then
      match readEscape? cs with
      | some (d, rest) => (readChars? fuel rest).map fun (s, rest) => (d :: s, rest)
      | none => none
    else if c.toNat < 32 then none
    else (readChars? fuel cs).map fun (s, rest) => (c :: s, rest)

/-- Reads a string at the head of JSON text. -/
def readStringPrefix? (cs : List Char) : Option (String × List Char) :=
  match skipSpaces cs with
  | '"' :: rest => (readChars? (rest.length + 1) rest).map fun (s, rest) => (String.ofList s, rest)
  | _ => none

/-- Reads JSON text that is one string. -/
def readString? (text : String) : Option String :=
  match readStringPrefix? text.toList with
  | some (s, rest) => if (skipSpaces rest).isEmpty then some s else none
  | none => none

/-- Reads the members of an object after its opening brace or a comma. -/
def readMembers? : Nat → List Char → Option (List (String × String) × List Char)
  | 0, _ => none
  | fuel + 1, cs =>
    match readStringPrefix? cs with
    | none => none
    | some (key, rest) =>
      match skipSpaces rest with
      | ':' :: rest =>
        match readStringPrefix? rest with
        | none => none
        | some (value, rest) =>
          match skipSpaces rest with
          | ',' :: rest =>
            (readMembers? fuel rest).map fun (more, rest) => ((key, value) :: more, rest)
          | '}' :: rest => some ([(key, value)], rest)
          | _ => none
      | _ => none

/-- Reads JSON text that is one object whose values are strings. -/
def readPairs? (text : String) : Option (List (String × String)) :=
  match skipSpaces text.toList with
  | '{' :: rest =>
    match skipSpaces rest with
    | '}' :: rest => if (skipSpaces rest).isEmpty then some [] else none
    | rest =>
      match readMembers? rest.length rest with
      | some (pairs, rest) => if (skipSpaces rest).isEmpty then some pairs else none
      | none => none
  | _ => none

end Json
end Restyle
