import Restyle.Script.Numeral
import Restyle.Script.Regex
import Restyle.Text.Word

/-!
# Restyle.Script.Token

Words of scripts. `Reader.next` reads the word at a place; a slash or a closing brace is read
again by `Reader.regex` or `Reader.template` where the grammar asks for a regular expression or
the rest of a template.
-/

namespace Restyle
namespace Script

/-- Line and column, both from one. -/
structure Place where
  line : Nat
  column : Nat
  deriving Repr, BEq, DecidableEq, Inhabited

/-- Why a text is no script: a word that does not fit, or a word that is malformed, whose
place is not told. -/
inductive ScriptFault where
  | unexpected (place : Place)
  | malformed
  deriving Repr, BEq, DecidableEq, Inhabited

inductive Token where
  /-- A name or a word of the language; `escaped` if it is written with escapes. -/
  | name (x : String) (escaped : Bool)
  | hidden (x : String)
  | mark (text : String)
  | number (x : Float)
  | bigint (n : Int)
  | string (s : Utf16) (plain : Bool)
  /-- A piece of a template, as meant and as written; `last` if the template ends with it. -/
  | template (cooked : Option Utf16) (raw : Utf16) (last : Bool)
  | regex (body flags : String)
  | finish
  deriving Repr, BEq, Inhabited

/-- What is left of a text, the number of characters in it, and the place of the first. -/
structure Reader where
  rest : List Char
  left : Nat
  place : Place
  deriving Repr, BEq, Inhabited

/-- A word, where it stands and what follows it. -/
structure Lexeme where
  token : Token
  /-- Is there a line break before it? -/
  fresh : Bool
  start : Reader
  stop : Reader
  deriving Repr, BEq, Inhabited

def isLineEnd (c : Char) : Bool := c == '\n' || c == '\r' || c == '\u2028' || c == '\u2029'

namespace Place

/-- The place after some characters. -/
def after (p : Place) : List Char → Place
  | [] => p
  | '\r' :: '\n' :: rest => after ⟨p.line + 1, 1⟩ rest
  | c :: rest => if isLineEnd c then after ⟨p.line + 1, 1⟩ rest else after { p with column := p.column + 1 } rest

end Place

namespace Reader

/-- The start of a text. -/
def ofText (text : List Char) : Reader := ⟨text, text.length, ⟨1, 1⟩⟩

/-- Passes over a number of characters. -/
def skip (r : Reader) (n : Nat) : Reader :=
  { rest := r.rest.drop n, left := r.left - n, place := r.place.after (r.rest.take n) }

end Reader

/-! ## Classes of characters -/

def isNameStart (c : Char) : Bool :=
  c.isAlpha || c == '_' || c == '$' || (c.toNat ≥ 128 && Text.isWordChar c)

def isNamePart (c : Char) : Bool :=
  isNameStart c || c.isDigit || c == '\u200c' || c == '\u200d'

/-! ## Space and comments -/

/-- Where space is read: outside comments, or in one of either kind. -/
inductive SpaceMode where
  | plain | line | block

/-- Counts the characters of space and comments; whether there is a line break among them. No
count if a comment does not end. -/
def spaceSpan : SpaceMode → List Char → Bool → Nat → Option (Nat × Bool)
  | .plain, '/' :: '/' :: rest, fresh, n => spaceSpan .line rest fresh (n + 2)
  | .plain, '/' :: '*' :: rest, fresh, n => spaceSpan .block rest fresh (n + 2)
  | .block, '*' :: '/' :: rest, fresh, n => spaceSpan .plain rest fresh (n + 2)
  | .block, [], _, _ => none
  | .block, c :: rest, fresh, n => spaceSpan .block rest (fresh || isLineEnd c) (n + 1)
  | _, [], fresh, n => some (n, fresh)
  | mode, c :: rest, fresh, n =>
    if isLineEnd c then spaceSpan .plain rest true (n + 1)
    else
      match mode with
      | .line => spaceSpan .line rest fresh (n + 1)
      | _ => if Utf16.isSpace c then spaceSpan .plain rest fresh (n + 1) else some (n, fresh)

/-! ## Escapes -/

/-- A code point written with hexadecimal digits: four, or any number in braces. -/
def codePoint? : List Char → Option (Nat × List Char)
  | '{' :: rest =>
    let ds := rest.takeWhile Text.isHexDigit
    match rest.dropWhile Text.isHexDigit with
    | '}' :: rest =>
      let n := Text.hexadecimal ds
      if !ds.isEmpty && n ≤ 0x10FFFF then some (n, rest) else none
    | _ => none
  | a :: b :: c :: d :: rest =>
    if [a, b, c, d].all Text.isHexDigit then some (Text.hexadecimal [a, b, c, d], rest) else none
  | _ => none

/-- Units of a code point, also of a surrogate. -/
def unitsOfPoint (n : Nat) : List UInt16 :=
  if n < 0x10000 then [n.toUInt16] else Utf16.unitsOfChar (Char.ofNat n)

/-- Reads what follows a backslash in a string or template. -/
def escape? (cs : List Char) : Option (List UInt16 × List Char) :=
  match cs with
  | [] => none
  | 'n' :: rest => some ([10], rest)
  | 't' :: rest => some ([9], rest)
  | 'r' :: rest => some ([13], rest)
  | 'b' :: rest => some ([8], rest)
  | 'f' :: rest => some ([12], rest)
  | 'v' :: rest => some ([11], rest)
  | 'x' :: a :: b :: rest =>
    if Text.isHexDigit a && Text.isHexDigit b then
      some ([(Text.hexadecimal [a, b]).toUInt16], rest)
    else none
  | 'x' :: _ => none
  | 'u' :: rest => (codePoint? rest).map fun (n, rest) => (unitsOfPoint n, rest)
  | '\r' :: '\n' :: rest => some ([], rest)
  | c :: rest =>
    if isLineEnd c then some ([], rest)
    else if c.isDigit then
      if c == '0' && !rest.head?.any Char.isDigit then some ([0], rest) else none
    else some (Utf16.unitsOfChar c, rest)

/-- Reads a string up to its closing mark. Units are collected in reverse. -/
def readString (mark : Char) : Nat → List Char → List UInt16 → Bool →
    Option (List UInt16 × Bool × List Char)
  | 0, _, _, _ => none
  | _ + 1, [], _, _ => none
  | fuel + 1, c :: rest, out, plain =>
    if c == mark then some (out.reverse, plain, rest)
    else if c == '\n' || c == '\r' then none
    else if c == '\\' then
      match escape? rest with
      | some (us, rest) => readString mark fuel rest (us.reverse ++ out) false
      | none => none
    else readString mark fuel rest ((Utf16.unitsOfChar c).reverse ++ out) plain

/-- Reads a piece of a template: as meant (if its escapes are well-formed) and as written, both
in reverse, whether the template ends, and what follows. -/
def readTemplate : Nat → List Char → Option (List UInt16) → List UInt16 →
    Option (Option (List UInt16) × List UInt16 × Bool × List Char)
  | 0, _, _, _ => none
  | _ + 1, [], _, _ => none
  | _ + 1, '\x60' :: rest, cooked, raw => some (cooked, raw, true, rest)
  | _ + 1, '$' :: '{' :: rest, cooked, raw => some (cooked, raw, false, rest)
  | fuel + 1, '\r' :: '\n' :: rest, cooked, raw =>
    readTemplate fuel rest (cooked.map (10 :: ·)) (10 :: raw)
  | fuel + 1, '\r' :: rest, cooked, raw =>
    readTemplate fuel rest (cooked.map (10 :: ·)) (10 :: raw)
  | fuel + 1, '\\' :: rest, cooked, raw =>
    match escape? rest with
    | some (us, rest') =>
      let written := (rest.take (rest.length - rest'.length)).flatMap Utf16.unitsOfChar
      readTemplate fuel rest' (cooked.map (us.reverse ++ ·)) (written.reverse ++ 92 :: raw)
    | none =>
      match rest with
      | c :: rest => readTemplate fuel rest none ((Utf16.unitsOfChar c).reverse ++ 92 :: raw)
      | [] => none
  | fuel + 1, c :: rest, cooked, raw =>
    let us := (Utf16.unitsOfChar c).reverse
    readTemplate fuel rest (cooked.map (us ++ ·)) (us ++ raw)

/-! ## Names and numbers -/

/-- Reads a name, with escapes or without; characters are collected in reverse. -/
def readName : Nat → List Char → List Char → Bool → Option (String × Bool × List Char)
  | 0, _, _, _ => none
  | fuel + 1, cs, out, escaped =>
    let fits (c : Char) := if out.isEmpty then isNameStart c else isNamePart c
    match cs with
    | '\\' :: 'u' :: rest =>
      match codePoint? rest with
      | some (n, rest) =>
        match Text.scalar? n with
        | some c => if fits c then readName fuel rest (c :: out) true else none
        | none => none
      | none => none
    | c :: rest =>
      if fits c then readName fuel rest (c :: out) escaped
      else if out.isEmpty then none
      else some (String.ofList out.reverse, escaped, cs)
    | [] => if out.isEmpty then none else some (String.ofList out.reverse, escaped, [])

/-- Digits of a base with single separators between them, without the separators; `none` if a
separator stands elsewhere. -/
def digits? (base : Nat) (cs : List Char) : Option (List Char × List Char) :=
  let isDigit (c : Char) := Numeral.digitValue c < base
  let taken := cs.takeWhile fun c => isDigit c || c == '_'
  let rest := cs.drop taken.length
  let groups := Text.splitAt '_' taken
  if taken.isEmpty then some ([], rest)
  else if groups.any (·.isEmpty) then none
  else some (groups.flatten, rest)

/-- A number must not run into a name or another digit. -/
def endsNumber (cs : List Char) : Bool :=
  !cs.head?.any fun c => isNameStart c || c.isDigit || c == '\\'

/-- Reads a number in a base after its mark. -/
def readBased (base : Nat) (cs : List Char) : Option (Token × List Char) :=
  match digits? base cs with
  | none => none
  | some (ds, rest) =>
    if ds.isEmpty then none
    else
      let n := Numeral.inBase base ds
      match rest with
      | 'n' :: rest => if endsNumber rest then some (.bigint n, rest) else none
      | rest => if endsNumber rest then some (.number (Numeral.nearest n), rest) else none

/-- Reads the fraction of a decimal number, after its point. -/
def readFraction (cs : List Char) : Option (List Char × List Char) :=
  if cs.head? == some '_' then none else digits? 10 cs

/-- Reads the exponent of a decimal number, if there is one. -/
def readExponent (cs : List Char) : Option (List Char × List Char) :=
  match cs with
  | c :: rest =>
    if c == 'e' || c == 'E' then
      let (sign, rest) : List Char × List Char := match rest with
        | '-' :: rest => (['-'], rest)
        | '+' :: rest => ([], rest)
        | rest => ([], rest)
      match digits? 10 rest with
      | some (ds, rest) => if ds.isEmpty then none else some ('e' :: sign ++ ds, rest)
      | none => none
    else some ([], cs)
  | [] => some ([], cs)

/-- Reads a decimal number. -/
def readDecimal (cs : List Char) : Option (Token × List Char) :=
  match digits? 10 cs with
  | none => none
  | some (whole, rest) =>
    let leadingZero := whole.length > 1 && whole.head? == some '0'
    if leadingZero then none
    else
      match rest with
      | 'n' :: rest =>
        if endsNumber rest && !whole.isEmpty then some (.bigint (Text.decimal whole), rest)
        else none
      | _ =>
        let fraction := match rest with
          | '.' :: rest => readFraction rest
          | rest => some ([], rest)
        match fraction with
        | none => none
        | some (fraction, rest) =>
          match readExponent rest with
          | none => none
          | some (exponent, rest) =>
            if endsNumber rest then
              (Numeral.unsigned? (whole ++ '.' :: fraction ++ exponent)).map (.number ·, rest)
            else none

def readNumber : List Char → Option (Token × List Char)
  | '0' :: 'x' :: rest | '0' :: 'X' :: rest => readBased 16 rest
  | '0' :: 'o' :: rest | '0' :: 'O' :: rest => readBased 8 rest
  | '0' :: 'b' :: rest | '0' :: 'B' :: rest => readBased 2 rest
  | cs => readDecimal cs

/-! ## Marks -/

/-- Marks made of punctuation, longer ones before their beginnings. -/
def marks : List String :=
  [">>>=", "...", "===", "!==", "**=", "<<=", ">>=", ">>>", "&&=", "||=", "??=", "=>", "==", "!=",
    "<=", ">=", "&&", "||", "??", "?.", "++", "--", "+=", "-=", "*=", "/=", "%=", "&=", "|=", "^=",
    "<<", ">>", "**", "\x7b", "\x7d", "(", ")", "[", "]", ";", ",", "<", ">", "+", "-", "*", "/",
    "%", "&", "|", "^", "!", "~", "?", ":", "=", "."]

/-- The longest mark at the start of a text. -/
def readMark (cs : List Char) : Option (String × List Char) :=
  marks.findSome? fun m =>
    match Text.after? m.toList cs with
    | some rest =>
      if m == "?." && rest.head?.any Char.isDigit then none else some (m, rest)
    | none => none

/-! ## Lengths -/

/-- Number of characters up to and with the closing mark of a string. -/
def stringSpan (mark : Char) : List Char → Nat
  | [] => 0
  | '\\' :: _ :: rest => stringSpan mark rest + 2
  | c :: rest => if c == mark then 1 else stringSpan mark rest + 1

/-- Number of characters up to and with the mark that ends a piece of a template. -/
def templateSpan : List Char → Nat
  | [] => 0
  | '\x60' :: _ => 1
  | '$' :: '{' :: _ => 2
  | '\\' :: _ :: rest => templateSpan rest + 2
  | _ :: rest => templateSpan rest + 1

/-- Number of characters of a name that was read up to a rest. -/
def nameSpan (x : String) (escaped : Bool) (cs rest : List Char) : Nat :=
  if escaped then cs.length - rest.length else x.length

/-- Characters among which a number ends; a sign counts after the letter of an exponent. -/
def numberRun : Bool → List Char → List Char
  | _, [] => []
  | signed, c :: rest =>
    if isNamePart c || c == '.' || c == '\\' || (signed && (c == '+' || c == '-')) then
      c :: numberRun (c == 'e' || c == 'E') rest
    else []

/-! ## Words -/

/-- The piece of a template as a word. -/
def templateToken (cooked : Option (List UInt16)) (raw : List UInt16) (last : Bool) : Token :=
  .template (cooked.map fun us => Utf16.ofUnits us.reverse) (Utf16.ofUnits raw.reverse) last

/-- Reads the word at the start of a text that begins with neither space nor comment, and counts
its characters. There are `left` characters. -/
def readToken (left : Nat) (cs : List Char) : Option (Token × Nat) :=
  let fuel := left + 1
  match cs with
  | [] => some (.finish, 0)
  | '#' :: rest => (readName fuel rest [] false).map fun (x, escaped, after) =>
      (.hidden x, nameSpan x escaped rest after + 1)
  | '\x60' :: rest =>
    (readTemplate fuel rest (some []) []).map fun (cooked, raw, last, _) =>
      (templateToken cooked raw last, templateSpan rest + 1)
  | c :: rest =>
    if c == '"' || c == '\'' then
      (readString c fuel rest [] true).map fun (us, plain, _) =>
        (.string (Utf16.ofUnits us) plain, stringSpan c rest + 1)
    else if c.isDigit || (c == '.' && rest.head?.any Char.isDigit) then
      let run := numberRun false cs
      (readNumber run).map fun (number, after) => (number, run.length - after.length)
    else if isNameStart c || c == '\\' then
      (readName fuel cs [] false).map fun (x, escaped, after) =>
        (.name x escaped, nameSpan x escaped cs after)
    else (readMark cs).map fun (m, _) => (.mark m, m.length)

/-- The end of a regular expression: a slash outside classes and escapes. -/
def regexEnd : List Char → Bool → List Char → Option (List Char × List Char)
  | [], _, _ => none
  | '\\' :: c :: rest, inClass, out =>
    if isLineEnd c then none else regexEnd rest inClass (c :: '\\' :: out)
  | c :: rest, inClass, out =>
    if isLineEnd c then none
    else if c == '/' && !inClass then some (out.reverse, rest)
    else regexEnd rest (if c == '[' then true else if c == ']' then false else inClass) (c :: out)

namespace Reader

/-- A character that begins no word at all. -/
def isStray (cs : List Char) : Bool :=
  cs.head?.any fun c => !(isNameStart c || c.isDigit || c == '"' || c == '\'' || c == '\x60' ||
    c == '#' || c == '\\' || c == '.')

/-- Reads the next word. -/
def next (r : Reader) : Except ScriptFault Lexeme :=
  match spaceSpan .plain r.rest false 0 with
  | none => .error .malformed
  | some (n, fresh) =>
    let start := r.skip n
    match readToken start.left start.rest with
    | some (token, n) => .ok { token, fresh, start, stop := start.skip n }
    | none => .error (if isStray start.rest then .unexpected start.place else .malformed)

/-- Reads a word that begins with a slash as a regular expression, which must be well-formed. -/
def regex (x : Lexeme) : Except ScriptFault Lexeme :=
  match regexEnd (x.start.rest.drop 1) false [] with
  | some (body, rest) =>
    let flags := rest.takeWhile isNamePart
    let (source, letters) := (String.ofList body, String.ofList flags)
    if (Regex.compile? source letters).isNone then .error .malformed
    else
      .ok { x with
        token := .regex source letters
        stop := x.start.skip (body.length + flags.length + 2) }
  | none => .error .malformed

/-- Reads on in a template after the brace that closes an expression. -/
def template (x : Lexeme) : Except ScriptFault Lexeme :=
  let cs := x.start.rest.drop 1
  match readTemplate (x.start.left + 1) cs (some []) [] with
  | some (cooked, raw, last, _) =>
    .ok { x with token := templateToken cooked raw last, stop := x.start.skip (templateSpan cs + 1) }
  | none => .error .malformed

end Reader
end Script
end Restyle
