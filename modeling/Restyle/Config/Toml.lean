import Restyle.Number.Binary

/-!
# Restyle.Config.Toml

Configuration text: tables of keys with values, in sections. `parse?` gives nothing for text
that is not well-formed, that defines a key twice, or that extends a closed table.
-/

namespace Restyle
namespace Toml

/-- How a table came to be, which decides what may still be added to it. -/
inductive Origin where
  /-- Named only as part of a longer header. -/
  | implied
  /-- Opened by a header of its own. -/
  | header
  /-- Opened by a dotted key. -/
  | dotted
  /-- Written in braces. -/
  | closed
  deriving Repr, BEq, DecidableEq

inductive Value where
  | text (s : String)
  | integer (n : Int)
  | real (x : Float)
  | truth (b : Bool)
  | moment
  | list (items : List Value)
  | table (origin : Origin) (members : List (String × Value))
  /-- Tables opened by headers in double brackets, last first. -/
  | tables (members : List (List (String × Value)))
  deriving Inhabited

abbrev Table := List (String × Value)

abbrev Reader (α : Type) := List Char → Option (α × List Char)

def isBlank (c : Char) : Bool := c == ' ' || c == '\t'

def skipBlanks (cs : List Char) : List Char := cs.dropWhile isBlank

/-- Characters allowed in comments and literal strings. -/
def isPlain (c : Char) : Bool := c == '\t' || (c.toNat ≥ 32 && c.toNat != 127)

/-- Passes over a line break. -/
def newline? : List Char → Option (List Char)
  | '\n' :: rest => some rest
  | '\r' :: '\n' :: rest => some rest
  | _ => none

/-- Passes over blanks and a comment. -/
def skipComment (cs : List Char) : Option (List Char) :=
  match skipBlanks cs with
  | '#' :: rest =>
    let after := rest.dropWhile isPlain
    if after.isEmpty || (newline? after).isSome then some after else none
  | rest => some rest

/-- Passes over the end of a line. -/
def endLine? (cs : List Char) : Option (List Char) :=
  match skipComment cs with
  | some [] => some []
  | some rest => newline? rest
  | none => none

/-- Passes over blanks, comments and line breaks. -/
def skipLines : Nat → List Char → Option (List Char)
  | 0, cs => some cs
  | fuel + 1, cs =>
    match skipComment cs with
    | none => none
    | some rest =>
      match newline? rest with
      | some rest => skipLines fuel rest
      | none => some rest

/-- Reads `n` hexadecimal digits as a character. -/
def codePoint? (n : Nat) (cs : List Char) : Option (Char × List Char) :=
  let ds := cs.take n
  if ds.length == n && ds.all Text.isHexDigit then
    (Text.scalar? (Text.hexadecimal ds)).map (·, cs.drop n)
  else none

def escape? : Reader Char
  | 'b' :: rest => some ('\x08', rest)
  | 't' :: rest => some ('\t', rest)
  | 'n' :: rest => some ('\n', rest)
  | 'f' :: rest => some ('\x0c', rest)
  | 'r' :: rest => some ('\r', rest)
  | '"' :: rest => some ('"', rest)
  | '\\' :: rest => some ('\\', rest)
  | 'u' :: rest => codePoint? 4 rest
  | 'U' :: rest => codePoint? 8 rest
  | _ => none

/-- Reads the rest of a one-line string. -/
def shortString? (mark : Char) : Nat → Reader (List Char)
  | 0, _ => none
  | _, [] => none
  | fuel + 1, c :: cs =>
    if c == mark then some ([], cs)
    else if c == '\\' && mark == '"' then
      match escape? cs with
      | some (d, rest) => (shortString? mark fuel rest).map fun (s, rest) => (d :: s, rest)
      | none => none
    else if isPlain c then (shortString? mark fuel cs).map fun (s, rest) => (c :: s, rest)
    else none

/-- Passes over blanks and line breaks. -/
def skipSpace : Nat → List Char → List Char
  | 0, cs => cs
  | fuel + 1, cs =>
    match newline? (skipBlanks cs) with
    | some rest => skipSpace fuel rest
    | none => skipBlanks cs

/-- Passes over white space after a backslash that ends a line. -/
def joinLines? (cs : List Char) : Option (List Char) :=
  (newline? (skipBlanks cs)).map fun rest => skipSpace (rest.length + 1) rest

/-- Reads the rest of a string in triple marks. -/
def longString? (mark : Char) : Nat → Reader (List Char)
  | 0, _ => none
  | _, [] => none
  | fuel + 1, c :: cs =>
    if c == mark then
      let run := (c :: cs).takeWhile (· == mark)
      if run.length ≥ 3 then
        if run.length ≤ 5 then some (run.drop 3, (c :: cs).drop run.length)
        else none
      else (longString? mark fuel cs).map fun (s, rest) => (c :: s, rest)
    else if c == '\\' && mark == '"' then
      match joinLines? cs with
      | some rest => longString? mark fuel rest
      | none =>
        match escape? cs with
        | some (d, rest) => (longString? mark fuel rest).map fun (s, rest) => (d :: s, rest)
        | none => none
    else
      match newline? (c :: cs) with
      | some rest => (longString? mark fuel rest).map fun (s, rest) => ('\n' :: s, rest)
      | none =>
        if isPlain c then (longString? mark fuel cs).map fun (s, rest) => (c :: s, rest)
        else none

/-- Reads a string; those over several lines only where allowed. -/
def string? (long : Bool) (cs : List Char) : Option (String × List Char) :=
  let start (mark : Char) (rest : List Char) :=
    if long && (Text.after? [mark, mark] rest).isSome then
      let inside := rest.drop 2
      longString? mark (inside.length + 1) ((newline? inside).getD inside)
    else shortString? mark (rest.length + 1) rest
  match cs with
  | c :: rest =>
    if c == '"' || c == '\'' then (start c rest).map fun (s, rest) => (String.ofList s, rest)
    else none
  | [] => none

def isBareKeyChar (c : Char) : Bool := c.isAlphanum || c == '_' || c == '-'

def simpleKey? (cs : List Char) : Option (String × List Char) :=
  match cs with
  | c :: _ =>
    if c == '"' || c == '\'' then string? false cs
    else if isBareKeyChar c then
      some (String.ofList (cs.takeWhile isBareKeyChar), cs.dropWhile isBareKeyChar)
    else none
  | [] => none

/-- Reads the parts of a key, with dots between them. -/
def keyParts? : Nat → Reader (List String)
  | 0, _ => none
  | fuel + 1, cs =>
    match simpleKey? (skipBlanks cs) with
    | none => none
    | some (part, rest) =>
      match skipBlanks rest with
      | '.' :: rest => (keyParts? fuel rest).map fun (parts, rest) => (part :: parts, rest)
      | rest => some ([part], rest)

/-- How deep keys and values may go, and no deeper. -/
def maxDepth : Nat := 79

/-- Reads a key that is not too long. -/
def key? (cs : List Char) : Option (List String × List Char) :=
  (keyParts? (cs.length + 1) cs).filter fun (parts, _) => parts.length ≤ maxDepth

/-- Digits with single underscores between them. -/
def grouped? (digit : Char → Bool) (cs : List Char) : Option (List Char) :=
  let parts := Text.splitAt '_' cs
  if parts.all fun p => !p.isEmpty && p.all digit then some parts.flatten else none

/-- Least and greatest integers. -/
def integerInRange? (n : Int) : Option Int :=
  if -9223372036854775808 ≤ n && n < 9223372036854775808 then some n else none

/-- Digits without a leading zero that means nothing. -/
def plainDigits? (cs : List Char) : Option (List Char) :=
  match grouped? Char.isDigit cs with
  | some ds => if ds.length > 1 && ds.head? == some '0' then none else some ds
  | none => none

def digitsIn (base : Nat) (ds : List Char) : Nat :=
  ds.foldl (fun n c => base * n + Text.hexValue c) 0

/-- An integer without sign, in another base if it says so. -/
def based? : List Char → Option Int
  | '0' :: 'x' :: ds => (grouped? Text.isHexDigit ds).map fun ds => (digitsIn 16 ds : Nat)
  | '0' :: 'o' :: ds =>
    (grouped? (fun c => '0' ≤ c && c ≤ '7') ds).map fun ds => (digitsIn 8 ds : Nat)
  | '0' :: 'b' :: ds =>
    (grouped? (fun c => c == '0' || c == '1') ds).map fun ds => (digitsIn 2 ds : Nat)
  | _ => none

/-- A number with a fraction or an exponent, without sign. -/
def real? (cs : List Char) : Option Nat := do
  let mantissa := cs.takeWhile fun c => c != 'e' && c != 'E'
  let exponent := cs.drop (mantissa.length + 1)
  let hasExponent := mantissa.length < cs.length
  let whole := mantissa.takeWhile (· != '.')
  let fraction := mantissa.drop (whole.length + 1)
  let hasFraction := whole.length < mantissa.length
  if !hasExponent && !hasFraction then none
  let w ← plainDigits? whole
  let f ← if hasFraction then grouped? Char.isDigit fraction else some []
  let e ←
    if hasExponent then
      let (sign, ds) := match exponent with
        | '-' :: ds => (['-'], ds)
        | '+' :: ds => ([], ds)
        | ds => ([], ds)
      (grouped? Char.isDigit ds).map fun ds => 'e' :: sign ++ ds
    else some []
  Number.Format.double.ofUnsigned? (w ++ '.' :: f ++ e)

/-- Days of a month; a leap year's second month has one more. -/
def daysOf (year month : Nat) : Nat :=
  if month == 2 then
    if year % 4 == 0 && (year % 100 != 0 || year % 400 == 0) then 29 else 28
  else if month == 4 || month == 6 || month == 9 || month == 11 then 30
  else 31

/-- Reads a number of so many digits between two bounds. -/
def digits? (n least greatest : Nat) (cs : List Char) : Option (Nat × List Char) :=
  let ds := cs.take n
  let value := Text.decimal ds
  if ds.length == n && ds.all Char.isDigit && least ≤ value && value ≤ greatest then
    some (value, cs.drop n)
  else none

/-- Passes over one character. -/
def mark? (m : Char) : List Char → Option (List Char)
  | c :: rest => if c == m then some rest else none
  | [] => none

/-- Passes over a day of the calendar. -/
def date? (cs : List Char) : Option (List Char) := do
  let (year, rest) ← digits? 4 0 9999 cs
  let (month, rest) ← digits? 2 1 12 (← mark? '-' rest)
  let (_, rest) ← digits? 2 1 (daysOf year month) (← mark? '-' rest)
  return rest

/-- Passes over an hour and a minute. -/
def hourMinute? (cs : List Char) : Option (List Char) := do
  let (_, rest) ← digits? 2 0 23 cs
  let (_, rest) ← digits? 2 0 59 (← mark? ':' rest)
  return rest

/-- Passes over a time of day, in which a leap second may occur. -/
def time? (cs : List Char) : Option (List Char) := do
  let (_, rest) ← digits? 2 0 60 (← mark? ':' (← hourMinute? cs))
  match rest with
  | '.' :: ds => if ds.head?.any Char.isDigit then some (ds.dropWhile Char.isDigit) else none
  | _ => some rest

/-- Is the text nothing, or the distance of a time from the universal one? -/
def isZone : List Char → Bool
  | [] => true
  | ['Z'] | ['z'] => true
  | c :: rest => (c == '+' || c == '-') && hourMinute? rest == some []

/-- Is the text a date, a time, or both? -/
def isMoment (cs : List Char) : Bool :=
  match date? cs with
  | some [] => true
  | some (c :: rest) => (c == 'T' || c == 't' || c == ' ') && (time? rest).any isZone
  | none => time? cs == some []

def isScalarChar (c : Char) : Bool :=
  c.isAlphanum || c == '+' || c == '-' || c == '.' || c == '_' || c == ':'

/--
Reads a value that is one word: a truth value, a number, a date or a time. A number too great to
be written in digits is refused; one too small for that is the negative infinity.
-/
def scalar? (cs : List Char) : Option Value :=
  if cs == "true".toList then some (.truth true)
  else if cs == "false".toList then some (.truth false)
  else if isMoment cs then some .moment
  else
    match based? cs with
    | some n => (integerInRange? n).map .integer
    | none =>
      let (negative, ds) := match cs with
        | '-' :: ds => (true, ds)
        | '+' :: ds => (false, ds)
        | _ => (false, cs)
      let signed (bits : Nat) : Value :=
        let x := Float.ofBits bits.toUInt64
        .real (if negative then -x else x)
      if ds == "inf".toList then some (signed Number.Format.double.infinity)
      else if ds == "nan".toList then some (signed Number.Format.double.nan)
      else
        match plainDigits? ds with
        | some ds =>
          let n : Int := Text.decimal ds
          (integerInRange? (if negative then -n else n)).map .integer
        | none =>
          match real? ds with
          | some bits =>
            if bits == Number.Format.double.infinity && !negative then none
            else some (signed bits)
          | none => none

/--
Adds a value under a key to a table; `none` if something stands in the way. A key of several
parts passes through tables that no header has opened yet, and adds only to those that such a
key opened: `free` tells whether the last part may go into this table.
-/
def insertKey? : List String → Value → (free : Bool) → Table → Option Table
  | [], _, _, _ => none
  | [k], v, free, t => if !free || (t.lookup k).isSome then none else some (t ++ [(k, v)])
  | k :: ks, v, _, t =>
    let put (w : Value) : Table := t.map fun (k', v') => if k' == k then (k', w) else (k', v')
    match t.lookup k with
    | none => (insertKey? ks v true []).map fun inner => t ++ [(k, .table .dotted inner)]
    | some (.table .dotted inner) =>
      (insertKey? ks v true inner).map fun inner => put (.table .dotted inner)
    | some (.table .implied inner) =>
      (insertKey? ks v false inner).map fun inner => put (.table .implied inner)
    | some (.tables (last :: earlier)) =>
      (insertKey? ks v false last).map fun last => put (.tables (last :: earlier))
    | some _ => none

/-- Changes the table that a header's keys lead to, opening those on the way. -/
def atPath? (f : Table → Option Table) : List String → Table → Option Table
  | [], t => f t
  | k :: ks, t =>
    let put (v : Value) : Table :=
      if (t.lookup k).isSome then t.map fun (k', v') => if k' == k then (k', v) else (k', v')
      else t ++ [(k, v)]
    match t.lookup k with
    | none => (atPath? f ks []).map fun inner => put (.table .implied inner)
    | some (.table origin inner) =>
      if origin == .closed then none
      else (atPath? f ks inner).map fun inner => put (.table origin inner)
    | some (.tables (last :: earlier)) =>
      (atPath? f ks last).map fun last => put (.tables (last :: earlier))
    | some _ => none

/-- Opens the table of a header. -/
def openTable? (k : String) (t : Table) : Option Table :=
  match t.lookup k with
  | none => some (t ++ [(k, .table .header [])])
  | some (.table .implied inner) =>
    some (t.map fun (k', v') => if k' == k then (k', .table .header inner) else (k', v'))
  | some _ => none

/-- Opens one more table of a header in double brackets. -/
def openNext? (k : String) (t : Table) : Option Table :=
  match t.lookup k with
  | none => some (t ++ [(k, .tables [[]])])
  | some (.tables found) =>
    some (t.map fun (k', v') => if k' == k then (k', .tables ([] :: found)) else (k', v'))
  | some _ => none

mutual

/-- Reads a value in which lists and tables may be nested so deep. -/
def value? : Nat → Nat → Reader Value
  | 0, _, _ => none
  | fuel + 1, depth, cs =>
    match cs, depth with
    | '[' :: _, 0 | '{' :: _, 0 => none
    | '[' :: rest, depth + 1 =>
      (items? fuel depth [] rest).map fun (items, rest) => (.list items, rest)
    | '{' :: rest, depth + 1 =>
      match skipBlanks rest with
      | '}' :: rest => some (.table .closed [], rest)
      | rest => (members? fuel depth [] rest).map fun (t, rest) => (.table .closed t, rest)
    | c :: _, _ =>
      if c == '"' || c == '\'' then (string? true cs).map fun (s, rest) => (.text s, rest)
      else
        let word := cs.takeWhile isScalarChar
        let rest := cs.dropWhile isScalarChar
        let dated := word ++ ' ' :: (rest.drop 1).takeWhile isScalarChar
        if rest.head? == some ' ' && isMoment dated && word.length == 10 then
          some (.moment, cs.drop dated.length)
        else (scalar? word).map (·, rest)
    | [], _ => none

/-- Reads the rest of a list. -/
def items? : Nat → Nat → List Value → Reader (List Value)
  | 0, _, _, _ => none
  | fuel + 1, depth, found, cs =>
    match skipLines (cs.length + 1) cs with
    | none => none
    | some (']' :: rest) => some (found.reverse, rest)
    | some rest =>
      match value? fuel depth rest with
      | none => none
      | some (v, rest) =>
        match skipLines (rest.length + 1) rest with
        | some (',' :: rest) => items? fuel depth (v :: found) rest
        | some (']' :: rest) => some ((v :: found).reverse, rest)
        | _ => none

/-- Reads the rest of a table in braces. -/
def members? : Nat → Nat → Table → Reader Table
  | 0, _, _, _ => none
  | fuel + 1, depth, t, cs =>
    match pair? fuel depth cs with
    | none => none
    | some ((ks, v), rest) =>
      match insertKey? ks v true t, skipBlanks rest with
      | some t, ',' :: rest => members? fuel depth t rest
      | some t, '}' :: rest => some (t, rest)
      | _, _ => none

/-- Reads a key with its value. -/
def pair? : Nat → Nat → Reader (List String × Value)
  | 0, _, _ => none
  | fuel + 1, depth, cs =>
    match key? cs with
    | some (ks, '=' :: rest) =>
      (value? fuel depth (skipBlanks rest)).map fun (v, rest) => ((ks, v), rest)
    | _ => none

end

/-- Reads a header: its keys, and whether it opens one of several tables. -/
def header? (cs : List Char) : Option ((List String × Bool) × List Char) :=
  let (several, inside) := match cs with
    | '[' :: '[' :: rest => (true, rest)
    | rest => (false, rest.drop 1)
  match key? inside, several with
  | some (ks, ']' :: ']' :: rest), true => some ((ks, true), rest)
  | some (ks, ']' :: rest), false => some ((ks, false), rest)
  | _, _ => none

/-- Reads lines into a table; `opened` are the keys of the section that is open. -/
def lines? : Nat → List String → Table → List Char → Option Table
  | 0, _, _, _ => none
  | fuel + 1, opened, t, cs =>
    match skipLines (cs.length + 1) cs with
    | none => none
    | some [] => some t
    | some ('[' :: rest) =>
      match header? ('[' :: rest) with
      | none => none
      | some ((ks, several), rest) =>
        match ks.getLast?, endLine? rest with
        | some k, some rest =>
          match atPath? (if several then openNext? k else openTable? k) ks.dropLast t with
          | some t => lines? fuel ks t rest
          | none => none
        | _, _ => none
    | some rest =>
      match pair? (rest.length + 1) maxDepth rest with
      | none => none
      | some ((ks, v), rest) =>
        match endLine? rest, atPath? (insertKey? ks v true) opened t with
        | some rest, some t => lines? fuel opened t rest
        | _, _ => none

/-- Reads configuration text. -/
def parse? (text : String) : Option Table :=
  let cs := text.toList
  let cs := if cs.head? == some '\ufeff' then cs.tail else cs
  lines? (cs.length + 2) [] [] cs

end Toml
end Restyle
