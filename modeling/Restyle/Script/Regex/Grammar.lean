import Restyle.Pattern.Text
import Restyle.Script.Regex.Charset
import Restyle.Text.Property

/-!
# Restyle.Script.Regex.Grammar

Reading regular expressions as patterns over codes: code points where the flags ask for them,
and otherwise 16-bit units.

* `Regex.expression` — alternatives, nested up to a depth.
-/

namespace Restyle
namespace Script
namespace Regex

open Pattern

/-- What is known of an expression before it is read. -/
structure Context where
  flags : Flags
  /-- Number of the groups. -/
  groups : Nat
  /-- Names of groups, with their numbers. -/
  names : List (String × Nat)

/-- Reading keeps the number of the groups that were opened so far. -/
abbrev Reading := StateT Nat Option

/-! ## Escapes -/

/-- Hexadecimal digits of a number of them. -/
def hex? (count : Nat) (cs : List Char) : Option (Nat × List Char) :=
  let ds := cs.take count
  if ds.length == count && ds.all Text.isHexDigit then some (Text.hexadecimal ds, cs.drop count)
  else none

/-- The code point after `\u`. -/
def codeEscape? (unicode : Bool) (cs : List Char) : Option (Nat × List Char) :=
  match unicode, cs with
  | true, '{' :: rest =>
    let ds := rest.takeWhile Text.isHexDigit
    match rest.dropWhile Text.isHexDigit with
    | '}' :: rest =>
      if ds.isEmpty || Text.hexadecimal ds > 0x10FFFF then none else some (Text.hexadecimal ds, rest)
    | _ => none
  | _, cs =>
    match hex? 4 cs with
    | none => none
    | some (high, rest) =>
      match unicode && 0xD800 ≤ high && high < 0xDC00, rest with
      | true, '\\' :: 'u' :: rest' =>
        match hex? 4 rest' with
        | some (low, rest') =>
          if 0xDC00 ≤ low && low < 0xE000 then
            some (0x10000 + (high - 0xD800) * 0x400 + (low - 0xDC00), rest')
          else some (high, rest)
        | none => some (high, rest)
      | _, _ => some (high, rest)

def isOctal (c : Char) : Bool := '0' ≤ c && c ≤ '7'

/-- Up to three octal digits that stay within a byte. -/
def octal (cs : List Char) : Nat × List Char :=
  let ds := (cs.take 3).takeWhile isOctal
  let ds := match ds with
    | [a, b, c] => if a ≤ '3' then [a, b, c] else [a, b]
    | ds => ds
  (ds.foldl (fun n c => n * 8 + (c.toNat - 48)) 0, cs.drop ds.length)

/-- Characters that have a meaning of their own. -/
def isSpecial (c : Char) : Bool :=
  ['^', '$', '\\', '.', '*', '+', '?', '(', ')', '[', ']', '{', '}', '|', '/'].contains c

/-- A code after a backslash that stands for one. -/
def escape? (x : Context) (inClass : Bool) (cs : List Char) : Option (Nat × List Char) :=
  let unicode := x.flags.unicode
  match cs with
  | 'n' :: rest => some (10, rest)
  | 't' :: rest => some (9, rest)
  | 'r' :: rest => some (13, rest)
  | 'f' :: rest => some (12, rest)
  | 'v' :: rest => some (11, rest)
  | 'c' :: rest =>
    match rest with
    | c :: rest' =>
      if c.isAlpha || (inClass && !unicode && (c.isDigit || c == '_')) then
        some (c.toNat % 32, rest')
      else if unicode then none else some (92, 'c' :: rest)
    | [] => if unicode then none else some (92, ['c'])
  | 'x' :: rest =>
    match hex? 2 rest with
    | some r => some r
    | none => if unicode then none else some (120, rest)
  | 'u' :: rest =>
    match codeEscape? unicode rest with
    | some r => some r
    | none => if unicode then none else some (117, rest)
  | c :: rest =>
    if c.isDigit then
      if unicode then
        if c == '0' && !rest.head?.any Char.isDigit then some (0, rest) else none
      else if isOctal c then some (octal (c :: rest)) else some (c.toNat, rest)
    else if unicode then
      if isSpecial c || (inClass && c == '-') then some (c.toNat, rest) else none
    else if c == 'k' && !x.names.isEmpty then none
    else some (c.toNat, rest)
  | [] => none

/-- The set that `\p` denotes, with a name or with a name and a value. -/
def property? (cs : List Char) : Option (Charset × List Char) :=
  match cs with
  | '{' :: rest =>
    let word (c : Char) := c.isAlphanum || c == '_'
    let name := rest.takeWhile word
    match rest.drop name.length with
    | '}' :: rest => (Text.Property.named? (String.ofList name)).map (·, rest)
    | '=' :: rest =>
      let value := rest.takeWhile word
      match rest.drop value.length with
      | '}' :: rest =>
        (Text.Property.valued? (String.ofList name) (String.ofList value)).map (·, rest)
      | _ => none
    | _ => none
  | _ => none

/-- The set that an escape denotes, after the backslash. -/
def setEscape? (x : Context) (cs : List Char) : Option (Option (Charset × List Char)) :=
  match x.flags.unicode, cs with
  | true, 'p' :: rest => (property? rest).map some
  | true, 'P' :: rest => (property? rest).map fun (s, rest) => some ((!s ·), rest)
  | _, c :: rest => some ((letterSet? x.flags c).map (·, rest))
  | _, [] => some none

/-! ## Classes -/

/-- A member of a class: codes that may begin or end a range, or a set. A code point that is read
as two units begins with one of them and ends with the other. -/
inductive Member where
  | codes (first last : Nat)
  | set (s : Charset)

def Member.charset : Member → Charset
  | codes first last => fun n => n == first || n == last
  | set s => s

/-- The codes of a character. -/
def codesOf (x : Context) (c : Char) : Member :=
  match x.flags.unicode, Utf16.unitsOfChar c with
  | false, [high, low] => .codes high.toNat low.toNat
  | _, _ => .codes c.toNat c.toNat

/-- One member of a class. -/
def member? (x : Context) : List Char → Option (Member × List Char)
  | '\\' :: 'b' :: rest => some (.codes 8 8, rest)
  | '\\' :: rest =>
    match setEscape? x rest with
    | none => none
    | some (some (s, rest)) => some (.set s, rest)
    | some none => (escape? x true rest).map fun (n, rest) => (.codes n n, rest)
  | c :: rest => some (codesOf x c, rest)
  | [] => none

/-- The set of a range, if its ends are in order. -/
def range? (x : Context) : Member → Member → Option Charset
  | .codes a b, .codes c d =>
    if b ≤ c then some (union (interval b c) fun n => n == a || n == d) else none
  | a, b =>
    if x.flags.unicode then none
    else some (union a.charset (union b.charset (· == '-'.toNat)))

/-- Members of a class up to its closing bracket. -/
def members? (x : Context) : Nat → List Char → Charset → Option (Charset × List Char)
  | 0, _, _ => none
  | _ + 1, ']' :: rest, out => some (out, rest)
  | fuel + 1, cs, out =>
    match member? x cs with
    | none => none
    | some (a, '-' :: ']' :: rest) => some (union out (union a.charset (· == '-'.toNat)), rest)
    | some (a, '-' :: rest) =>
      match member? x rest with
      | none => none
      | some (b, rest) =>
        match range? x a b with
        | some s => members? x fuel rest (union out s)
        | none => none
    | some (a, rest) => members? x fuel rest (union out a.charset)

/-- Does a double mark follow that is kept for later use? -/
def isReservedPair : List Char → Bool
  | a :: b :: _ =>
    a == b && ['&', '!', '#', '$', '%', '*', '+', ',', '.', ':', ';', '<', '=', '>', '?', '@', '^',
      '\x60', '~'].contains a
  | _ => false

mutual

/-- One operand of a class that is put together from sets. -/
def operand? (x : Context) : Nat → List Char → Option (Member × List Char)
  | 0, _ => none
  | fuel + 1, '[' :: '^' :: rest =>
    (sets? x fuel rest).map fun (s, rest) => (.set (!holds x.flags s ·), rest)
  | fuel + 1, '[' :: rest => (sets? x fuel rest).map fun (s, rest) => (.set s, rest)
  | _ + 1, '\\' :: rest =>
    match rest with
    | c :: after =>
      if ['&', '-', '!', '#', '%', ',', ':', ';', '<', '=', '>', '@', '\x60', '~'].contains c then
        some (.codes c.toNat c.toNat, after)
      else member? x ('\\' :: rest)
    | [] => none
  | _ + 1, c :: rest =>
    if ['(', ')', '[', ']', '{', '}', '/', '-', '|'].contains c || isReservedPair (c :: rest) then none
    else some (codesOf x c, rest)
  | _ + 1, [] => none

/-- Sets put together, up to the closing bracket. -/
def sets? (x : Context) : Nat → List Char → Option (Charset × List Char)
  | 0, _ => none
  | _ + 1, ']' :: rest => some (fun _ => false, rest)
  | fuel + 1, cs =>
    match operand? x fuel cs with
    | none => none
    | some (a, '&' :: '&' :: rest) => both x fuel rest a.charset
    | some (a, '-' :: '-' :: rest) => without x fuel rest a.charset
    | some (a, rest) => either x fuel a rest (fun _ => false)

/-- Codes that are in all operands. -/
def both (x : Context) : Nat → List Char → Charset → Option (Charset × List Char)
  | 0, _, _ => none
  | fuel + 1, cs, out =>
    match operand? x fuel cs with
    | none => none
    | some (a, rest) =>
      let out : Charset := fun n => out n && a.charset n
      match rest with
      | ']' :: rest => some (out, rest)
      | '&' :: '&' :: rest => both x fuel rest out
      | _ => none

/-- Codes that are in the first operand alone. -/
def without (x : Context) : Nat → List Char → Charset → Option (Charset × List Char)
  | 0, _, _ => none
  | fuel + 1, cs, out =>
    match operand? x fuel cs with
    | none => none
    | some (a, rest) =>
      let out : Charset := fun n => out n && !a.charset n
      match rest with
      | ']' :: rest => some (out, rest)
      | '-' :: '-' :: rest => without x fuel rest out
      | _ => none

/-- Codes that are in one of the operands, of which the first is read. -/
def either (x : Context) : Nat → Member → List Char → Charset → Option (Charset × List Char)
  | 0, _, _, _ => none
  | fuel + 1, a, '-' :: rest, out =>
    match operand? x fuel rest with
    | none => none
    | some (b, rest) =>
      match range? x a b with
      | none => none
      | some s =>
        match rest with
        | ']' :: rest => some (union out s, rest)
        | rest =>
          match operand? x fuel rest with
          | some (a, rest) => either x fuel a rest (union out s)
          | none => none
  | _ + 1, a, ']' :: rest, out => some (union out a.charset, rest)
  | fuel + 1, a, rest, out =>
    match operand? x fuel rest with
    | some (b, rest) => either x fuel b rest (union out a.charset)
    | none => none

end

/-- The set of a class after its opening bracket. -/
def charset? (x : Context) (cs : List Char) : Option (Charset × List Char) :=
  if x.flags.sets then sets? x (2 * cs.length + 2) cs
  else members? x (cs.length + 1) cs fun _ => false

/-! ## Parts -/

/-- One code of a set. -/
def inSet (f : Flags) (negated : Bool) (s : Charset) : Pattern Nat :=
  .symbol fun n => holds f s n != negated

def likeness (f : Flags) (a b : Nat) : Bool := a == b || canon f a == canon f b

/-- A code as it stands. -/
def literal (f : Flags) (n : Nat) : Pattern Nat := .symbol (likeness f n)

def character (x : Context) (c : Char) : Pattern Nat :=
  match codesOf x c with
  | .codes a b => if a == b then literal x.flags a else .seq (literal x.flags a) (literal x.flags b)
  | .set s => inSet x.flags false s

/-- How often the thing before may come: least, most (none for any number), and whether as
often as possible. -/
def quantifier? (cs : List Char) : Option (Option (Nat × Option Nat × Bool) × List Char) :=
  let lazy' (least : Nat) (most : Option Nat) (rest : List Char) :=
    match rest with
    | '?' :: rest => some (some (least, most, false), rest)
    | rest => some (some (least, most, true), rest)
  match cs with
  | '*' :: rest => lazy' 0 none rest
  | '+' :: rest => lazy' 1 none rest
  | '?' :: rest => lazy' 0 (some 1) rest
  | '{' :: rest =>
    let a := rest.takeWhile Char.isDigit
    match a.isEmpty, rest.dropWhile Char.isDigit with
    | false, '}' :: rest => lazy' (Text.decimal a) (some (Text.decimal a)) rest
    | false, ',' :: '}' :: rest => lazy' (Text.decimal a) none rest
    | false, ',' :: rest =>
      let b := rest.takeWhile Char.isDigit
      match b.isEmpty, rest.dropWhile Char.isDigit with
      | false, '}' :: rest =>
        if Text.decimal a ≤ Text.decimal b then lazy' (Text.decimal a) (some (Text.decimal b)) rest
        else none
      | _, _ => some (none, cs)
    | _, _ => some (none, cs)
  | cs => some (none, cs)

/-- A thing a number of times; each time its groups start anew. -/
def repeated (groups : List Nat) (p : Pattern Nat) (least : Nat) (most : Option Nat)
    (greedy : Bool) : Pattern Nat :=
  let p := if groups.isEmpty then p else .forget groups p
  match least, most with
  | 0, none => .many greedy p
  | n, none => .seq (.times true n n p) (.many greedy p)
  | n, some m => .times greedy n m p

def isNameChar (c : Char) : Bool := c.isAlphanum || c == '_' || c == '$' || c.toNat ≥ 0x80

/-- A name in angle brackets, after the opening one. -/
def groupName? (cs : List Char) : Option (String × List Char) :=
  let x := cs.takeWhile isNameChar
  match x, cs.drop x.length with
  | c :: _, '>' :: rest => if c.isDigit then none else some (String.ofList x, rest)
  | _, _ => none

/-- Readers of the parts that contain expressions: an expression with alternatives. -/
abbrev Inner := List Char → Reading (Pattern Nat × List Char)

/-- Reads what stands in parentheses, after the opening one; whether it may be repeated. -/
def parenthesized (x : Context) (inner : Inner) (cs : List Char) :
    Reading (Pattern Nat × Bool × List Char) := do
  let close (make : Pattern Nat → Pattern Nat) (repeats : Bool) (cs : List Char) :
      Reading (Pattern Nat × Bool × List Char) := do
    let (p, rest) ← inner cs
    match rest with
    | ')' :: rest => return (make p, repeats, rest)
    | _ => failure
  let group (cs : List Char) : Reading (Pattern Nat × Bool × List Char) := do
    let i := (← get) + 1
    set i
    close (.group i) true cs
  match cs with
  | '?' :: ':' :: rest => close id true rest
  | '?' :: '=' :: rest => close (.look false true) (!x.flags.unicode) rest
  | '?' :: '!' :: rest => close (.look false false) (!x.flags.unicode) rest
  | '?' :: '<' :: '=' :: rest => close (.look true true) false rest
  | '?' :: '<' :: '!' :: rest => close (.look true false) false rest
  | '?' :: '<' :: rest =>
    match groupName? rest with
    | some (_, rest) => group rest
    | none => failure
  | '?' :: _ => failure
  | rest => group rest

/-- The group that an escape refers to, by its name or its number. -/
def reference? (x : Context) (cs : List Char) : Option (Nat × List Char) :=
  match cs with
  | 'k' :: '<' :: rest =>
    if x.names.isEmpty && !x.flags.unicode then none
    else
      match groupName? rest with
      | some (name, rest) => (x.names.lookup name).map (·, rest)
      | none => none
  | c :: rest =>
    if c.isDigit && c != '0' then
      let ds := (c :: rest).takeWhile Char.isDigit
      let n := Text.decimal ds
      if n ≤ x.groups then some (n, (c :: rest).drop ds.length) else none
    else none
  | [] => none

/-- Reads one thing; whether it may be repeated. -/
def atom (x : Context) (inner : Inner) (cs : List Char) :
    Reading (Pattern Nat × Bool × List Char) := do
  let f := x.flags
  match cs with
  | '(' :: rest => parenthesized x inner rest
  | '.' :: rest => return (.symbol fun n => f.dotAll || !isLineEnd n, true, rest)
  | '^' :: rest =>
    return (.between fun before _ => before.all fun n => f.multiline && isLineEnd n, false, rest)
  | '$' :: rest =>
    return (.between fun _ after => after.all fun n => f.multiline && isLineEnd n, false, rest)
  | '[' :: '^' :: rest =>
    match charset? x rest with
    | some (s, rest) => return (inSet f true s, true, rest)
    | none => failure
  | '[' :: rest =>
    match charset? x rest with
    | some (s, rest) => return (inSet f false s, true, rest)
    | none => failure
  | '\\' :: 'b' :: rest =>
    return (.between fun before after => before.any (isWord f) != after.any (isWord f), false, rest)
  | '\\' :: 'B' :: rest =>
    return (.between fun before after => before.any (isWord f) == after.any (isWord f), false, rest)
  | '\\' :: rest =>
    match reference? x rest with
    | some (i, rest) => return (.again (likeness f) i, true, rest)
    | none =>
      match setEscape? x rest with
      | none => failure
      | some (some (s, rest)) => return (inSet f false s, true, rest)
      | some none =>
        match escape? x false rest with
        | some (n, rest) => return (literal f n, true, rest)
        | none => failure
  | c :: rest =>
    if ['*', '+', '?', ')'].contains c then failure
    else if f.unicode && ['{', '}', ']'].contains c then failure
    else
      match c, quantifier? cs with
      | '{', some (some _, _) | '{', none => failure
      | _, _ => return (character x c, true, rest)
  | [] => failure

/-- Reads things one after the other, up to a bar, a closing parenthesis or the end. -/
def terms (x : Context) (inner : Inner) : Nat → List Char → Pattern Nat →
    Reading (Pattern Nat × List Char)
  | 0, _, _ => failure
  | _ + 1, [], out => pure (out, [])
  | _ + 1, '|' :: rest, out => pure (out, '|' :: rest)
  | _ + 1, ')' :: rest, out => pure (out, ')' :: rest)
  | fuel + 1, cs, out => do
    let first ← get
    let (p, repeats, rest) ← atom x inner cs
    let groups := (List.range ((← get) - first)).map (· + first + 1)
    match quantifier? rest with
    | none => failure
    | some (none, rest) => terms x inner fuel rest (.seq out p)
    | some (some (least, most, greedy), rest) =>
      if !repeats then failure
      else terms x inner fuel rest (.seq out (repeated groups p least most greedy))

/-- Reads alternatives. -/
def alternatives (x : Context) (inner : Inner) : Nat → List Char →
    Reading (Pattern Nat × List Char)
  | 0, _ => failure
  | fuel + 1, cs => do
    let (p, rest) ← terms x inner (cs.length + 1) cs .empty
    match rest with
    | '|' :: rest => do
      let (q, rest) ← alternatives x inner fuel rest
      return (.alt p q, rest)
    | rest => return (p, rest)

/-- Reads an expression nested up to a depth. -/
def expression (x : Context) : Nat → Inner
  | 0, _ => failure
  | n + 1, cs => alternatives x (expression x n) (cs.length + 1) cs

/-- Number of the groups of an expression and their names, latest first; none if a name is
malformed or comes twice. -/
def groupsOf? : List Char → (inClass : Bool) → Nat → List (String × Nat) →
    Option (Nat × List (String × Nat))
  | [], _, n, names => some (n, names)
  | '\\' :: _ :: rest, inClass, n, names => groupsOf? rest inClass n names
  | '[' :: rest, _, n, names => groupsOf? rest true n names
  | ']' :: rest, _, n, names => groupsOf? rest false n names
  | '(' :: rest, false, n, names =>
    match rest with
    | '?' :: '<' :: after =>
      if after.head? == some '=' || after.head? == some '!' then groupsOf? rest false n names
      else
        match groupName? after with
        | some (x, _) =>
          if (names.lookup x).isSome then none else groupsOf? rest false (n + 1) ((x, n + 1) :: names)
        | none => none
    | '?' :: _ => groupsOf? rest false n names
    | _ => groupsOf? rest false (n + 1) names
  | _ :: rest, inClass, n, names => groupsOf? rest inClass n names

end Regex
end Script
end Restyle
