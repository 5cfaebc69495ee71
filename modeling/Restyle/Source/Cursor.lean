import Restyle.Source.Dialect
import Restyle.Source.Enum
import Restyle.Source.Fault
import Restyle.Source.Types

/-!
# Restyle.Source.Cursor

A cursor over component source: its position, the last token that counts, and what has been
written. The tests here decide from the last token and the text ahead what a character means;
the steps copy or skip one construct without looking inside markup.
-/

namespace Restyle
namespace Source

/-- The last token that counts: white space and comments do not. -/
inductive Previous where
  | start
  | mark (c : Char)
  | word (w : List Char)
  | value
  deriving Repr, BEq, DecidableEq

/-- A source text and its dialect. -/
structure Listing where
  chars : Chars
  dialect : Dialect

structure Cursor where
  pos : Nat := 0
  previous : Previous := .start
  /-- What has been written, last character first. -/
  written : List Char := []
  deriving Repr

/-- Words after which an expression begins. -/
def expressionKeywords : List String :=
  ["return", "case", "default", "do", "else", "in", "of", "typeof", "void", "yield", "await",
   "delete", "new", "throw", "instanceof"]

/-- Words that are no values. -/
def keywords : List String :=
  ["break", "case", "catch", "class", "const", "continue", "default", "delete", "do", "else",
   "extends", "finally", "for", "function", "if", "in", "instanceof", "let", "new", "of",
   "return", "switch", "throw", "try", "typeof", "var", "void", "while", "with", "yield", "await"]

/-- Words whose parentheses before a block hold no parameters. -/
def blockKeywords : List String := ["if", "for", "while", "switch", "catch", "with"]

/-- Words before members and declarations that are dropped with the types. -/
def modifiers : List String := ["public", "private", "protected", "readonly", "declare"]

namespace Previous

/-- Does an expression begin after this token? -/
def startsExpression : Previous → Bool
  | start => true
  | value => false
  | mark c => c != '}'
  | word w => expressionKeywords.contains (String.ofList w)

/-- Is this token the end of a value? -/
def endsValue : Previous → Bool
  | value => true
  | word w => !keywords.contains (String.ofList w)
  | _ => false

end Previous

namespace Listing

open Scan

def charAt? (s : Listing) (i : Nat) : Option Char := s.chars[i]?

/-- The nearest character before `i` outside a class. -/
def before? (p : Char → Bool) (cs : Chars) : Nat → Option Char
  | 0 => none
  | i + 1 =>
    match cs[i]? with
    | some c => if p c then before? p cs i else some c
    | none => none

/-- Does a statement begin with the word at `i`? -/
def startsStatement (s : Listing) (previous : Previous) (i : Nat) : Bool :=
  match previous with
  | .start | .mark ';' | .mark '{' | .mark '}' => true
  | _ =>
    match before? (fun c => c == ' ' || c == '\t') s.chars i with
    | some c => c == '\n' || c == '\r'
    | none => true

/-- Does a name stand after white space at `i`? -/
def nameFollows (s : Listing) (i : Nat) : Bool :=
  let next := skipSpaces s.chars i
  next > i && (s.charAt? next).any isNameStart

/-- The word after white space at `i`. -/
def wordAfter (s : Listing) (i : Nat) : List Char :=
  let next := skipSpaces s.chars i
  if next > i then slice s.chars next (nameEnd s.chars next) else []

/-- The character after white space and a name at `i`, with its position. -/
def afterName (s : Listing) (i : Nat) : Nat :=
  skipSpaces s.chars (nameEnd s.chars (skipSpaces s.chars i))

/-- Does the name of a declaration with a body stand at `i`? -/
def declaresName (s : Listing) (i : Nat) : Bool :=
  s.nameFollows i &&
    (s.charAt? (s.afterName i)).any fun c => c == '{' || c == '<' || c == 'e'

/-- Does the name of a type alias stand at `i`? -/
def declaresAlias (s : Listing) (i : Nat) : Bool :=
  s.nameFollows i &&
    match s.charAt? (s.afterName i) with
    | some '<' => true
    | some '=' => s.charAt? (s.afterName i + 1) != some '='
    | _ => false

/-- End of the interface whose keyword ends at `i`. -/
def interfaceEnd (s : Listing) (i : Nat) : Nat :=
  match (find? '{' s.chars i).bind (close? s.chars) with
  | some close => close + 1
  | none => s.chars.size

/-- End of the type alias whose keyword ends at `i`. -/
def aliasEnd (s : Listing) (i : Nat) : Nat :=
  let j := s.afterName i
  let j :=
    if s.charAt? j == some '<' then
      skipSpaces s.chars (match angle? s.chars j with
        | some close => close + 1
        | none => j)
    else j
  let stop := typeEnd s.chars (if s.charAt? j == some '=' then j + 1 else j)
  let semicolon := skipSpaces s.chars stop
  if s.charAt? semicolon == some ';' then semicolon + 1 else stop

/-- Is there no line break between the last `}` before `i` and `i`? -/
def onLineOfBrace (s : Listing) (i : Nat) : Bool :=
  before? (fun c => c != '}' && c != '\n') s.chars i != some '\n'

/-- Does a cast stand after a braced value, at a word from `start` to `stop`? -/
def castsBraced (s : Listing) (previous : Previous) (start stop : Nat) : Bool :=
  previous == .mark '}' && s.onLineOfBrace start &&
    (s.charAt? (skipSpaces s.chars stop)).any fun c =>
      isNameStart c || c == '{' || c == '[' || c == '(' || c == '\'' || c == '"'

/-- End of the type parameters of an arrow function at `i`. Where markup is allowed they need a
comma or a bound, to be told apart from an element. -/
def arrowParametersEnd? (s : Listing) (i : Nat) : Option Nat := do
  let close ← angle? s.chars i
  let inner := Text.trimBy Text.isBlank (slice s.chars (i + 1) close)
  if !(inner.head?.any isNamePart) then none
  let rest := (inner.dropWhile isNamePart).dropWhile Text.isBlank
  let bounded := match Text.after? "extends".toList rest with
    | some (c :: _) => Text.isBlank c
    | _ => false
  let comma := rest.head? == some ','
  let suits :=
    if s.dialect.allowsMarkup then comma || bounded
    else rest.isEmpty || comma || rest.head? == some '=' || bounded
  if !suits then none
  let paren := skipSpaces s.chars (close + 1)
  if s.charAt? paren != some '(' then none
  let after := skipSpaces s.chars ((← close? s.chars paren) + 1)
  if arrowAt s.chars after ||
      (s.charAt? after == some ':' &&
        arrowAt s.chars (skipSpaces s.chars (typeEnd s.chars (after + 1)))) then
    some (close + 1)
  else none

/-- Characters that type arguments of a call are made of. -/
def isTypeArgumentChar (c : Char) : Bool :=
  c.isAlphanum || Text.isSpace c || "_$,.[]<>|&'\"\x7b\x7d:?=".toList.contains c

/-- Does a doubled character stand in a text? -/
def hasDoubled (d : Char) : List Char → Bool
  | [] => false
  | c :: cs => (c == d && cs.head? == some d) || hasDoubled d cs

/-- End of the type arguments of a call at `i`. -/
def callArgumentsEnd? (s : Listing) (i : Nat) : Option Nat := do
  let close ← angle? s.chars i
  let inner := slice s.chars (i + 1) close
  let after := s.charAt? (skipSpaces s.chars (close + 1))
  if !hasDoubled '&' inner && !hasDoubled '|' inner && inner.all isTypeArgumentChar &&
      (after == some '(' || after == some '\x60') then
    some (close + 1)
  else none

/-- If the parentheses that close at `close` hold parameters: the end of the list with its
return type. -/
def parametersEnd? (s : Listing) (previous : Previous) (close : Nat) : Option Nat :=
  let after := skipSpaces s.chars (close + 1)
  if arrowAt s.chars after then some (close + 1)
  else
    match s.charAt? after with
    | some ':' =>
      let stop := typeEnd s.chars (after + 1)
      let next := skipSpaces s.chars stop
      if stop > after + 1 && (arrowAt s.chars next || s.charAt? next == some '{') then some stop
      else none
    | some '{' =>
      match previous with
      | .word w => if blockKeywords.contains (String.ofList w) then none else some (close + 1)
      | _ => none
    | _ => none

/-- End of a regular expression at `i`, from inside it; with its flags. -/
def regexEnd? (cs : Chars) (inClass : Bool) (i : Nat) : Option Nat :=
  if h : i < cs.size then
    if cs[i] == '\n' then none
    else if cs[i] == '\\' then regexEnd? cs inClass (i + 2)
    else if cs[i] == '[' then regexEnd? cs true (i + 1)
    else if cs[i] == ']' then regexEnd? cs false (i + 1)
    else if cs[i] == '/' && !inClass then some (nameEnd cs (i + 1))
    else regexEnd? cs inClass (i + 1)
  else none
termination_by cs.size - i

/-- Does a `!` at the cursor only assert that a value is there? -/
def assertsValue (s : Listing) (c : Cursor) : Bool :=
  s.dialect.hasTypes && c.previous.endsValue &&
    (s.charAt? (c.pos + 1)).any fun d => d == '.' || d == ')' || d == ']' || d == ',' || d == ';'

/-- Position after white space and comments inside a tag; each step passes one of them. -/
def skipTagSpaces (cs : Chars) : Nat → Nat → Except FaultAt Nat
  | 0, i => .error ⟨.exhausted, i⟩
  | fuel + 1, i =>
    let i := skipSpaces cs i
    if startsAt cs i ['/', '/'] then skipTagSpaces cs fuel (lineEnd cs i)
    else if startsAt cs i ['/', '*'] then
      match commentEnd? cs (i + 2) with
      | some j => skipTagSpaces cs fuel j
      | none => .error ⟨.openComment, i⟩
    else .ok i

/-- Characters of the names of elements and attributes. -/
def isTagNamePart (c : Char) : Bool := isNamePart c || c == '-' || c == '.' || c == ':'

/-- The name of an element or attribute at `i`, and the position after it. -/
def tagName (s : Listing) (i : Nat) : Except FaultAt (List Char × Nat) :=
  if (s.charAt? i).any isNameStart then
    let stop := skip isTagNamePart s.chars i
    .ok (slice s.chars i stop, stop)
  else .error ⟨.noName, i⟩

end Listing

namespace Cursor

open Scan

def fail (c : Cursor) (fault : Fault) : Except FaultAt α := .error ⟨fault, c.pos⟩

/-- Writes a text without moving. -/
def write (c : Cursor) (text : List Char) : Cursor :=
  { c with written := text.reverse ++ c.written }

/-- Writes the source up to a position and moves there. -/
def copyTo (c : Cursor) (s : Listing) (stop : Nat) : Cursor :=
  { c.write (slice s.chars c.pos stop) with pos := stop }

/-- Writes one character, moves past it and counts it as a token. -/
def copyMark (c : Cursor) (d : Char) (previous : Previous) : Cursor :=
  { pos := c.pos + 1, previous, written := d :: c.written }

/-- Writes one character that is no token, and moves past it. -/
def copyBlank (c : Cursor) (d : Char) : Cursor :=
  { c with pos := c.pos + 1, written := d :: c.written }

/-- Copies a comment to the end of its line. -/
def lineComment (c : Cursor) (s : Listing) : Cursor := c.copyTo s (lineEnd s.chars c.pos)

def blockComment (c : Cursor) (s : Listing) : Except FaultAt Cursor :=
  match commentEnd? s.chars (c.pos + 2) with
  | some stop => .ok (c.copyTo s stop)
  | none => c.fail .openComment

def string (c : Cursor) (s : Listing) : Except FaultAt Cursor :=
  match stringEnd? s.chars c.pos with
  | some stop => .ok { c.copyTo s stop with previous := .value }
  | none => c.fail .openString

def isNumberPart (c : Char) : Bool := c.isAlphanum || c == '_' || c == '.'

def number (c : Cursor) (s : Listing) : Cursor :=
  { c.copyTo s (skip isNumberPart s.chars (c.pos + 1)) with previous := .value }

/-- A slash: a regular expression where an expression begins, else a division. -/
def slash (c : Cursor) (s : Listing) : Except FaultAt Cursor :=
  if c.previous.startsExpression then
    match Listing.regexEnd? s.chars false (c.pos + 1) with
    | some stop => .ok { c.copyTo s stop with previous := .value }
    | none => c.fail .openRegex
  else .ok (c.copyMark '/' (.mark '/'))

/-- Copies the names that a declaration binds and skips their type annotation. -/
def binding (c : Cursor) (s : Listing) : Cursor :=
  let start := skipSpaces s.chars c.pos
  let stop? := match s.charAt? start with
    | some d =>
      if d == '{' || d == '[' then (close? s.chars start).map (· + 1)
      else if isNameStart d then some (nameEnd s.chars start)
      else none
    | none => none
  match stop? with
  | none => c
  | some stop =>
    let colon := skipSpaces s.chars stop
    if s.charAt? colon == some ':' then
      { c.copyTo s stop with pos := typeEnd s.chars (colon + 1), previous := .value }
    else c

/-- An enum declaration from the cursor on, whose keyword ends at `i`. Line breaks are kept. -/
def enum (c : Cursor) (s : Listing) (i : Nat) : Except FaultAt Cursor :=
  let nameStart := skipSpaces s.chars i
  let nameStop := nameEnd s.chars nameStart
  let name := slice s.chars nameStart nameStop
  let opening := skipSpaces s.chars nameStop
  if name.isEmpty || s.charAt? opening != some '{' then c.fail .enumHead
  else
    match close? s.chars opening with
    | none => .error ⟨.enumBody, opening⟩
    | some close =>
      match Enum.declaration name (s.chars.extract (opening + 1) close) with
      | .error key => .error ⟨.enumMember key, opening⟩
      | .ok text =>
        let breaks := (slice s.chars c.pos (close + 1)).count '\n'
        .ok { c.write (text ++ List.replicate breaks '\n') with
          pos := close + 1, previous := .mark ';' }

/-- A word: a construct that goes with the types, or a token that is copied. -/
def word (c : Cursor) (s : Listing) : Except FaultAt Cursor :=
  let start := c.pos
  let stop := nameEnd s.chars start
  let w := slice s.chars start stop
  let text := String.ofList w
  let copied : Cursor := { c.copyTo s stop with previous := .word w }
  let statement := s.startsStatement c.previous start
  if !s.dialect.hasTypes then .ok copied
  else if text == "interface" && statement && s.declaresName stop then
    .ok { c with pos := s.interfaceEnd stop, previous := .mark ';' }
  else if text == "type" && statement && s.declaresAlias stop then
    .ok { c with pos := s.aliasEnd stop, previous := .mark ';' }
  else if text == "enum" && statement && s.declaresName stop then c.enum s stop
  else if text == "const" && statement && s.wordAfter stop == "enum".toList then
    c.enum s (skipSpaces s.chars stop + 4)
  else if (text == "as" || text == "satisfies") &&
      (c.previous.endsValue || s.castsBraced c.previous start stop) then
    .ok { c with pos := typeEnd s.chars stop, previous := .value }
  else if modifiers.contains text && s.nameFollows stop && statement then
    .ok { c with pos := skipSpaces s.chars stop }
  else if text == "const" || text == "let" || text == "var" then .ok (copied.binding s)
  else .ok copied

end Cursor
end Source
end Restyle
