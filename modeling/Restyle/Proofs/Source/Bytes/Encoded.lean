import Restyle.Proofs.Source.Bytes.Offset
import Restyle.Source.Lowering

/-!
# Restyle.Proofs.Source.Bytes.Encoded

Lowering on the bytes of the source. Positions are byte offsets: what looks ahead looks at bytes and
moves by bytes, and every piece of text is cut out between two offsets. A cut halts lowering where
an offset lies outside the text or within a character (`Halt.cut`), and so does a cursor that is
set there; a loop that takes too many steps faults as `exhausted`.

The searches are those of `Scan` and `Listing`, over the bytes. What cuts text is written out here,
beside its counterpart for characters of the same name.
-/

namespace Restyle
namespace Source

open Scan Listing Utf8

/-- Why lowering halts: a fault of the source, at a byte offset, or a cut that is not possible. -/
inductive Halt where
  | fault (found : FaultAt)
  | cut (start stop : Nat)
  deriving Repr, BEq, DecidableEq

/-- A source text that is read byte by byte, with a bound on the steps of each loop over it. -/
structure Encoded extends Listing where
  steps : Nat

/-- The text between two byte offsets. -/
def cut (cs : Chars) (start stop : Nat) : Except Halt (List Char) :=
  match cut? cs start stop with
  | some text => .ok text
  | none => .error (.cut start stop)

/-- The text from a byte offset on. -/
def cutFrom (text : List Char) (start : Nat) : Except Halt (List Char) :=
  cut text.toArray start (Text.byteLength text)

def halt {α : Type} (fault : Fault) (position : Nat) : Except Halt α :=
  .error (.fault ⟨fault, position⟩)

namespace Encoded

/-- The bytes as a listing. -/
def bytes (s : Encoded) : Listing := ⟨encode s.chars, s.dialect⟩

/-- Halts unless a byte offset is a place between characters. -/
def check (s : Encoded) (i : Nat) : Except Halt Unit := (cut s.chars i i).map fun _ => ()

/-! ## Types -/

def operand (s : Encoded) (i : Nat) (c : Char) : Except Halt (Option TypeStep) :=
  if isNameStart c then do
    let j := nameEnd s.bytes.chars i
    let word ← cut s.chars i j
    if typeOperators.contains (String.ofList word) then
      .ok (some { next := j, wantsOperand := true })
    else .ok (some { next := j, stop := some j, wantsOperand := false })
  else .ok (operand? s.bytes.chars i c)

def suffix (s : Encoded) (i : Nat) (c : Char) : Except Halt (Option TypeStep) :=
  if isNameStart c then do
    let j := nameEnd s.bytes.chars i
    let word ← cut s.chars i j
    if word == ['i', 's'] then .ok (some { next := j, wantsOperand := true }) else .ok none
  else .ok (suffix? s.bytes.chars i c)

def typeEndFrom (s : Encoded) : Nat → Nat → Nat → Bool → Except Halt Nat
  | 0, i, _, _ => halt .exhausted i
  | fuel + 1, i, stop, wantsOperand =>
    let i := skipSpaces s.bytes.chars i
    match s.bytes.charAt? i with
    | none => .ok stop
    | some c => do
      match ← (if wantsOperand then s.operand i c else s.suffix i c) with
      | none => .ok stop
      | some step => s.typeEndFrom fuel step.next (step.stop.getD stop) step.wantsOperand

def typeEnd (s : Encoded) (i : Nat) : Except Halt Nat := s.typeEndFrom s.steps i i true

/-- Position after the type parameters at `j`, if any stand there. -/
def afterTypeParameters (s : Listing) (j : Nat) : Nat :=
  if s.charAt? j == some '<' then
    skipSpaces s.chars (match angle? s.chars j with
      | some close => close + 1
      | none => j)
  else j

def aliasEnd (s : Encoded) (i : Nat) : Except Halt Nat := do
  let j := afterTypeParameters s.bytes (s.bytes.afterName i)
  let stop ← s.typeEnd (if s.bytes.charAt? j == some '=' then j + 1 else j)
  let semicolon := skipSpaces s.bytes.chars stop
  .ok (if s.bytes.charAt? semicolon == some ';' then semicolon + 1 else stop)

/-- Do type parameters suit an arrow function, by what stands in angle brackets behind the first
name? -/
def suitsArrow (s : Listing) (rest : List Char) : Bool :=
  let bounded := match Text.after? "extends".toList rest with
    | some (c :: _) => Text.isBlank c
    | _ => false
  let comma := rest.head? == some ','
  if s.dialect.allowsMarkup then comma || bounded
  else rest.isEmpty || comma || rest.head? == some '=' || bounded

def arrowParametersEnd (s : Encoded) (i : Nat) : Except Halt (Option Nat) :=
  match angle? s.bytes.chars i with
  | none => .ok none
  | some close => do
    let inner := Text.trimBy Text.isBlank (← cut s.chars (i + 1) close)
    let nameStop := nameEnd (encode inner.toArray) 0
    let rest := (← cutFrom inner nameStop).dropWhile Text.isBlank
    let paren := skipSpaces s.bytes.chars (close + 1)
    if nameStop == 0 || !suitsArrow s.toListing rest || s.bytes.charAt? paren != some '(' then
      .ok none
    else
      match close? s.bytes.chars paren with
      | none => .ok none
      | some last =>
        let after := skipSpaces s.bytes.chars (last + 1)
        if arrowAt s.bytes.chars after then .ok (some (close + 1))
        else if s.bytes.charAt? after == some ':' then do
          let stop ← s.typeEnd (after + 1)
          .ok (if arrowAt s.bytes.chars (skipSpaces s.bytes.chars stop) then some (close + 1)
            else none)
        else .ok none

def callArgumentsEnd (s : Encoded) (i : Nat) : Except Halt (Option Nat) :=
  match angle? s.bytes.chars i with
  | none => .ok none
  | some close => do
    let inner ← cut s.chars (i + 1) close
    let after := s.bytes.charAt? (skipSpaces s.bytes.chars (close + 1))
    .ok (if !hasDoubled '&' inner && !hasDoubled '|' inner && inner.all isTypeArgumentChar &&
        (after == some '(' || after == some '\x60') then
      some (close + 1)
    else none)

def parametersEnd (s : Encoded) (previous : Previous) (close : Nat) : Except Halt (Option Nat) :=
  let after := skipSpaces s.bytes.chars (close + 1)
  if arrowAt s.bytes.chars after then .ok (some (close + 1))
  else if s.bytes.charAt? after == some ':' then do
    let stop ← s.typeEnd (after + 1)
    let next := skipSpaces s.bytes.chars stop
    .ok (if stop > after + 1 &&
        (arrowAt s.bytes.chars next || s.bytes.charAt? next == some '{') then some stop
      else none)
  else if s.bytes.charAt? after == some '{' then
    match previous with
    | .word w => .ok (if blockKeywords.contains (String.ofList w) then none else some (close + 1))
    | _ => .ok none
  else .ok none

/-! ## Enums -/

def withoutComments (cs : Chars) : Nat → Nat → Nat → Except Halt (List Char)
  | 0, _, i => halt .exhausted i
  | fuel + 1, copied, i =>
    match (encode cs)[i]? with
    | none => cut cs (min copied (encode cs).size) (encode cs).size
    | some c =>
      if isQuoteMark c then withoutComments cs fuel copied (stringStop (encode cs) i)
      else if startsAt (encode cs) i ['/', '/'] then do
        let text ← cut cs copied i
        let stop := lineEnd (encode cs) i
        .ok (text ++ (← withoutComments cs fuel stop stop))
      else if startsAt (encode cs) i ['/', '*'] then do
        let text ← cut cs copied i
        let stop := (commentEnd? (encode cs) (i + 2)).getD (encode cs).size
        .ok (text ++ ' ' :: (← withoutComments cs fuel stop stop))
      else withoutComments cs fuel copied (i + 1)

def splitFrom (cs : Chars) (mark : Char) :
    Nat → Nat → Nat → Nat → Except Halt (List (List Char))
  | 0, _, _, i => halt .exhausted i
  | fuel + 1, depth, start, i =>
    match (encode cs)[i]? with
    | none => do
      let piece ← cut cs (min start (encode cs).size) (encode cs).size
      .ok [piece]
    | some c =>
      if isQuoteMark c then splitFrom cs mark fuel depth start (stringStop (encode cs) i)
      else if isOpening c then splitFrom cs mark fuel (depth + 1) start (i + 1)
      else if isClosing c then splitFrom cs mark fuel (depth - 1) start (i + 1)
      else if c == mark && depth == 0 then do
        let piece ← cut cs start i
        .ok (piece :: (← splitFrom cs mark fuel depth (i + 1) (i + 1)))
      else splitFrom cs mark fuel depth start (i + 1)

def split (text : List Char) (mark : Char) : Except Halt (List (List Char)) :=
  splitFrom text.toArray mark (Text.byteLength text + 1) 0 0 0

/-- The key of a member, and its initializer. -/
def keyAndInitializer (text : List Char) : Except Halt (List Char × Option (List Char)) := do
  match ← split text '=' with
  | key :: _ :: _ =>
    let initializer ← cutFrom text (Text.byteLength key + 1)
    .ok (Text.trimBy Text.isBlank key, some (Text.trimBy Text.isBlank initializer))
  | pieces => .ok (Text.trimBy Text.isBlank pieces.flatten, none)

def members (name : List Char) :
    Enum.Count → List (List Char) → Except Halt (Except (List Char) (List Char))
  | _, [] => .ok (.ok [])
  | count, text :: rest =>
    let text := Text.trimBy Text.isBlank text
    if text.isEmpty then members name count rest
    else do
      let (raw, initializer) ← keyAndInitializer text
      match Enum.key? raw with
      | none => .ok (.error raw)
      | some key =>
        let (statement, count) := Enum.member name key initializer count
        .ok ((← members name count rest).map (statement ++ ·))

def declaration (name body : List Char) : Except Halt (Except (List Char) (List Char)) := do
  let body ← withoutComments body.toArray (Text.byteLength body + 1) 0 0
  let statements ← members name {} (← split body ',')
  .ok (statements.map fun statements =>
    "var ".toList ++ name ++ " = (function (".toList ++ name ++ [')', ' ', '{'] ++ statements ++
      " return ".toList ++ name ++ [';', ' ', '}', ')', '('] ++ name ++
      [' ', '|', '|', ' ', '{', '}', ')', ';'])

/-! ## One construct -/

variable (s : Encoded) (c : Cursor)

def wordAfter (i : Nat) : Except Halt (List Char) :=
  let next := skipSpaces s.bytes.chars i
  let stop := nameEnd s.bytes.chars next
  if next > i && stop > next then cut s.chars next stop else .ok []

def tagName (i : Nat) : Except Halt (List Char × Nat) :=
  if (s.bytes.charAt? i).any isNameStart then do
    let stop := skip isTagNamePart s.bytes.chars i
    .ok (← cut s.chars i stop, stop)
  else halt .noName i

def skipTagSpaces (i : Nat) : Except Halt Nat :=
  (Listing.skipTagSpaces s.bytes.chars s.steps i).mapError .fault

def copyTo (stop : Nat) : Except Halt Cursor := do
  let text ← cut s.chars c.pos stop
  .ok { c.write text with pos := stop }

/-- Writes the character at the cursor and moves past its bytes. -/
def copyChar : Except Halt Cursor := do
  match ← cut s.chars c.pos (encode s.chars).size with
  | [] => .ok c
  | d :: _ => .ok { c with pos := c.pos + d.utf8Size, written := d :: c.written }

def blockComment : Except Halt Cursor :=
  match commentEnd? s.bytes.chars (c.pos + 2) with
  | some stop => s.copyTo c stop
  | none => halt .openComment c.pos

def string : Except Halt Cursor :=
  match stringEnd? s.bytes.chars c.pos with
  | some stop => do .ok { ← s.copyTo c stop with previous := .value }
  | none => halt .openString c.pos

def number : Except Halt Cursor := do
  let copied ← s.copyTo c (skip Cursor.isNumberPart s.bytes.chars (c.pos + 1))
  .ok { copied with previous := .value }

def slash : Except Halt Cursor :=
  if c.previous.startsExpression then
    match regexEnd? s.bytes.chars false (c.pos + 1) with
    | some stop => do .ok { ← s.copyTo c stop with previous := .value }
    | none => halt .openRegex c.pos
  else .ok (c.copyMark '/' (.mark '/'))

/-- End of the names that a declaration binds at `i`. -/
def bindingEnd? (s : Listing) (i : Nat) : Option Nat :=
  match s.charAt? i with
  | some d =>
    if d == '{' || d == '[' then (close? s.chars i).map (· + 1)
    else if isNameStart d then some (nameEnd s.chars i)
    else none
  | none => none

def binding : Except Halt Cursor :=
  match bindingEnd? s.bytes (skipSpaces s.bytes.chars c.pos) with
  | none => .ok c
  | some stop =>
    let colon := skipSpaces s.bytes.chars stop
    if s.bytes.charAt? colon == some ':' then do
      let copied ← s.copyTo c stop
      .ok { copied with pos := ← s.typeEnd (colon + 1), previous := .value }
    else .ok c

def enum (i : Nat) : Except Halt Cursor := do
  let nameStart := skipSpaces s.bytes.chars i
  let nameStop := nameEnd s.bytes.chars nameStart
  let name ← cut s.chars nameStart nameStop
  let opening := skipSpaces s.bytes.chars nameStop
  if name.isEmpty || s.bytes.charAt? opening != some '{' then halt .enumHead c.pos
  else
    match close? s.bytes.chars opening with
    | none => halt .enumBody opening
    | some close =>
      let body ← cut s.chars (opening + 1) close
      match ← declaration name body with
      | .error key => halt (.enumMember key) opening
      | .ok text =>
        let breaks := (← cut s.chars c.pos (close + 1)).count '\n'
        .ok { c.write (text ++ List.replicate breaks '\n') with
          pos := close + 1, previous := .mark ';' }

def word : Except Halt Cursor := do
  let start := c.pos
  let stop := nameEnd s.bytes.chars start
  let w ← cut s.chars start stop
  let text := String.ofList w
  let copied : Cursor := { c.write w with pos := stop, previous := .word w }
  let statement := s.bytes.startsStatement c.previous start
  if !s.dialect.hasTypes then .ok copied
  else if text == "interface" && statement && s.bytes.declaresName stop then
    .ok { c with pos := s.bytes.interfaceEnd stop, previous := .mark ';' }
  else if text == "type" && statement && s.bytes.declaresAlias stop then
    .ok { c with pos := ← s.aliasEnd stop, previous := .mark ';' }
  else if text == "enum" && statement && s.bytes.declaresName stop then s.enum c stop
  else if text == "const" && statement && (← s.wordAfter stop) == "enum".toList then
    s.enum c (skipSpaces s.bytes.chars stop + 4)
  else if (text == "as" || text == "satisfies") &&
      (c.previous.endsValue || s.bytes.castsBraced c.previous start stop) then
    .ok { c with pos := ← s.typeEnd stop, previous := .value }
  else if modifiers.contains text && s.bytes.nameFollows stop && statement then
    .ok { c with pos := skipSpaces s.bytes.chars stop }
  else if text == "const" || text == "let" || text == "var" then s.binding copied
  else .ok copied

/-! ## Blank expressions -/

def isBlankFrom : Nat → List Char → Except Halt Bool
  | 0, _ => halt .exhausted 0
  | fuel + 1, text =>
    match text.dropWhile Text.isBlank with
    | '/' :: '*' :: rest =>
      match commentEnd? (encode rest.toArray) 0 with
      | some stop => do isBlankFrom fuel (← cutFrom rest stop)
      | none => .ok false
    | '/' :: '/' :: rest =>
      match find? '\n' (encode rest.toArray) 0 with
      | some stop => do isBlankFrom fuel (← cutFrom rest stop)
      | none => .ok true
    | rest => .ok rest.isEmpty

def isBlank (text : List Char) : Except Halt Bool := isBlankFrom (text.length + 1) text

/-! ## Lowering -/

mutual

/-- Copies code from the cursor on. -/
def code (s : Encoded) : Nat → Stop → Nat → Cursor → Except Halt Cursor
  | 0, _, _, c => halt .exhausted c.pos
  | fuel + 1, stop, depth, c => do
    s.check c.pos
    if stop.reached c.pos then .ok c
    else
      match s.bytes.charAt? c.pos with
      | none => if stop == .brace then halt .endOfInput c.pos else .ok c
      | some d =>
        if d == '}' && depth == 0 && stop == .brace then .ok { c with pos := c.pos + 1 }
        else s.code fuel stop (braceDepth depth d) (← s.construct fuel d c)

/-- Copies or lowers the construct at the cursor, where the byte `d` stands. -/
def construct (s : Encoded) : Nat → Char → Cursor → Except Halt Cursor
  | 0, _, c => halt .exhausted c.pos
  | fuel + 1, d, c =>
    let next := s.bytes.charAt? (c.pos + 1)
    if d == '/' && next == some '/' then s.copyTo c (lineEnd s.bytes.chars c.pos)
    else if d == '/' && next == some '*' then s.blockComment c
    else if d == '\'' || d == '"' then s.string c
    else if d == '\x60' then do
      .ok { ← s.template fuel c.pos (c.copyBlank d) with previous := .value }
    else if d == '{' || d == '}' then .ok (c.copyMark d (.mark d))
    else if d == '<' then s.angle fuel c
    else if d == '/' then s.slash c
    else if d == '(' then s.openParen fuel c
    else if d == '!' && s.bytes.assertsValue c then .ok { c with pos := c.pos + 1 }
    else if d == '.' && next.any Char.isDigit then s.number c
    else if isNameStart d then s.word c
    else if d.isDigit then s.number c
    else if Text.isSpace d then .ok (c.copyBlank d)
    else if d.toNat ≥ 128 then do .ok { ← s.copyChar c with previous := .value }
    else if d == ')' || d == ']' then .ok (c.copyMark d .value)
    else .ok (c.copyMark d (.mark d))

def angle (s : Encoded) : Nat → Cursor → Except Halt Cursor
  | 0, c => halt .exhausted c.pos
  | fuel + 1, c => do
    let starts := c.previous.startsExpression
    match ← (if s.dialect.hasTypes && starts then s.arrowParametersEnd c.pos else .ok none) with
    | some stop => .ok { c with pos := stop }
    | none =>
      if s.dialect.allowsMarkup && starts &&
          (s.bytes.charAt? (c.pos + 1)).any (fun d => d == '>' || isNameStart d) then do
        let (text, pos) ← s.element fuel c.pos
        .ok { c.write text with pos, previous := .value }
      else do
        match ← (if s.dialect.hasTypes && c.previous.endsValue then s.callArgumentsEnd c.pos
          else .ok none) with
        | some stop => .ok { c with pos := stop }
        | none => .ok (c.copyMark '<' (.mark '<'))

def openParen (s : Encoded) : Nat → Cursor → Except Halt Cursor
  | 0, c => halt .exhausted c.pos
  | fuel + 1, c =>
    match if s.dialect.hasTypes then close? s.bytes.chars c.pos else none with
    | none => .ok (c.copyMark '(' (.mark '('))
    | some close => do
      match ← s.parametersEnd c.previous close with
      | none => .ok (c.copyMark '(' (.mark '('))
      | some stop =>
        let c ← s.parameters fuel close (c.copyBlank '(')
        .ok { c.write [')'] with pos := stop, previous := .value }

/-- Parameters from the cursor on. The end of each part is a place between characters, also where
the cursor goes back to it. -/
def parameters (s : Encoded) : Nat → Nat → Cursor → Except Halt Cursor
  | 0, _, c => halt .exhausted c.pos
  | fuel + 1, close, c => do
    let p := parameterFrom s.bytes.chars c.pos close s.steps c.pos 0 0 { stop := close }
    s.check p.nameStop
    s.check (p.equals.getD p.stop)
    s.check p.stop
    let c ← s.code fuel (.limit p.nameStop) 0 { c with previous := .start }
    let c := c.passType p
    let c ← (if p.equals.isSome then s.code fuel (.limit p.stop) 0 c else .ok c)
    if p.stop ≥ close then .ok c
    else s.parameters fuel close { c.write [','] with pos := p.stop + 1 }

/-- A template from after its opening mark, at `start`, to after its closing mark. -/
def template (s : Encoded) : Nat → Nat → Cursor → Except Halt Cursor
  | 0, _, c => halt .exhausted c.pos
  | fuel + 1, start, c => do
    s.check c.pos
    match s.bytes.charAt? c.pos with
    | none => halt .openTemplate start
    | some d =>
      if d == '\\' then s.template fuel start (← s.copyChar (c.copyBlank d))
      else if d == '\x60' then .ok (c.copyBlank d)
      else if d == '$' && s.bytes.charAt? (c.pos + 1) == some '{' then
        let inner ← s.code fuel .brace 0 { (c.copyBlank d).copyBlank '{' with previous := .start }
        s.template fuel start { inner.write ['}'] with previous := c.previous }
      else s.template fuel start (← s.copyChar c)

/-- The code in braces from after the opening one, and the offset after the closing one. -/
def capture (s : Encoded) : Nat → Nat → Except Halt (List Char × Nat)
  | 0, pos => halt .exhausted pos
  | fuel + 1, pos => do
    let c ← s.code fuel .brace 0 { pos }
    .ok (c.written.reverse, c.pos)

/-- The call for the element at an offset, and the offset after it. -/
def element (s : Encoded) : Nat → Nat → Except Halt (List Char × Nat)
  | 0, pos => halt .exhausted pos
  | fuel + 1, start => do
    s.check start
    let pos ← s.skipTagSpaces (start + 1)
    if s.bytes.charAt? pos == some '>' then
      let (cs, pos) ← s.children fuel [] start [] (pos + 1)
      .ok (createElement "React.Fragment".toList "null".toList cs, pos)
    else
      let (name, pos) ← s.tagName pos
      s.attributes fuel start name [] pos

/-- The call for an element from after some of its properties, given last first. -/
def attributes (s : Encoded) : Nat → Nat → List Char → List (List Char) → Nat →
    Except Halt (List Char × Nat)
  | 0, _, _, _, pos => halt .exhausted pos
  | fuel + 1, start, name, props, pos => do
    let pos ← s.skipTagSpaces pos
    s.check pos
    let call (cs : List (List Char)) :=
      createElement (elementType name) (propsObject props.reverse) cs
    match s.bytes.charAt? pos with
    | none => halt (.openElement name) start
    | some d =>
      if d == '/' then
        if s.bytes.charAt? (pos + 1) == some '>' then .ok (call [], pos + 2)
        else halt .loneSlash pos
      else if d == '>' then
        let (cs, pos) ← s.children fuel name start [] (pos + 1)
        .ok (call cs, pos)
      else if d == '{' then
        let dots := skipSpaces s.bytes.chars (pos + 1)
        if startsAt s.bytes.chars dots ['.', '.', '.'] then
          let (text, pos) ← s.capture fuel (dots + 3)
          s.attributes fuel start name
            (("...".toList ++ Text.trimBy Text.isBlank text) :: props) pos
        else halt .noSpread pos
      else if isNameStart d then
        let (key, pos) ← s.tagName pos
        let sign := skipSpaces s.bytes.chars pos
        let (value, pos) ←
          (if s.bytes.charAt? sign == some '=' then
            s.attributeValue fuel (skipSpaces s.bytes.chars (sign + 1))
          else .ok ("true".toList, sign))
        s.attributes fuel start name ((stringLiteral key ++ [':', ' '] ++ value) :: props) pos
      else halt .strayInTag pos

/-- The code for the value of an attribute. -/
def attributeValue (s : Encoded) : Nat → Nat → Except Halt (List Char × Nat)
  | 0, pos => halt .exhausted pos
  | fuel + 1, pos => do
    s.check pos
    match s.bytes.charAt? pos with
    | none => halt .noAttributeValue pos
    | some d =>
      if d == '{' then
        let (text, stop) ← s.capture fuel (pos + 1)
        if ← isBlank text then halt .emptyAttribute pos
        else .ok (Text.trimBy Text.isBlank text, stop)
      else if d == '<' then s.element fuel pos
      else if d == '"' || d == '\'' then
        match find? d s.bytes.chars (pos + 1) with
        | some stop =>
          let text ← cut s.chars (pos + 1) stop
          .ok (stringLiteral (Markup.Entity.decode text), stop + 1)
        | none => halt .openString pos
      else halt .noAttributeValue pos

/-- The code for the children of an element, from after some of them, given last first. -/
def children (s : Encoded) : Nat → List Char → Nat → List (List Char) → Nat →
    Except Halt (List (List Char) × Nat)
  | 0, _, _, _, pos => halt .exhausted pos
  | fuel + 1, name, start, found, pos => do
    s.check pos
    match s.bytes.charAt? pos with
    | none => halt .openContents start
    | some d =>
      if d == '<' then
        let after := skipSpaces s.bytes.chars (pos + 1)
        if s.bytes.charAt? after == some '/' then
          let (closing, stop) ← closingName s (skipSpaces s.bytes.chars (after + 1))
          if s.bytes.charAt? stop != some '>' then halt .openClosingTag stop
          else if closing == name then .ok (found.reverse, stop + 1)
          else halt (.wrongClosingTag name) pos
        else
          let (text, pos) ← s.element fuel pos
          s.children fuel name start (text :: found) pos
      else if d == '{' then
        let (text, pos) ← s.capture fuel (pos + 1)
        s.children fuel name start
          (if ← isBlank text then found else Text.trimBy Text.isBlank text :: found) pos
      else
        let stop := skip (fun e => e != '<' && e != '{') s.bytes.chars pos
        let text := cleanText (← cut s.chars pos stop)
        s.children fuel name start
          (if text.isEmpty then found else stringLiteral text :: found) stop
where
  /-- The name in a closing tag, empty for a fragment, and the offset after white space. -/
  closingName (s : Encoded) (pos : Nat) : Except Halt (List Char × Nat) := do
    if s.bytes.charAt? pos == some '>' then .ok ([], pos)
    else
      let (name, pos) ← s.tagName pos
      .ok (name, skipSpaces s.bytes.chars pos)

end

/-- Lowers a source byte by byte, with a bound on the steps of each loop. -/
def lower (source : String) (dialect : Dialect) (steps : Nat) : Except Halt String := do
  let s : Encoded := ⟨⟨source.toList.toArray, dialect⟩, steps⟩
  let c ← s.code steps .text 0 {}
  .ok (String.ofList c.written.reverse)

end Encoded

end Source
end Restyle
