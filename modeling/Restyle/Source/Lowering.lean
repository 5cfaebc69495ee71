import Restyle.Source.Cursor
import Restyle.Source.Markup

/-!
# Restyle.Source.Lowering

Component source becomes plain script: elements written as markup become `React.createElement`
calls, type annotations and enums go, and everything else is copied character by character.

* `code` — copies code up to a stop, one construct at a time.
* `element` — the call for an element, and the position after it.
* `lower` — the whole source.

The functions call each other, each time with one step of fuel less. No construct takes more
than `stepsPerChar` steps per character, so `lower` never runs out.
-/

namespace Restyle
namespace Source

/-- Where code ends: with the text, at the `}` that closes it, or at a position. -/
inductive Stop where
  | text
  | brace
  | limit (position : Nat)
  deriving Repr, BEq, DecidableEq

namespace Stop

def reached (stop : Stop) (pos : Nat) : Bool :=
  match stop with
  | limit n => n ≤ pos
  | _ => false

end Stop

/-- Depth of braces after a character of code. -/
def braceDepth (depth : Nat) (c : Char) : Nat :=
  if c == '{' then depth + 1 else if c == '}' then depth - 1 else depth

/-- Where the name of a parameter ends. -/
def Scan.Parameter.nameStop (p : Scan.Parameter) : Nat :=
  ((p.mark <|> p.colon) <|> p.equals).getD p.stop

/-- After the name of a parameter: passes over its type, and sets a default off with a space. -/
def Cursor.passType (c : Cursor) (p : Scan.Parameter) : Cursor :=
  if p.colon.isSome then
    let spaced := p.equals.isNone || c.written.head?.any Text.isBlank
    { (if spaced then c else c.write [' ']) with pos := p.equals.getD p.stop }
  else c

open Scan Listing in
mutual

/-- Copies code from the cursor on. -/
def code (s : Listing) : Nat → Stop → Nat → Cursor → Except FaultAt Cursor
  | 0, _, _, c => c.fail .exhausted
  | fuel + 1, stop, depth, c =>
    if stop.reached c.pos then .ok c
    else
      match s.charAt? c.pos with
      | none => if stop == .brace then c.fail .endOfInput else .ok c
      | some d =>
        if d == '}' && depth == 0 && stop == .brace then .ok { c with pos := c.pos + 1 }
        else
          match construct s fuel d c with
          | .ok next => code s fuel stop (braceDepth depth d) next
          | .error e => .error e

/-- Copies or lowers the construct at the cursor, where `d` stands. -/
def construct (s : Listing) : Nat → Char → Cursor → Except FaultAt Cursor
  | 0, _, c => c.fail .exhausted
  | fuel + 1, d, c =>
    let next := s.charAt? (c.pos + 1)
    if d == '/' && next == some '/' then .ok (c.lineComment s)
    else if d == '/' && next == some '*' then c.blockComment s
    else if d == '\'' || d == '"' then c.string s
    else if d == '\x60' then
      (template s fuel c.pos (c.copyBlank d)).map fun c => { c with previous := .value }
    else if d == '{' || d == '}' then .ok (c.copyMark d (.mark d))
    else if d == '<' then angle s fuel c
    else if d == '/' then c.slash s
    else if d == '(' then openParen s fuel c
    else if d == '!' && s.assertsValue c then .ok { c with pos := c.pos + 1 }
    else if d == '.' && next.any Char.isDigit then .ok (c.number s)
    else if isNameStart d then c.word s
    else if d.isDigit then .ok (c.number s)
    else if Text.isSpace d then .ok (c.copyBlank d)
    else if d.toNat ≥ 128 || d == ')' || d == ']' then .ok (c.copyMark d .value)
    else .ok (c.copyMark d (.mark d))

/-- An angle bracket: type parameters or arguments go, an element is lowered, and a comparison
is copied. -/
def angle (s : Listing) : Nat → Cursor → Except FaultAt Cursor
  | 0, c => c.fail .exhausted
  | fuel + 1, c =>
    let starts := c.previous.startsExpression
    match if s.dialect.hasTypes && starts then s.arrowParametersEnd? c.pos else none with
    | some stop => .ok { c with pos := stop }
    | none =>
      if s.dialect.allowsMarkup && starts &&
          (s.charAt? (c.pos + 1)).any (fun d => d == '>' || isNameStart d) then
        (element s fuel c.pos).map fun (text, pos) =>
          { c.write text with pos, previous := .value }
      else
        match if s.dialect.hasTypes && c.previous.endsValue then s.callArgumentsEnd? c.pos
          else none with
        | some stop => .ok { c with pos := stop }
        | none => .ok (c.copyMark '<' (.mark '<'))

/-- A parenthesis: the parameters of a function lose their types, any other is copied. -/
def openParen (s : Listing) : Nat → Cursor → Except FaultAt Cursor
  | 0, c => c.fail .exhausted
  | fuel + 1, c =>
    let closing := if s.dialect.hasTypes then close? s.chars c.pos else none
    match closing, closing.bind (s.parametersEnd? c.previous) with
    | some close, some stop =>
      (parameters s fuel close (c.copyBlank '(')).map fun c =>
        { c.write [')'] with pos := stop, previous := .value }
    | _, _ => .ok (c.copyMark '(' (.mark '('))

/-- Parameters from the cursor on, up to the parenthesis at `close`. -/
def parameters (s : Listing) : Nat → Nat → Cursor → Except FaultAt Cursor
  | 0, _, c => c.fail .exhausted
  | fuel + 1, close, c =>
    let p := parameter s.chars c.pos close
    match code s fuel (.limit p.nameStop) 0 { c with previous := .start } with
    | .error e => .error e
    | .ok c =>
      let c := c.passType p
      match if p.equals.isSome then code s fuel (.limit p.stop) 0 c else .ok c with
      | .error e => .error e
      | .ok c =>
        if p.stop ≥ close then .ok c
        else parameters s fuel close { c.write [','] with pos := p.stop + 1 }

/-- A template from after its opening mark, at `start`, to after its closing mark. -/
def template (s : Listing) : Nat → Nat → Cursor → Except FaultAt Cursor
  | 0, _, c => c.fail .exhausted
  | fuel + 1, start, c =>
    match s.charAt? c.pos with
    | none => .error ⟨.openTemplate, start⟩
    | some d =>
      let c' := c.copyBlank d
      let next := s.charAt? (c.pos + 1)
      if d == '\\' then
        template s fuel start (match next with
          | some e => c'.copyBlank e
          | none => c')
      else if d == '\x60' then .ok c'
      else if d == '$' && next == some '{' then
        match code s fuel .brace 0 { c'.copyBlank '{' with previous := .start } with
        | .ok inner =>
          template s fuel start { inner.write ['}'] with previous := c.previous }
        | .error e => .error e
      else template s fuel start c'

/-- The code in braces from after the opening one, and the position after the closing one. -/
def capture (s : Listing) : Nat → Nat → Except FaultAt (List Char × Nat)
  | 0, pos => .error ⟨.exhausted, pos⟩
  | fuel + 1, pos =>
    (code s fuel .brace 0 { pos }).map fun c => (c.written.reverse, c.pos)

/-- The call for the element at a position, and the position after it. -/
def element (s : Listing) : Nat → Nat → Except FaultAt (List Char × Nat)
  | 0, pos => .error ⟨.exhausted, pos⟩
  | fuel + 1, start =>
    match skipTagSpaces s.chars (s.chars.size + 1) (start + 1) with
    | .error e => .error e
    | .ok pos =>
      if s.charAt? pos == some '>' then
        (children s fuel [] start [] (pos + 1)).map fun (cs, pos) =>
          (createElement "React.Fragment".toList "null".toList cs, pos)
      else
        match tagName s pos with
        | .error e => .error e
        | .ok (name, pos) => attributes s fuel start name [] pos

/-- The call for an element from after some of its properties, given last first. -/
def attributes (s : Listing) : Nat → Nat → List Char → List (List Char) → Nat →
    Except FaultAt (List Char × Nat)
  | 0, _, _, _, pos => .error ⟨.exhausted, pos⟩
  | fuel + 1, start, name, props, pos =>
    match skipTagSpaces s.chars (s.chars.size + 1) pos with
    | .error e => .error e
    | .ok pos =>
      let call (cs : List (List Char)) :=
        createElement (elementType name) (propsObject props.reverse) cs
      match s.charAt? pos with
      | none => .error ⟨.openElement name, start⟩
      | some d =>
        if d == '/' then
          if s.charAt? (pos + 1) == some '>' then .ok (call [], pos + 2)
          else .error ⟨.loneSlash, pos⟩
        else if d == '>' then
          (children s fuel name start [] (pos + 1)).map fun (cs, pos) => (call cs, pos)
        else if d == '{' then
          let dots := skipSpaces s.chars (pos + 1)
          if startsAt s.chars dots ['.', '.', '.'] then
            match capture s fuel (dots + 3) with
            | .error e => .error e
            | .ok (text, pos) =>
              attributes s fuel start name
                (("...".toList ++ Text.trimBy Text.isBlank text) :: props) pos
          else .error ⟨.noSpread, pos⟩
        else if isNameStart d then
          match tagName s pos with
          | .error e => .error e
          | .ok (key, pos) =>
            let sign := skipSpaces s.chars pos
            match if s.charAt? sign == some '=' then
                attributeValue s fuel (skipSpaces s.chars (sign + 1))
              else .ok ("true".toList, sign) with
            | .error e => .error e
            | .ok (value, pos) =>
              attributes s fuel start name ((stringLiteral key ++ [':', ' '] ++ value) :: props) pos
        else .error ⟨.strayInTag, pos⟩

/-- The code for the value of an attribute. -/
def attributeValue (s : Listing) : Nat → Nat → Except FaultAt (List Char × Nat)
  | 0, pos => .error ⟨.exhausted, pos⟩
  | fuel + 1, pos =>
    match s.charAt? pos with
    | some '{' =>
      match capture s fuel (pos + 1) with
      | .error e => .error e
      | .ok (text, stop) =>
        if isBlank text then .error ⟨.emptyAttribute, pos⟩
        else .ok (Text.trimBy Text.isBlank text, stop)
    | some '<' => element s fuel pos
    | some d =>
      if d == '"' || d == '\'' then
        match find? d s.chars (pos + 1) with
        | some stop =>
          .ok (stringLiteral (Markup.Entity.decode (slice s.chars (pos + 1) stop)), stop + 1)
        | none => .error ⟨.openString, pos⟩
      else .error ⟨.noAttributeValue, pos⟩
    | none => .error ⟨.noAttributeValue, pos⟩

/-- The code for the children of an element, from after some of them, given last first. The
empty name is that of a fragment. -/
def children (s : Listing) : Nat → List Char → Nat → List (List Char) → Nat →
    Except FaultAt (List (List Char) × Nat)
  | 0, _, _, _, pos => .error ⟨.exhausted, pos⟩
  | fuel + 1, name, start, found, pos =>
    match s.charAt? pos with
    | none => .error ⟨.openContents, start⟩
    | some d =>
      if d == '<' then
        let after := skipSpaces s.chars (pos + 1)
        if s.charAt? after == some '/' then
          match closingName s (skipSpaces s.chars (after + 1)) with
          | .error e => .error e
          | .ok (closing, stop) =>
            if s.charAt? stop != some '>' then .error ⟨.openClosingTag, stop⟩
            else if closing == name then .ok (found.reverse, stop + 1)
            else .error ⟨.wrongClosingTag name, pos⟩
        else
          match element s fuel pos with
          | .error e => .error e
          | .ok (text, pos) => children s fuel name start (text :: found) pos
      else if d == '{' then
        match capture s fuel (pos + 1) with
        | .error e => .error e
        | .ok (text, pos) =>
          children s fuel name start
            (if isBlank text then found else Text.trimBy Text.isBlank text :: found) pos
      else
        let stop := skip (fun e => e != '<' && e != '{') s.chars pos
        let text := cleanText (slice s.chars pos stop)
        children s fuel name start (if text.isEmpty then found else stringLiteral text :: found) stop
where
  /-- The name in a closing tag, empty for a fragment, and the position after white space. -/
  closingName (s : Listing) (pos : Nat) : Except FaultAt (List Char × Nat) :=
    if s.charAt? pos == some '>' then .ok ([], pos)
    else (tagName s pos).map fun (name, pos) => (name, skipSpaces s.chars pos)

end

/-- Steps that lowering takes per character of source, at most. -/
def stepsPerChar : Nat := 8

/-- Lowers component source to plain script. -/
def lower (source : String) (dialect : Dialect) : Except LoweringError String :=
  let cs := source.toList
  match code ⟨cs.toArray, dialect⟩ (stepsPerChar * (cs.length + 2)) .text 0 {} with
  | .ok c => .ok (String.ofList c.written.reverse)
  | .error e => .error ⟨e.fault, Text.byteLength (cs.take e.position)⟩

end Source
end Restyle
