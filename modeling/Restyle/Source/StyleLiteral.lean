import Restyle.Source.Attributes
import Restyle.Styles

/-!
# Restyle.Source.StyleLiteral

The object literal of a `style` attribute as a list of entries: read from its text, merged with
edits, and written back. Entries that no edit touches keep their text.
-/

namespace Restyle
namespace Source

/-- Why the attributes of a tag cannot be rewritten. -/
inductive StyleFault where
  /-- The value of `style` is no object literal. -/
  | notLiteral (expression : String)
  /-- An entry of the object has an empty key. -/
  | emptyKey
  deriving Repr, BEq, DecidableEq

/-- An entry of a style object. -/
inductive Entry where
  /-- A key with a string; `text` is the entry as written, if it was read and not replaced. -/
  | quoted (key value : String) (text : Option String)
  /-- Any other entry as written. -/
  | raw (key : Option String) (text : String)
  deriving Repr, BEq, DecidableEq

/-- Splits at a mark outside strings and brackets. -/
def splitPieces (mark : Char) (n : Nesting) : List Char → List (List Char)
  | [] => [[]]
  | c :: cs =>
    if n.isTop && c == mark then [] :: splitPieces mark n cs
    else
      match splitPieces mark (n.bracket c) cs with
      | [] => [[c]]
      | piece :: pieces => (c :: piece) :: pieces

/-- Value of the characters of a string between its quotation marks; `none` when the mark stands
there without a backslash, or a backslash ends the text. -/
def unescape? (mark : Char) : List Char → Option (List Char)
  | [] => some []
  | '\\' :: [] => none
  | '\\' :: c :: cs =>
    (unescape? mark cs).map ((if c == 'n' then '\n' else if c == 't' then '\t' else c) :: ·)
  | c :: cs => if c == mark then none else (unescape? mark cs).map (c :: ·)

/-- Value of a text that is one string literal in single or double quotation marks. -/
def unquote? : List Char → Option String
  | [] => none
  | mark :: rest =>
    if mark == '"' || mark == '\'' then
      if rest.getLast? == some mark then (unescape? mark rest.dropLast).map String.ofList
      else none
    else none

/-- Text inside double quotation marks. -/
def escape (value : List Char) : List Char :=
  value.flatMap fun c =>
    if c == '"' then ['\\', '"']
    else if c == '\\' then ['\\', '\\']
    else if c == '\n' then ['\\', 'n']
    else [c]

def trimmed (cs : List Char) : List Char := Text.trimBy Text.isBlank cs

namespace Entry

def key? : Entry → Option String
  | quoted key _ _ => some key
  | raw key _ => key

/-- Reads an entry from its trimmed text. -/
def parse (text : List Char) : Except StyleFault Entry :=
  match splitPieces ':' {} text with
  | rawKey :: _ :: _ =>
    let key := (unquote? (trimmed rawKey)).getD (String.ofList (trimmed rawKey))
    if key.isEmpty then .error .emptyKey
    else
      match unquote? (trimmed (text.drop (rawKey.length + 1))) with
      | some value => .ok (quoted key value (some (String.ofList text)))
      | none => .ok (raw (some key) (String.ofList text))
  | _ => .ok (raw none (String.ofList text))

/-- The entry as it stands in an object literal. -/
def text : Entry → String
  | quoted _ _ (some text) => text
  | quoted key value none => key ++ ": \"" ++ String.ofList (escape value.toList) ++ "\""
  | raw _ text => text

/-- Is this an entry for a property, under its key or its name? -/
def isFor (p : Property) (e : Entry) : Bool :=
  match e.key? with
  | some k => k == p.key || k == p.name
  | none => false

/-- The entry that an edit writes. -/
def edited (p : Property) (value : String) : Entry := quoted p.key value none

/-- Puts an entry where the first entry for the property stands, and drops the others; `none`
if there is no entry for it. -/
def replace? (p : Property) (value : String) : List Entry → Option (List Entry)
  | [] => none
  | e :: es =>
    if e.isFor p then some (edited p value :: es.filter (!·.isFor p))
    else (replace? p value es).map (e :: ·)

/-- Applies one edit: an empty value removes the entries of the property. -/
def mergeOne (entries : List Entry) (p : Property) (value : String) : List Entry :=
  if value.isEmpty then entries.filter (!·.isFor p)
  else (replace? p value entries).getD (entries ++ [edited p value])

/-- Applies edits in the order of the properties. -/
def merge (entries : List Entry) (edits : Styles) : List Entry :=
  edits.toList.foldl (fun es (p, v) => mergeOne es p v) entries

end Entry

/-- A text without its braces, if it stands in braces. -/
def unbrace? : List Char → Option (List Char)
  | '{' :: rest => if rest.getLast? == some '}' then some rest.dropLast else none
  | _ => none

/-- Reads the entries of a `style` value, which has to be an object literal in braces. -/
def parseStyleValue (value : List Char) : Except StyleFault (List Entry) :=
  match unbrace? value with
  | none => .error (.notLiteral (String.ofList value))
  | some inside =>
    let expression := trimmed inside
    match unbrace? expression with
    | none => .error (.notLiteral (String.ofList expression))
    | some body =>
      (((splitPieces ',' {} body).map trimmed).filter (!·.isEmpty)).mapM Entry.parse

/-- The `style` attribute with some entries. -/
def styleAttribute (entries : List Entry) : List Char :=
  ("style=\x7b\x7b " ++ ", ".intercalate (entries.map Entry.text) ++ " \x7d\x7d").toList

/-- Is this the `style` attribute? -/
def AttributeItem.isStyle (i : AttributeItem) : Bool := i.name == some "style".toList

/-- Rewrites the attributes of a tag: edits are merged into its `style` attribute, which is
added where there was none and removed where no entry is left. -/
def rewriteAttributes (attributes : List Char) (edits : Styles) : Except StyleFault (List Char) :=
  let (items, trailing) := scan attributes
  match items.dropWhile (!·.isStyle) with
  | item :: later =>
    match (item.value.map parseStyleValue).getD (.ok []) with
    | .error e => .error e
    | .ok entries =>
      let earlier := AttributeItem.join (items.takeWhile (!·.isStyle))
      let rest := AttributeItem.join later ++ trailing
      match Entry.merge entries edits with
      | [] => .ok (earlier ++ rest)
      | entries => .ok (earlier ++ item.lead ++ styleAttribute entries ++ rest)
  | [] =>
    match Entry.merge [] edits with
    | [] => .ok attributes
    | entries =>
      let kept := Text.trimEndBy Text.isBlank attributes
      .ok (kept ++ ' ' :: styleAttribute entries ++ attributes.drop kept.length)

end Source
end Restyle
