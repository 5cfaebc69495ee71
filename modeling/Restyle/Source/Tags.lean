import Restyle.Source.Nesting

/-!
# Restyle.Source.Tags

Opening tags in component source, found by reading the text from left to right. A site cuts
the source into five pieces around the attributes of one tag; `TagSite.source` puts them back
together. Quotes and braces are respected inside a tag, so the `>` of an arrow function in an
attribute does not end it.
-/

namespace Restyle
namespace Source

/-- One opening tag: the text before its `<`, its name, the text of its attributes, what
closes it (`>`, or a slash with white space and `>`), and the text after. -/
structure TagSite where
  before : List Char
  name : List Char
  attributes : List Char
  closing : List Char
  selfClosing : Bool
  after : List Char
  deriving Repr, BEq, DecidableEq

namespace TagSite

/-- The source with other attributes at the site. -/
def withAttributes (s : TagSite) (attributes : List Char) : List Char :=
  s.before ++ '<' :: s.name ++ attributes ++ s.closing ++ s.after

def source (s : TagSite) : List Char := s.withAttributes s.attributes

/-- Byte offset of the `<`. -/
def start (s : TagSite) : Nat := Text.byteLength s.before

def attributesStart (s : TagSite) : Nat := s.start + 1 + Text.byteLength s.name

def attributesEnd (s : TagSite) : Nat := s.attributesStart + Text.byteLength s.attributes

/-- Byte offset past the `>`. -/
def stop (s : TagSite) : Nat := s.attributesEnd + Text.byteLength s.closing

end TagSite

/-- Cuts at the `>` that ends a tag. -/
def cutTagEnd (n : Nesting) : List Char → Option (List Char × List Char)
  | [] => none
  | c :: cs =>
    if n.isTop && c == '>' then some ([], cs)
    else (cutTagEnd (n.tag c) cs).map fun (inside, after) => (c :: inside, after)

/-- What may follow the name of a tag. -/
def endsName (c : Char) : Bool := Text.isSpace c || c == '>' || c == '/'

/-- The text after `<name`, where a tag of that name opens at `c`. -/
def opens? (name : List Char) (c : Char) (cs : List Char) : Option (List Char) :=
  if c == '<' then
    match Text.after? name cs with
    | some (d :: rest) => if endsName d then some (d :: rest) else none
    | _ => none
  else none

/-- The site of a tag, from the text after its name. -/
def siteOf? (name rest : List Char) : Option TagSite :=
  (cutTagEnd {} rest).map fun (inside, after) =>
    let kept := Text.trimEndBy Text.isSpace inside
    if kept.getLast? == some '/' then
      { before := [], name, attributes := kept.dropLast,
        closing := inside.drop (kept.length - 1) ++ ['>'], selfClosing := true, after }
    else { before := [], name, attributes := inside, closing := ['>'], selfClosing := false, after }

/-- The site of the tag at an occurrence, counting opening tags of the name from zero. -/
def findSite? (name : List Char) : Nat → List Char → Option TagSite
  | _, [] => none
  | n, c :: cs =>
    let later (n : Nat) :=
      (findSite? name n cs).map fun s => { s with before := c :: s.before }
    match opens? name c cs, n with
    | some rest, 0 => siteOf? name rest
    | some _, n + 1 => later n
    | none, n => later n

/-- The site of the tag at an occurrence; the empty name has none. -/
def locateTag? (source name : String) (occurrence : Nat) : Option TagSite :=
  if name.isEmpty then none else findSite? name.toList occurrence source.toList

end Source
end Restyle
