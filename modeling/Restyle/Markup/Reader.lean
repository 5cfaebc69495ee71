import Restyle.Markup.Tag
import Restyle.Document.Basic
import Restyle.Stylesheet.Declaration

/-!
# Restyle.Markup.Reader

Documents from markup. Markup is cut into pieces (text, tags, passed-over comments and
declarations); each piece changes the document and the list of elements still open. End tags
without a matching open element change nothing, and elements still open at the end of the
markup are closed there.
-/

namespace Restyle
namespace Markup

/-- What unread markup begins with. -/
inductive Piece where
  | text (content : List Char)
  | tag (t : Tag)
  | skipped
  deriving Repr

/-- The text after the first occurrence of a mark; empty if there is none. -/
def afterMark (mark : List Char) : List Char → List Char
  | [] => []
  | c :: cs =>
    match Text.after? mark (c :: cs) with
    | some rest => rest
    | none => afterMark mark cs

theorem length_afterMark_le (mark cs : List Char) : (afterMark mark cs).length ≤ cs.length := by
  induction cs with
  | nil => simp [afterMark]
  | cons c cs ih =>
    simp only [afterMark]
    split
    · next rest h =>
      have := Text.length_after? h
      omega
    · simp only [List.length_cons]
      omega

/-- The first piece of markup `c :: cs`, and the markup after it. -/
def Piece.next (c : Char) (cs : List Char) : Piece × List Char :=
  if c != '<' then
    (.text (c :: cs.takeWhile (· != '<')), cs.dropWhile (· != '<'))
  else
    match cs with
    | '!' :: '-' :: '-' :: rest => (.skipped, afterMark ['-', '-', '>'] rest)
    | '!' :: rest => (.skipped, afterMark ['>'] rest)
    | '?' :: rest => (.skipped, afterMark ['>'] rest)
    | _ =>
      match Tag.read? cs with
      | some (t, rest) => (.tag t, rest)
      | none => (.text [c], cs)

theorem Piece.length_next (c : Char) (cs : List Char) :
    (Piece.next c cs).2.length ≤ cs.length := by
  simp only [Piece.next]
  split
  · exact (List.dropWhile_sublist _).length_le
  · split
    · next rest =>
      have := length_afterMark_le ['-', '-', '>'] rest
      simp only [List.length_cons]
      omega
    · next rest _ =>
      have := length_afterMark_le ['>'] rest
      simp only [List.length_cons]
      omega
    · next rest =>
      have := length_afterMark_le ['>'] rest
      simp only [List.length_cons]
      omega
    · split
      · next h => exact Tag.length_read? h
      · exact Nat.le_refl _

/-- Raw text up to an end tag `</name`, and what follows the `>` that ends it. The name is
compared without regard to case. -/
def rawText (closing : List Char) : List Char → List Char × List Char
  | [] => ([], [])
  | c :: cs =>
    match Text.after? closing ((c :: cs).take closing.length |>.map Char.toLower) with
    | some _ => ([], afterMark ['>'] ((c :: cs).drop closing.length))
    | none =>
      let (content, rest) := rawText closing cs
      (c :: content, rest)

theorem length_rawText (closing cs : List Char) : (rawText closing cs).2.length ≤ cs.length := by
  induction cs with
  | nil => simp [rawText]
  | cons c cs ih =>
    simp only [rawText]
    split
    · have := length_afterMark_le ['>'] ((c :: cs).drop closing.length)
      simp only [List.length_drop] at this ⊢
      omega
    · simp only [List.length_cons]
      omega

/-- The element that a start tag describes. Its `style` attribute becomes the inline style. -/
def Tag.element (t : Tag) : Element :=
  t.attributes.foldl (fun e (name, value) =>
    if name == "style" then
      { e with
        style := .ofDeclarations ((Stylesheet.parseDeclarations value).map fun d => (d.name, d.value)) }
    else e.setAttribute name value) (Element.ofTag t.name)

/-- Adds a text node unless it is empty. -/
def addText (d : Document) (parent : Handle) (content : List Char) : Document :=
  if content.isEmpty then d
  else
    let (d, h) := d.createText (String.ofList content)
    d.append parent h

/-- Closes the innermost open element with a tag, and all inside it. -/
def close (d : Document) (name : String) (opened : List Handle) : List Handle :=
  match opened.dropWhile fun h => d.tag? h != some name with
  | [] => opened
  | _ :: outer => outer

/-- Adds the nodes that markup describes below `base`; `opened` are the elements still open,
innermost first. -/
def readInto (base : Handle) (d : Document) (opened : List Handle) (cs : List Char) : Document :=
  match cs with
  | [] => d
  | c :: cs =>
    let current := opened.headD base
    match _h : Piece.next c cs with
    | (.text content, rest) => readInto base (addText d current (Entity.decode content)) opened rest
    | (.skipped, rest) => readInto base d opened rest
    | (.tag t, rest) =>
      if t.closing then readInto base d (close d t.name opened) rest
      else
        let (d, e) := d.create (.element t.element)
        let d := d.append current e
        if t.selfClosing || voidTags.contains t.name then readInto base d opened rest
        else if rawTags.contains t.name then
          match _hr : rawText ('<' :: '/' :: t.name.toList) rest with
          | (content, after) => readInto base (addText d e content) opened after
        else readInto base d (e :: opened) rest
termination_by cs.length
decreasing_by
  all_goals
    have h₁ := Piece.length_next c cs
    rw [_h] at h₁
    simp only [List.length_cons]
    try have h₂ := length_rawText ('<' :: '/' :: t.name.toList) rest
    try rw [_hr] at h₂
    simp only at *
    omega

end Markup

namespace Document

/-- Adds the nodes that markup describes below a node. -/
def readMarkup (d : Document) (parent : Handle) (markup : String) : Document :=
  Markup.readInto parent d [] markup.toList

/-- The document of a `div` of a class whose content the markup describes. -/
def ofMarkup (markup cls : String) : Document :=
  (Document.withRoot "div" cls).readMarkup 0 markup

end Document
end Restyle
