import Restyle.Document.Locate
import Restyle.Overrides
import Restyle.Stylesheet.Cascade

/-!
# Restyle.Resolve

What the edit surface shows for an element, and edits applied to a document.

* `computedStyles` — cascaded values of the editable properties.
* `currentStyles` — the inline style, else the recorded edit, else nothing.
* `Document.applyOverrides` — every recorded edit written into the inline style of its element.
-/

namespace Restyle

/-- Cascaded values of the editable properties of an element. -/
def computedStyles (sheet : Stylesheet.Sheet) (d : Document) (h : Handle) : Styles :=
  .ofList (Property.all.map fun p => (p, sheet.computed d h p.cssName))

namespace Background

/-- Words of the `background` shorthand that name no colour. -/
def keywords : List String :=
  ["none", "repeat", "no-repeat", "repeat-x", "repeat-y", "space", "round", "scroll", "fixed",
   "local", "center", "top", "bottom", "left", "right", "cover", "contain", "auto",
   "border-box", "padding-box", "content-box", "text", "initial", "inherit", "unset", "revert"]

def colourFunctions : List String :=
  ["rgb", "rgba", "hsl", "hsla", "hwb", "lab", "lch", "oklab", "oklch", "color"]

/-- Does a word of the shorthand name a colour? -/
def isColour (token : List Char) : Bool :=
  let token := token.map Char.toLower
  match token with
  | '#' :: digits => !digits.isEmpty && digits.all Text.isHexDigit
  | _ =>
    if token.contains '(' then
      colourFunctions.contains (String.ofList (token.takeWhile (· != '(')))
    else token.all Char.isAlpha && !keywords.contains (String.ofList token)

/-- Words between blanks, commas and slashes; parentheses keep a word together. -/
def tokens (depth : Nat) (word : List Char) : List Char → List (List Char)
  | [] => if word.isEmpty then [] else [word.reverse]
  | c :: cs =>
    if c == '(' then tokens (depth + 1) (c :: word) cs
    else if c == ')' then tokens (depth - 1) (c :: word) cs
    else if depth == 0 && (Text.isBlank c || c == ',' || c == '/') then
      if word.isEmpty then tokens depth [] cs else word.reverse :: tokens depth [] cs
    else tokens depth (c :: word) cs

/-- The last colour of a `background` shorthand. -/
def colour? (shorthand : String) : Option String :=
  ((tokens 0 [] shorthand.toList).reverse.find? isColour).map String.ofList

end Background

/-- Value of a property in an inline style; the background may come from its shorthand. -/
def InlineStyle.editable? (style : InlineStyle) (p : Property) : Option String :=
  match (style.get? p.cssName).filter (!·.isEmpty) with
  | some v => some v
  | none =>
    match p with
    | .background => (style.get? "background").bind Background.colour?
    | _ => none

/-- What the edit surface shows: inline style, else recorded edit, else nothing. -/
def currentStyles (d : Document) (h : Handle) (recorded : Option Styles) : Styles :=
  .ofList (Property.all.map fun p =>
    let inlineValue := (d.element? h).bind (·.style.editable? p)
    let edit := recorded.bind (·.get? p)
    (p, (inlineValue <|> edit).getD ""))

namespace Document

/-- Writes values into the inline style of an element. -/
def applyStyles (d : Document) (h : Handle) (styles : Styles) : Document :=
  d.modifyElement h fun e =>
    { e with style := styles.toList.foldl (fun style (p, v) => style.set p.cssName v) e.style }

/-- Writes every recorded edit into its element below `root`, and counts the elements changed.
Edits whose path leads nowhere are left alone. -/
def applyOverrides (d : Document) (root : Handle) (o : Overrides) : Document × Nat :=
  (d.descendants root).foldl (fun (d, touched) h =>
    match o.get? (d.identify h root) with
    | some styles => (d.applyStyles h styles, touched + 1)
    | none => (d, touched)) (d, 0)

end Document
end Restyle
