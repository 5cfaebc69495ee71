import Restyle.Document.InlineStyle

/-!
# Restyle.Document.Basic

Documents: a table of nodes addressed by handles. Handle `0` is the root element; nodes are
created unattached and attached at most once with `append`.
-/

namespace Restyle

/-- Index of a node in its document. -/
abbrev Handle := Nat

/-- An element: tag name in lower case, attributes other than `style`, inline style. -/
structure Element where
  tag : String
  attributes : List (String × String) := []
  style : InlineStyle := {}
  deriving Repr, BEq, DecidableEq, Inhabited

namespace Element

def ofTag (tag : String) : Element :=
  { tag := Text.lower tag }

def attribute? (e : Element) (name : String) : Option String :=
  (e.attributes.find? fun a => Text.sameFolded a.1 name).map (·.2)

/-- Replaces the value of the attribute with this name up to case, or adds it at the end. -/
def putAttribute (name value : String) : List (String × String) → List (String × String)
  | [] => [(name, value)]
  | a :: rest =>
    if Text.sameFolded a.1 name then (a.1, value) :: rest else a :: putAttribute name value rest

def setAttribute (e : Element) (name value : String) : Element :=
  { e with attributes := putAttribute name value e.attributes }

/-- Does the `class` attribute list this word? -/
def hasClass (e : Element) (name : String) : Bool :=
  match e.attribute? "class" with
  | some classes => (Text.words classes).contains name
  | none => false

end Element

inductive NodeKind where
  | element (e : Element)
  | text (content : String)
  deriving Repr, BEq, DecidableEq, Inhabited

structure Node where
  parent : Option Handle := none
  children : List Handle := []
  kind : NodeKind
  deriving Repr, BEq, DecidableEq, Inhabited

structure Document where
  nodes : Array Node
  deriving Repr, BEq, DecidableEq, Inhabited

namespace Document

/-- A document of one element, with a `class` attribute unless the class is empty. -/
def withRoot (tag cls : String) : Document :=
  let e := Element.ofTag tag
  ⟨#[{ kind := .element (if cls.isEmpty then e else e.setAttribute "class" cls) }]⟩

def root (_ : Document) : Handle := 0

def size (d : Document) : Nat := d.nodes.size

def node? (d : Document) (h : Handle) : Option Node := d.nodes[h]?

def element? (d : Document) (h : Handle) : Option Element :=
  match d.node? h with
  | some { kind := .element e, .. } => some e
  | _ => none

def isElement (d : Document) (h : Handle) : Bool := (d.element? h).isSome

def tag? (d : Document) (h : Handle) : Option String := (d.element? h).map (·.tag)

def parent? (d : Document) (h : Handle) : Option Handle := (d.node? h).bind (·.parent)

def children (d : Document) (h : Handle) : List Handle :=
  match d.node? h with
  | some n => n.children
  | none => []

def elementChildren (d : Document) (h : Handle) : List Handle :=
  (d.children h).filter d.isElement

def hasClass (d : Document) (h : Handle) (name : String) : Bool :=
  match d.element? h with
  | some e => e.hasClass name
  | none => false

/-- Applies a change to an element; other nodes stay as they are. -/
def modifyElement (d : Document) (h : Handle) (f : Element → Element) : Document :=
  ⟨d.nodes.modify h fun n =>
    match n with
    | { kind := .element e, .. } => { n with kind := .element (f e) }
    | _ => n⟩

/-- A new unattached node and its handle. -/
def create (d : Document) (kind : NodeKind) : Document × Handle :=
  (⟨d.nodes.push { kind }⟩, d.nodes.size)

def createElement (d : Document) (tag : String) : Document × Handle :=
  d.create (.element (.ofTag tag))

def createText (d : Document) (content : String) : Document × Handle :=
  d.create (.text content)

/-- May `child` be attached below `parent`? The parent is an element, the child another node
that has no parent yet and is not the root. -/
def canAppend (d : Document) (parent child : Handle) : Bool :=
  parent != child && d.isElement parent && child != d.root &&
    match d.node? child with
    | some n => n.parent.isNone
    | none => false

/-- Attaches a node as the last child; `none` when that is not allowed. -/
def append? (d : Document) (parent child : Handle) : Option Document :=
  if d.canAppend parent child then
    some ⟨(d.nodes.modify child fun n => { n with parent := some parent }).modify parent
      fun n => { n with children := n.children ++ [child] }⟩
  else none

/-- Attaches a node as the last child where that is allowed. -/
def append (d : Document) (parent child : Handle) : Document :=
  (d.append? parent child).getD d

/-- Elements below `h` down to a given depth, in document order. -/
def descendantsWithin (d : Document) : Nat → Handle → List Handle
  | 0, _ => []
  | depth + 1, h =>
    (d.elementChildren h).flatMap fun c => c :: d.descendantsWithin depth c

/-- Elements below `h` in document order. No path down is longer than the number of nodes. -/
def descendants (d : Document) (h : Handle) : List Handle :=
  d.descendantsWithin d.size h

/-- Text at and below `h` down to a given depth, in document order. -/
def textWithin (d : Document) : Nat → Handle → String
  | 0, _ => ""
  | depth + 1, h =>
    match d.node? h with
    | some { kind := .text content, .. } => content
    | some { kind := .element _, children, .. } =>
      String.join (children.map (d.textWithin depth))
    | none => ""

def textContent (d : Document) (h : Handle) : String :=
  d.textWithin d.size h

end Document
end Restyle
