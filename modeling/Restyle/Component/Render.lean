import Restyle.Component.Rendered

/-!
# Restyle.Component.Render

Rendering a tree of elements once. Components are run, contexts are provided to what stands
inside their providers, and what is left are texts and elements of the page.

The renderer works on values of any type through a `Surface`, which says what a value is and
runs components. It counts frames: what stands inside needs a frame more, and where none is left
the rendering is given up.

* `renderNode` — a value that stands where content is expected.
* `renderElement` — an element, by its type and properties.
* `renderHost` — an element of the page.
-/

namespace Restyle
namespace Component

open Script (Utf16)

/-- What a value is as content. -/
inductive Content (ν : Type) where
  | nothing
  | text (s : Utf16)
  | items (vs : List ν)
  /-- An element: its type and properties. -/
  | element (type props : ν)
  | function
  | invalid

/-- What the type of an element is. -/
inductive ElementKind (ν : Type) where
  | host (tag : Utf16)
  | fragment
  | component
  | provider (context : ν)
  | consumer (context : ν)
  /-- Stands for another type. -/
  | memo (type : ν)
  /-- A function that is called with properties and no reference. -/
  | forward
  | invalid

/-- What a value is as the value of an attribute or of a style property. -/
inductive Datum where
  | nothing
  | truth (b : Bool)
  | function
  | number (isZero : Bool) (s : Utf16)
  | text (s : Utf16)
  | object
  | other

/-- Does the value leave a style property unset? -/
def Datum.setsNothing : Datum → Bool
  | nothing | truth _ => true
  | text s => s.isEmpty
  | _ => false

/-- What the renderer has to know of values, and what it can do with them. Where a frame count
is given, it is the number of frames that are left. -/
structure Surface (m : Type → Type) (ν : Type) where
  content : ν → m (Content ν)
  kind : ν → m (ElementKind ν)
  datum : ν → m Datum
  /-- Keys of an object, inherited ones included. -/
  keys : ν → m (List Utf16)
  owns : ν → Utf16 → m Bool
  field : ν → Utf16 → m ν
  /-- The text of any value. -/
  text : Nat → ν → m Utf16
  /-- The content that a component gives for properties. -/
  run : Nat → ν → ν → m ν
  /-- The content that a forwarding type gives for properties. -/
  forwarded : Nat → ν → ν → m ν
  /-- The content that children give for a value, if they are a function. -/
  consumed : Nat → ν → ν → m (Option ν)
  /-- Markup that properties give as such. -/
  rawMarkup : ν → m (Option ν)
  /-- The value that a context has. -/
  current : ν → m ν
  /-- Gives a context a value. -/
  provide : ν → ν → m Unit
  /-- Runs something and then, also if it throws, a last step. -/
  afterwards : {α : Type} → m α → m Unit → m α
  /-- Runs something with a number of arguments in a frame of its own. -/
  frame : {α : Type} → Nat → m α → m α
  /-- Counts a round of a loop. -/
  round : m Unit
  /-- Gives up because no frame is left. -/
  exceeded : {α : Type} → m α
  /-- Throws an error. -/
  fail : {α : Type} → Utf16 → m α
  /-- Says what a value is that cannot be shown. -/
  describe : Nat → ν → m Utf16

namespace Surface

variable {m : Type → Type} [Monad m] {ν : Type} (s : Surface m ν)

/-- Gives up unless a number of frames is left. -/
def need (left wanted : Nat) : m Unit := if left < wanted then s.exceeded else pure ()

/-- Goes through items, with a round of a loop after each. -/
def each {α : Type} (f : ν → m (List α)) : List ν → m (List α)
  | [] => pure []
  | v :: rest => do
    let out ← f v
    s.round
    return out ++ (← each f rest)

/-- Goes through keys, with a round of a loop before each and one at the end. -/
def eachKey {α : Type} (f : Utf16 → m (Option α)) : List Utf16 → m (List α)
  | [] => do
    s.round
    return []
  | k :: rest => do
    s.round
    let out ← f k
    return out.toList ++ (← eachKey f rest)

/-! ## Styles -/

/-- The text of the value of a style property; a number but zero is a length, unless the property
says otherwise. -/
def styleValue (left : Nat) (key : Utf16) (d : Datum) (v : ν) : m Utf16 :=
  match d with
  | .number isZero t =>
    return if isZero || isListed unitless key || isCustom key then t else t ++ .whole "px"
  | .text t => return t
  | _ => s.text left v

/-- The declaration for an entry of a style object. -/
def styleEntry (left : Nat) (style : ν) (key : Utf16) : m (Option Utf16) := do
  s.need left 2
  if !(← s.owns style key) then return none
  let v ← s.field style key
  let d ← s.datum v
  if d.setsNothing then return none
  if hasCapital key then s.need left 3
  return some (hyphenated key ++ .whole ":" ++ (← s.styleValue left key d v).trim true true)

/-- The text of a style object. -/
def styleText (left : Nat) (style : ν) : m Utf16 := do
  match ← s.datum style with
  | .object =>
    let parts ← s.frame 1 do s.eachKey (s.styleEntry (left - 1) style) (← s.keys style)
    return Utf16.join (.whole ";") parts
  | _ => return .whole ""

/-! ## Attributes -/

/-- The attribute for a property, if there is one. -/
def attributeFor (left : Nat) (props : ν) (name : Utf16) : m (Option Attribute) := do
  s.need left 2
  if !(← s.owns props name) || isListed unshown name then return none
  let v ← s.field props name
  match ← s.datum v with
  | .nothing | .function | .truth false => return none
  | d =>
    if isHandler name then return none
    if name == .whole "style" then
      let css ← s.styleText left v
      if css.isEmpty then return none
      s.need left 3
      return some ⟨name, some css⟩
    let shown := attributeName name
    match d with
    | .truth _ => return some ⟨shown, if spellsTruth shown then some (.whole "true") else none⟩
    | _ =>
      s.need left 3
      return some ⟨shown, some (← s.text (left - 2) v)⟩

/-! ## Content -/

mutual

/-- Renders content. -/
def renderNode : Nat → ν → m (List Rendered)
  | 0, _ => s.exceeded
  | left + 1, v => s.frame 1 do
    match ← s.content v with
    | .nothing => return []
    | .text t =>
      s.need left 2
      return [.text t]
    | .items vs =>
      s.need left 1
      s.each (renderNode left) vs
    | .element type props => renderElement left type props
    | .function =>
      s.need left 1
      return []
    | .invalid =>
      s.need left 2
      s.fail (.whole "Objects are not valid as a React child (found: " ++ (← s.describe left v) ++ .whole ").")

/-- Renders an element by its type. -/
def renderElement : Nat → ν → ν → m (List Rendered)
  | 0, _, _ => s.exceeded
  | left + 1, type, props => s.frame 1 do
    match ← s.kind type with
    | .host tag => renderHost left tag props
    | .fragment => renderNode left (← s.field props (.whole "children"))
    | .component => renderNode left (← s.run left type props)
    | .provider context =>
      let before ← s.current context
      s.provide context (← s.field props (.whole "value"))
      s.afterwards (do renderNode left (← s.field props (.whole "children")))
        (s.provide context before)
    | .consumer context =>
      match ← s.consumed left props (← s.current context) with
      | some v => renderNode left v
      | none => return []
    | .memo inner => renderElement left inner props
    | .forward => renderNode left (← s.forwarded left type props)
    | .invalid =>
      s.fail (.whole "Element type is invalid: expected a string or a class/function but got: " ++
        (← s.describe left type) ++ .whole ".")

/-- Renders an element of the page. -/
def renderHost : Nat → Utf16 → ν → m (List Rendered)
  | 0, _, _ => s.exceeded
  | left + 1, tag, props => s.frame 2 do
    let attributes ← s.eachKey (s.attributeFor left props) (← s.keys props)
    if isListed voidTags tag then return [.element tag attributes []]
    match ← s.rawMarkup props with
    | some v =>
      s.need left 1
      return [.element tag attributes [.raw (← s.text left v)]]
    | none =>
      let children ← renderNode left (← s.field props (.whole "children"))
      return [.element tag attributes children]

end

end Surface
end Component
end Restyle
