import Restyle.Stylesheet.Sheet

/-!
# Restyle.Stylesheet.Cascade

Computed values: the inline style decides, then the most specific matching rule (the later of
two equally specific ones), then the default of the tag, then the parent for inherited
properties, and last the initial value.
-/

namespace Restyle
namespace Stylesheet

def inheritedProperties : List String :=
  ["color", "font-family", "font-size", "font-style", "font-weight", "line-height", "text-align"]

def initialValues : List (String × String) :=
  [("background-color", "rgba(0, 0, 0, 0)"),
   ("color", "rgb(0, 0, 0)"),
   ("font-family", "sans-serif"),
   ("font-size", "16px"),
   ("font-weight", "400"),
   ("margin", "0px"),
   ("padding", "0px")]

/-- Defaults by tag and property that differ from the initial values. -/
def tagDefaults : List ((String × String) × String) :=
  [(("h1", "font-size"), "32px"),
   (("h1", "font-weight"), "700"),
   (("h1", "margin"), "21.44px 0px"),
   (("h2", "font-size"), "24px"),
   (("h2", "font-weight"), "700"),
   (("h2", "margin"), "19.92px 0px"),
   (("h3", "font-size"), "18.72px"),
   (("h3", "font-weight"), "700"),
   (("h3", "margin"), "18.72px 0px"),
   (("p", "margin"), "16px 0px"),
   (("ul", "margin"), "16px 0px"),
   (("ul", "padding"), "0px 0px 0px 40px"),
   (("ol", "margin"), "16px 0px"),
   (("ol", "padding"), "0px 0px 0px 40px"),
   (("b", "font-weight"), "700"),
   (("strong", "font-weight"), "700"),
   (("th", "font-weight"), "700"),
   (("code", "font-family"), "monospace"),
   (("pre", "font-family"), "monospace")]

def initialValue (property : String) : String :=
  (initialValues.lookup property).getD ""

/-- The value that a rule declares last for a property. -/
def Rule.value? (r : Rule) (property : String) : Option String :=
  (r.declarations.reverse.find? (·.name == property)).map (·.value)

/-- The better of a value found so far and the one a later rule gives. -/
def better (found : Option (Specificity × String)) (specificity : Specificity) (value : String) :
    Option (Specificity × String) :=
  match found with
  | some (s, v) => if s.le specificity then some (specificity, value) else some (s, v)
  | none => some (specificity, value)

/-- The value of the most specific rule that matches `h` and declares the property; of equally
specific rules the last. -/
def Sheet.ruleValue? (sheet : Sheet) (d : Document) (h : Handle) (property : String) :
    Option String :=
  (sheet.rules.foldl (fun found r =>
    match r.value? property with
    | some value =>
      if r.selector.accepts d h then better found r.selector.specificity value else found
    | none => found) none).map (·.2)

/-- Computed value of a property whose name is trimmed and in lower case. -/
def Sheet.resolve (sheet : Sheet) (d : Document) (property : String) : Nat → Handle → String
  | 0, _ => initialValue property
  | fuel + 1, h =>
    match d.element? h with
    | none => initialValue property
    | some e =>
      match e.style.get? property with
      | some value => value
      | none =>
        match sheet.ruleValue? d h property with
        | some value => value
        | none =>
          match tagDefaults.lookup (e.tag, property) with
          | some value => value
          | none =>
            if inheritedProperties.contains property then
              match d.parent? h with
              | some parent => sheet.resolve d property fuel parent
              | none => initialValue property
            else initialValue property

def Sheet.computed (sheet : Sheet) (d : Document) (h : Handle) (property : String) : String :=
  sheet.resolve d (Text.lower (Text.trim property)) d.size h

end Stylesheet
end Restyle
