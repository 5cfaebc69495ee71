import Restyle.Pattern.Text

/-!
# Restyle.Source.ModuleForm

Module statements of component source. Imports of the library and of types go, the default
export becomes a binding, and the other exports lose their keyword.

* `stripImports` — source without those imports.
* `normalize` — source as the body of a function, and the name of the component in it.

Line breaks inside what is removed are kept.
-/

namespace Restyle
namespace Source

open Pattern

/-- Source as the body of a function, and the name that holds the component. -/
structure ModuleBody where
  body : String
  component : String
  deriving Repr, BEq, DecidableEq

/-- The name of an exported expression. -/
def expressionName : String := "__stylepad_default__"

/-- The name of a component that has none. -/
def anonymousName : String := "Component"

/-- The line breaks of a text and nothing else. -/
def lineBreaks (text : List Char) : List Char := text.filter (· == '\n')

def keepLineBreaks (m : Match Char) : List Char := lineBreaks m.text

namespace Form

/-- What imported names are written with. -/
def bindings : TextPattern :=
  let part : TextPattern :=
    .symbol fun c => Text.isWordChar c || Text.isBlank c || c == '$' || c == '*' || c == '{' ||
      c == '}' || c == ','
  .seq part (.many false part)

/-- An optional semicolon after spaces. -/
def finish : TextPattern := .seq indent (optional (char ';'))

/-- An import of the library or of a part of it. -/
def libraryImport : TextPattern :=
  sequence [lineStart, indent, word "import", gap, optional (.seq (word "type") gap),
    optional (sequence [bindings, gap, word "from", gap]), quotation, word "react",
    optional (.seq (char '/') unquoted), quotation, finish]

/-- An import of types. -/
def typeImport : TextPattern :=
  sequence [lineStart, indent, word "import", gap, word "type", gap, bindings, gap, word "from",
    gap, quotation, some' (.symbol fun c => !isQuotation c), quotation, finish]

def exportDefault : TextPattern := sequence [boundary, word "export", gap, word "default", gap]

/-- Groups: the keyword, the name, the opening mark. -/
def defaultFunction : TextPattern :=
  sequence [boundary, word "export", gap, word "default", gap,
    .group 1 (sequence [optional (.seq (word "async") gap), word "function", blanks,
      optional (char '*')]),
    blanks, optional (.group 2 name), blanks, .group 3 (.symbol fun c => c == '(' || c == '<')]

/-- Group: the name. -/
def defaultClass : TextPattern :=
  sequence [boundary, word "export", gap, word "default", gap, word "class", boundary,
    optional (.seq gap (.group 1 name))]

/-- Group: the name. -/
def defaultName : TextPattern :=
  sequence [boundary, word "export", gap, word "default", gap, .group 1 name, indent,
    optional (char ';'), indent, lineEnd]

/-- Group: the name. -/
def exportAsDefault : TextPattern :=
  sequence [boundary, word "export", blanks, char '{', blanks, .group 1 name, gap, word "as", gap,
    word "default", blanks, char '}', finish]

/-- Groups: the indentation, the keyword of the declaration. -/
def namedExport : TextPattern :=
  sequence [lineStart, .group 1 indent, word "export", gap,
    .group 2 (choice (["const", "let", "var", "function", "class", "async", "interface", "type",
      "enum", "abstract"].map word)), boundary]

/-- A list of exports, or all the exports of another module. -/
def exportList : TextPattern :=
  sequence [lineStart, indent, word "export", blanks,
    .alt (char '*') (sequence [char '{', .many true (.symbol (· != '}')), char '}']), blanks,
    optional (sequence [word "from", blanks, quotation, unquoted, quotation]), finish]

end Form

def stripImportsList (source : List Char) : List Char :=
  replace Form.typeImport keepLineBreaks (replace Form.libraryImport keepLineBreaks source)

def stripImports (source : String) : String :=
  String.ofList (stripImportsList source.toList)

/-- The source with a match replaced by a text and the line breaks of the match. -/
def splice (source : List Char) (m : Match Char) (text : List Char) : List Char :=
  source.take m.start ++ text ++ lineBreaks m.text ++ m.after.rest

/-- How the default export is written. -/
inductive DefaultExport where
  | functionNamed (keyword : List Char) (name : Option (List Char)) (opening : List Char)
  | classNamed (name : Option (List Char))
  | binding (name : List Char)
  | expression
  deriving Repr, BEq, DecidableEq

namespace DefaultExport

/-- The kinds of default export in the order in which they are looked for. -/
def find? (source : List Char) : Option (Match Char × DefaultExport) :=
  match first? Form.defaultFunction source with
  | some m =>
    some (m, .functionNamed ((m.group? 1).getD []) (m.group? 2) ((m.group? 3).getD []))
  | none =>
    match first? Form.defaultClass source with
    | some m => some (m, .classNamed (m.group? 1))
    | none =>
      match first? Form.defaultName source <|> first? Form.exportAsDefault source with
      | some m => some (m, .binding ((m.group? 1).getD []))
      | none => (first? Form.exportDefault source).map (·, .expression)

/-- The name that holds the component. -/
def component : DefaultExport → List Char
  | functionNamed _ name _ => name.getD anonymousName.toList
  | classNamed name =>
    match name with
    | some n => if n == "extends".toList then anonymousName.toList else n
    | none => anonymousName.toList
  | binding n => n
  | expression => expressionName.toList

/-- What stands for the export statement. -/
def text (e : DefaultExport) : List Char :=
  match e with
  | functionNamed keyword _ opening =>
    Text.trimEndBy Text.isBlank keyword ++ ' ' :: e.component ++ opening
  | classNamed name =>
    "class ".toList ++ e.component ++
      (if name == some "extends".toList then " extends".toList else [])
  | binding _ => []
  | expression => "const ".toList ++ e.component ++ " = ".toList

end DefaultExport

def stripNamedExports (source : List Char) : List Char :=
  replace Form.exportList keepLineBreaks
    (replace Form.namedExport (fun m => (m.group? 1).getD [] ++ (m.group? 2).getD []) source)

/-- What is said of source without a default export. -/
def noDefaultExport : String :=
  "No default export found. Export your component with `export default`."

/-- Rewrites the module statements of source; `none` if it has no default export. -/
def normalize (source : String) : Option ModuleBody :=
  let source := stripImportsList source.toList
  (DefaultExport.find? source).map fun (m, e) =>
    { body := String.ofList (stripNamedExports (splice source m e.text))
      component := String.ofList e.component }

end Source
end Restyle
