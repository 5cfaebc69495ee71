/-!
# Restyle.Error

What can go wrong in the editor, as it is shown: a heading, a text and a code per kind.
-/

namespace Restyle

inductive EditorError where
  /-- The source is not well-formed; with line and column. -/
  | source (message : String) (line column : Nat)
  /-- The source gives no component. -/
  | compile (message : String)
  /-- The component failed while it was rendered. -/
  | runtime (message : String)
  /-- The source cannot be patched. -/
  | patch (code message : String)
  | config (message : String)
  | io (path message : String)
  deriving Repr, BEq, DecidableEq

namespace EditorError

/-- Heading shown above the text. -/
def title : EditorError → String
  | source .. => "Syntax error in JSX"
  | compile _ => "Unable to compile component"
  | runtime _ => "Component crashed during render"
  | patch .. => "Unable to modify code structure"
  | config _ => "Invalid configuration"
  | io .. => "File access failed"

/-- A stable name of the kind of error. -/
def code : EditorError → String
  | source .. => "compiler.syntax"
  | compile _ => "compiler.compile"
  | runtime _ => "preview.runtime"
  | patch code _ => code
  | config _ => "config.invalid"
  | io .. => "io.failed"

/-- The text as it is shown. -/
def text : EditorError → String
  | source message line column =>
    message ++ " (" ++ toString line ++ ":" ++ toString column ++ ")"
  | compile message | runtime message | patch _ message => message
  | config message => "configuration error: " ++ message
  | io path message => path ++ ": " ++ message

end EditorError
end Restyle
