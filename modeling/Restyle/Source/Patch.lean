import Restyle.Path
import Restyle.Source.StyleLiteral
import Restyle.Source.Tags

/-!
# Restyle.Source.Patch

Edits written into component source: `patch` rewrites the `style` attribute of one tag and
leaves every other character alone; `patchPath` takes the tag from the last step of a path.
-/

namespace Restyle
namespace Source

/-- Why the source cannot be patched. -/
inductive PatchError where
  | tagNotFound (tag : String) (occurrence : Nat)
  | style (fault : StyleFault)
  | rootPath
  deriving Repr, BEq, DecidableEq

namespace PatchError

def code : PatchError → String
  | tagNotFound .. => "patch.tag_not_found"
  | style (.notLiteral _) => "patch.unsupported_style"
  | style .emptyKey => "patch.malformed_style"
  | rootPath => "patch.empty_path"

def message : PatchError → String
  | tagNotFound tag occurrence => "no <" ++ tag ++ "> tag at occurrence " ++ toString occurrence
  | style (.notLiteral expression) => "style attribute is not an object literal: " ++ expression
  | style .emptyKey => "style object contains an entry without a key"
  | rootPath => "node path is empty"

end PatchError

/-- Rewrites the style of a tag at an occurrence. -/
def patch (source tag : String) (occurrence : Nat) (edits : Styles) : Except PatchError String :=
  match locateTag? source tag occurrence with
  | none => .error (.tagNotFound tag occurrence)
  | some site =>
    match rewriteAttributes site.attributes edits with
    | .error fault => .error (.style fault)
    | .ok attributes => .ok (String.ofList (site.withAttributes attributes))

/-- Rewrites the style of the tag that the last step of a path names. -/
def patchPath (source : String) (path : Path) (edits : Styles) : Except PatchError String :=
  match path.steps.getLast? with
  | none => .error .rootPath
  | some step => patch source step.tag step.index edits

end Source
end Restyle
