import Restyle.Editor.Gesture

/-!
# Restyle.Main

The command line: opens the editor on a source file and prints the texts of its window. Without
a file, or if the file cannot be read, the editor begins with the template.
-/

namespace Restyle

/-- Name of the variable that tells where the configuration file is. -/
def configVariable : String := "STYLEPAD_CONFIG"

def configName : String := "stylepad.toml"

/-- Reads the configuration file. -/
def readConfigFile (path : String) : IO Config.File := do
  try
    return .contents (← IO.FS.readFile path)
  catch
    | .noFileOrDirectory .. => return .missing
    | _ => return .unreadable

/-- The settings; those that cannot be used are replaced by the default ones. -/
def readConfig : IO Config := do
  let path := (← IO.getEnv configVariable).getD configName
  let file ← readConfigFile path
  match Config.load file (← IO.getEnv guardVariable) with
  | .ok config => return config
  | .error _ => return {}

/-- The source that the first argument names that is no option. -/
def readSource (args : List String) : IO String := do
  match args.find? (!·.startsWith "-") with
  | none => return templateSource
  | some path =>
    try
      IO.FS.readFile path
    catch _ => return templateSource

end Restyle

def main (args : List String) : IO Unit := do
  let config ← Restyle.readConfig
  let source ← Restyle.readSource args
  for (_, text) in (Restyle.Editor.ofSource config source).screen do
    IO.println text
