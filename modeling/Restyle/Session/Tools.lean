import Restyle.Component.Compile
import Restyle.Session.Basic
import Restyle.Stylesheet.Preview

/-!
# Restyle.Session.Tools

The tools of a session under some settings: components are compiled and run as scripts, and the
source is patched in its text.
-/

namespace Restyle
namespace Config

def tools (c : Config) : Tools Compiled where
  compile _ source := (Component.compile c source).map fun component => (component.name, component)
  render := Compiled.renderMarkup
  patch := Source.patchPath
  rootClass := c.rootClass
  sheet := Stylesheet.previewSheet
  popoverOffset := c.popoverOffset

end Config
end Restyle
