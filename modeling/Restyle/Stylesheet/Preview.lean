import Restyle.Stylesheet.Sheet

/-!
# Restyle.Stylesheet.Preview

The style sheet under which every preview is shown.
-/

namespace Restyle
namespace Stylesheet

def previewCss : String :=
  "\n.preview-content button \x7b\n  appearance: button;\n  background-color: #e7e7e7;\n" ++
  "  border: 1px solid #d3d3d3;\n  border-radius: 4px;\n  padding: 6px 16px;\n" ++
  "  font-size: 14px;\n  font-weight: 500;\n  cursor: pointer;\n  color: #000;\n\x7d\n" ++
  ".preview-content button:hover \x7b background-color: #d4d4d4; \x7d\n" ++
  ".preview-content input,\n.preview-content textarea,\n.preview-content select \x7b\n" ++
  "  border: 1px solid #d3d3d3;\n  border-radius: 4px;\n  padding: 6px 12px;\n" ++
  "  font-size: 14px;\n  background-color: white;\n  color: #000;\n\x7d\n" ++
  ".preview-content a \x7b\n  color: #3b82f6;\n  text-decoration: underline;\n\x7d\n"

def previewSheet : Sheet := Sheet.parse previewCss

end Stylesheet
end Restyle
