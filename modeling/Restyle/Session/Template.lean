/-!
# Restyle.Session.Template

The component that a session begins with when it is given no source.
-/

namespace Restyle

def templateSource : String :=
  "import React from 'react';\n" ++
  "\n" ++
  "export default function Component() \x7b\n" ++
  "  return (\n" ++
  "    <div style=\x7b\x7b maxWidth: '1200px', margin: '0 auto', padding: '16px' " ++
  "\x7d\x7d>\n" ++
  "      <h1 style=\x7b\x7b fontSize: '24px', fontWeight: 'bold', marginBottom: '16px' " ++
  "\x7d\x7d>Hello World</h1>\n" ++
  "      <p style=\x7b\x7b color: '#666' \x7d\x7d>This is a sample component that you " ++
  "can edit!</p>\n" ++
  "      <div style=\x7b\x7b marginTop: '16px', padding: '16px', backgroundColor: " ++
  "'#dbeafe', borderRadius: '8px' \x7d\x7d>\n" ++
  "        <span style=\x7b\x7b color: '#1e40af' \x7d\x7d>Click on any element to start " ++
  "editing its styles.</span>\n" ++
  "      </div>\n" ++
  "      <div style=\x7b\x7b marginTop: '16px', display: 'flex', gap: '8px' \x7d\x7d>\n" ++
  "        <button style=\x7b\x7b padding: '8px 16px', backgroundColor: '#3b82f6', " ++
  "color: 'white', border: 'none', borderRadius: '6px', cursor: 'pointer' \x7d\x7d>\n" ++
  "          Primary Button\n" ++
  "        </button>\n" ++
  "        <button>\n" ++
  "          Secondary Button\n" ++
  "        </button>\n" ++
  "      </div>\n" ++
  "    </div>\n" ++
  "  );\n" ++
  "\x7d"

end Restyle
