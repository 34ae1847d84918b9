import StudyPlan.Text.Hex
import StudyPlan.Text.Unprintable

/-! Quoted text as messages show it: between double quotes, with backslash escapes
for the quote, the backslash and the common controls, and `\u` with the code
point in braces for every other character that has no glyph of its own. -/
namespace StudyPlan.Text

namespace Quoted

def encodeChar (c : Char) : String :=
  if c = '"' then "\\\""
  else if c = '\\' then "\\\\"
  else if c = '\n' then "\\n"
  else if c = '\r' then "\\r"
  else if c = '\t' then "\\t"
  else if c = '\x00' then "\\0"
  else if c.toNat < 0x20 || c.toNat = 0x7F || (0x80 ≤ c.toNat && isUnprintable c) then
    "\\u\x7b" ++ hex c.toNat ++ "\x7d"
  else c.toString

def encode (s : String) : String :=
  "\"" ++ String.join (s.toList.map encodeChar) ++ "\""

end Quoted
end StudyPlan.Text
