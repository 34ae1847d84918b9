import StudyPlan.Json.Value
import StudyPlan.Decimal.Style
import StudyPlan.Text.Hex

/-! JSON text of values, on one line without blanks or indented by two blanks a
level. Only the quote, the backslash and the controls below the blank are escaped. -/
namespace StudyPlan.Json

def escapeChar (c : Char) : String :=
  if c = '"' then "\\\""
  else if c = '\\' then "\\\\"
  else if c = '\x08' then "\\b"
  else if c = '\t' then "\\t"
  else if c = '\n' then "\\n"
  else if c = '\x0c' then "\\f"
  else if c = '\r' then "\\r"
  else if c.toNat < 0x20 then "\\u" ++ Text.paddedHex 4 c.toNat
  else c.toString

def quote (s : String) : String :=
  "\"" ++ String.join (s.toList.map escapeChar) ++ "\""

def Number.text : Number → String
  | .whole n => toString n
  | .float x => Decimal.Style.json.write x

namespace Value

mutual

def compact : Value → String
  | .null => "null"
  | .bool b => if b then "true" else "false"
  | .number n => n.text
  | .string s => quote s
  | .array items => "[" ++ ",".intercalate (compactItems items) ++ "]"
  | .object members => "\x7b" ++ ",".intercalate (compactMembers members) ++ "\x7d"

def compactItems : List Value → List String
  | [] => []
  | v :: rest => v.compact :: compactItems rest

def compactMembers : List (String × Value) → List String
  | [] => []
  | (key, v) :: rest => (quote key ++ ":" ++ v.compact) :: compactMembers rest

end

def lineBreak (level : Nat) : String := "\n" ++ String.ofList (List.replicate (2 * level) ' ')

mutual

def pretty (level : Nat) : Value → String
  | .null => "null"
  | .bool b => if b then "true" else "false"
  | .number n => n.text
  | .string s => quote s
  | .array [] => "[]"
  | .array (v :: rest) =>
    "[" ++ ",".intercalate (prettyItems (level + 1) (v :: rest)) ++ lineBreak level ++ "]"
  | .object [] => "\x7b\x7d"
  | .object (m :: rest) =>
    "\x7b" ++ ",".intercalate (prettyMembers (level + 1) (m :: rest)) ++ lineBreak level ++ "\x7d"

def prettyItems (level : Nat) : List Value → List String
  | [] => []
  | v :: rest => (lineBreak level ++ v.pretty level) :: prettyItems level rest

def prettyMembers (level : Nat) : List (String × Value) → List String
  | [] => []
  | (key, v) :: rest =>
    (lineBreak level ++ quote key ++ ": " ++ v.pretty level) :: prettyMembers level rest

end
end Value
end StudyPlan.Json
