import StudyPlan.Json.Cursor

/-! What is wrong with a JSON text as text, and where. -/
namespace StudyPlan.Json

inductive FlawKind where
  | endInList | endInObject | endInString | endInValue
  | colon | listEnd | objectEnd | word | value | escape | number | range
  | codePoint | control | keyString | surrogate | trailingComma | trailingText | hexEnd
  deriving DecidableEq, Repr

def FlawKind.text : FlawKind → String
  | endInList => "EOF while parsing a list"
  | endInObject => "EOF while parsing an object"
  | endInString => "EOF while parsing a string"
  | endInValue => "EOF while parsing a value"
  | colon => "expected `:`"
  | listEnd => "expected `,` or `]`"
  | objectEnd => "expected `,` or `\x7d`"
  | word => "expected ident"
  | value => "expected value"
  | escape => "invalid escape"
  | number => "invalid number"
  | range => "number out of range"
  | codePoint => "invalid unicode code point"
  | control => "control character (\\u0000-\\u001F) found while parsing a string"
  | keyString => "key must be a string"
  | surrogate => "lone leading surrogate in hex escape"
  | trailingComma => "trailing comma"
  | trailingText => "trailing characters"
  | hexEnd => "unexpected end of hex escape"

structure Flaw where
  kind : FlawKind
  place : Place
  deriving DecidableEq, Repr

end StudyPlan.Json
