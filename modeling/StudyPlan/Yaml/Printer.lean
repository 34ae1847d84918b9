import StudyPlan.Json.Value
import StudyPlan.Yaml.Layout

/-! YAML text of values, in block style: each item and member has a line of its own,
and whatever it holds stands two blanks further in. Empty lists and maps are written
as brackets. Every piece of text below closes its last line. -/
namespace StudyPlan.Yaml
open Json (Value Number)

def blanks (n : Nat) : String := String.ofList (List.replicate n ' ')

/-! ### Scalars -/

def upperHex (width n : Nat) : String := (Text.paddedHex width n).map Char.toUpper

def escapeByNumber (c : Char) : String :=
  let n := c.toNat
  if n ≤ 0xFF then "\\x" ++ upperHex 2 n
  else if n ≤ 0xFFFF then "\\u" ++ upperHex 4 n
  else "\\U" ++ upperHex 8 n

def escapeChar (c : Char) : String :=
  if c = '"' || c = '\\' then "\\" ++ c.toString
  else if Layout.isPrintable c && !isBreak c then c.toString
  else
    match c with
    | '\x00' => "\\0"
    | '\x07' => "\\a"
    | '\x08' => "\\b"
    | '\t' => "\\t"
    | '\n' => "\\n"
    | '\x0b' => "\\v"
    | '\x0c' => "\\f"
    | '\r' => "\\r"
    | '\x1b' => "\\e"
    | '\u0085' => "\\N"
    | '\u2028' => "\\L"
    | '\u2029' => "\\P"
    | c => escapeByNumber c

def doubleQuoted (s : List Char) : String :=
  "\"" ++ String.join (s.map escapeChar) ++ "\""

/-- Characters as they are, where a line that follows a break starts after `indent`
blanks, unless it is empty; `fresh` tells whether a line starts here. -/
def indented (encode : Char → String) (indent : Nat) (fresh : Bool) : List Char → String
  | [] => ""
  | c :: rest =>
    if isBreak c then c.toString ++ indented encode indent true rest
    else (if fresh then blanks indent else "") ++ encode c ++ indented encode indent false rest

def endsInBreak (s : List Char) : Bool := (s.getLast?.map isBreak).getD false

def singleQuoted (indent : Nat) (s : List Char) : String :=
  "'" ++ indented (fun c => if c = '\'' then "''" else c.toString) indent false s ++
    (if endsInBreak s then blanks indent else "") ++ "'"

/-- How many line breaks a literal keeps at its end: none, one or all. -/
def chomping (s : List Char) : String :=
  match s.reverse with
  | [] => "-"
  | [c] => if isBreak c then "+" else "-"
  | c :: before :: _ => if !isBreak c then "-" else if isBreak before then "+" else ""

def indentHint (s : List Char) : String :=
  match s with
  | [] => ""
  | c :: _ => if c = ' ' || isBreak c then "2" else ""

def literal (indent : Nat) (s : List Char) : String :=
  "|" ++ indentHint s ++ chomping s ++ "\n" ++ indented (·.toString) indent true s

def scalar (indent : Nat) (text : String) : String :=
  let s := text.toList
  match Layout.of text with
  | .plain => text
  | .single => singleQuoted indent s
  | .double => doubleQuoted s
  | .literal => literal indent s

def closeLine (text : String) : String :=
  if endsInBreak text.toList then text else text ++ "\n"

def numberText : Number → String
  | .whole n => toString n
  | .float x => Decimal.Style.yaml.write x

/-! ### Values -/

def isSimpleKey (key : String) : Bool := !key.toList.any isBreak && key.utf8ByteSize ≤ 128

mutual

def block (indent : Nat) : Value → String
  | .null => "null\n"
  | .bool b => if b then "true\n" else "false\n"
  | .number n => numberText n ++ "\n"
  | .string s => closeLine (scalar (max indent 2) s)
  | .array [] => "[]\n"
  | .array (v :: rest) => "- " ++ block (indent + 2) v ++ blockItems indent rest
  | .object [] => "\x7b\x7d\n"
  | .object ((key, v) :: rest) => member indent key v ++ blockMembers indent rest

def blockItems (indent : Nat) : List Value → String
  | [] => ""
  | v :: rest => blanks indent ++ "- " ++ block (indent + 2) v ++ blockItems indent rest

/-- A key and its value. Lists are not moved in below a simple key. -/
def member (indent : Nat) (key : String) (v : Value) : String :=
  if isSimpleKey key then
    scalar (indent + 2) key ++ ":" ++
      match v with
      | .array (first :: rest) =>
        "\n" ++ blanks indent ++ "- " ++ block (indent + 2) first ++ blockItems indent rest
      | .object ((k, first) :: rest) =>
        "\n" ++ blanks (indent + 2) ++ member (indent + 2) k first ++ blockMembers (indent + 2) rest
      | v => " " ++ block (indent + 2) v
  else
    "? " ++ closeLine (scalar (indent + 2) key) ++ blanks indent ++ ": " ++ block (indent + 2) v

def blockMembers (indent : Nat) : List (String × Value) → String
  | [] => ""
  | (key, v) :: rest => blanks indent ++ member indent key v ++ blockMembers indent rest

end

def write (v : Value) : String := block 0 v

end StudyPlan.Yaml
