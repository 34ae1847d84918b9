import StudyPlan.Toml.Cursor

/-! Why TOML text is refused. A failure that is final ends the reading; another one
lets a list that it occurs in end in front of it. The message shows the line with a
mark under the place. -/
namespace StudyPlan.Toml

inductive Cause where
  | duplicateKey (key : String) (table : Option (List String))
  | notTable (path : List String) (type : String)
  | outOfRange
  | tooLarge
  | tooSmall
  | tooDeep
  deriving DecidableEq, Repr

def Cause.text : Cause → String
  | duplicateKey key none => "duplicate key `" ++ key ++ "`"
  | duplicateKey key (some []) => "duplicate key `" ++ key ++ "` in document root"
  | duplicateKey key (some table) =>
    "duplicate key `" ++ key ++ "` in table `" ++ ".".intercalate table ++ "`"
  | notTable path type =>
    "dotted key `" ++ ".".intercalate path ++ "` attempted to extend non-table type (" ++
      type ++ ")"
  | outOfRange => "value is out of range"
  | tooLarge => "number too large to fit in target type"
  | tooSmall => "number too small to fit in target type"
  | tooDeep => "recursion limit exceeded"

structure Failure where
  offset : Nat
  final : Bool := false
  label : Option String := none
  expected : List String := []
  cause : Option Cause := none
  deriving DecidableEq, Repr

namespace Failure

def labelled (f : Failure) (label : String) : Failure := { f with label := f.label <|> some label }

def expecting (f : Failure) (items : List String) : Failure :=
  { f with expected := f.expected ++ items }

def cut (f : Failure) : Failure := { f with final := true }

def message (f : Failure) : String :=
  "\n".intercalate
    ((f.label.map ("invalid " ++ ·)).toList ++
      (if f.expected.isEmpty then [] else ["expected " ++ ", ".intercalate f.expected]) ++
      (f.cause.map Cause.text).toList)

end Failure

section
variable {α : Type}

def labelled (label : String) (r : Except Failure α) : Except Failure α :=
  r.mapError (·.labelled label)

def expecting (items : List String) (r : Except Failure α) : Except Failure α :=
  r.mapError (·.expecting items)

def cut (r : Except Failure α) : Except Failure α := r.mapError Failure.cut

end

def Cursor.refuse {α : Type} (c : Cursor) : Except Failure α := .error { offset := c.offset }

def Cursor.pass (c : Cursor) (x : Char) : Except Failure Cursor :=
  if c.next? = some x then .ok c.advance else c.refuse

/-! ### Messages -/

structure Spot where
  line : Nat
  column : Nat
  deriving DecidableEq, Repr

def before (offset : Nat) : List Char → List Char
  | [] => []
  | c :: rest => if offset = 0 then [] else c :: before (offset - c.utf8Size) rest

def byteLength (s : List Char) : Nat := (s.map Char.utf8Size).foldr (· + ·) 0

def lastLine (s : List Char) : List Char := (s.reverse.takeWhile (· ≠ '\n')).reverse

/-- The spot of a place. A character of several bytes has its column counted in bytes,
every other one in characters; the end stands behind the last character of its line. -/
def spot (text : List Char) (offset : Nat) : Spot :=
  let front := before offset text
  match (text.drop front.length).head? with
  | some c =>
    let line := lastLine front
    ⟨front.count '\n', if c.utf8Size = 1 then line.length else byteLength line⟩
  | none =>
    if text.isEmpty then ⟨0, offset⟩
    else ⟨text.dropLast.count '\n', (lastLine text.dropLast).length + 1⟩

def lineAt : Nat → List Char → List Char
  | 0, s => s.takeWhile (· ≠ '\n')
  | n + 1, s => lineAt n ((s.dropWhile (· ≠ '\n')).drop 1)

def repeated (n : Nat) (c : Char) : String := String.ofList (List.replicate n c)

def report (source : String) (span : Span) (message : String) : String :=
  let text := source.toList
  let spot := spot text span.start
  let number := toString (spot.line + 1)
  let content := lineAt spot.line text
  let width := min (span.stop - span.start) (byteLength content - spot.column)
  let gutter := repeated (number.length + 1) ' ' ++ "|"
  "TOML parse error at line " ++ number ++ ", column " ++ toString (spot.column + 1) ++ "\n" ++
    gutter ++ "\n" ++
    number ++ " | " ++ String.ofList content ++ "\n" ++
    gutter ++ repeated (spot.column + 1) ' ' ++ repeated (max width 1) '^' ++ "\n" ++
    message ++ "\n"

def charSpan (source : String) (offset : Nat) : Span :=
  let text := source.toList
  match (text.drop (before offset text).length).head? with
  | some c => ⟨offset, offset + c.utf8Size⟩
  | none => ⟨offset, offset⟩

def Failure.text (source : String) (f : Failure) : String :=
  report source (charSpan source f.offset) f.message

end StudyPlan.Toml
