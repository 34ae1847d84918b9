import StudyPlan.Text.Blank

/-! Log filters: directives with commas between them. A directive is a level, or a target, a
span in brackets with fields in braces, or both, and then perhaps a sign and a level. -/
namespace StudyPlan

inductive FilterProblem where
  | shape
  | level
  deriving DecidableEq, Repr

def FilterProblem.text : FilterProblem → String
  | shape => "invalid filter directive"
  | level =>
    "error parsing level filter: expected one of \"off\", \"error\", \"warn\", \"info\", " ++
      "\"debug\", \"trace\", or a number 0-5"

namespace LogFilter

def levelNames : List String := ["off", "error", "warn", "info", "debug", "trace"]

def levelNumber? (s : List Char) : Option Nat :=
  let digits := match s with
    | '+' :: rest => rest
    | s => s
  if digits.isEmpty || !digits.all Char.isDigit then none
  else some (digits.foldl (fun n d => n * 10 + (d.toNat - '0'.toNat)) 0)

def isLevel (s : List Char) : Bool :=
  levelNames.contains (String.ofList (s.map Char.toLower)) ||
    ((levelNumber? s).map fun n => decide (n ≤ 5)).getD false

inductive State where
  | start
  | target
  | span
  | field (length : Nat)
  | pastField
  | pastSpan
  | level (begin : Nat)
  deriving DecidableEq, Repr

def startsTarget (c : Char) : Bool :=
  c = '-' || c = ':' || c = '_' || c.isAlphanum || 0x80 ≤ c.toNat

def State.next (i : Nat) (c : Char) : State → Except FilterProblem State
  | start => if c = '[' then .ok span else if startsTarget c then .ok target else .error .shape
  | target => .ok (if c = '=' then level (i + 1) else if c = '[' then span else target)
  | span => .ok (if c = ']' then pastSpan else if c = '{' then field 0 else span)
  | field length =>
    if c = '}' then if length = 0 then .error .shape else .ok pastField
    else .ok (field (length + 1))
  | pastField => if c = ']' then .ok pastSpan else .error .shape
  | pastSpan => if c = '=' then .ok (level (i + 1)) else .error .shape
  | level begin => .ok (level begin)

def State.run (i : Nat) (s : State) : List Char → Except FilterProblem State
  | [] => .ok s
  | c :: rest =>
    match s.next i c with
    | .error p => .error p
    | .ok s => s.run (i + 1) rest

/-- Check one directive. Blanks around it do not count, except that a level ends only where
the directive does. -/
def checkDirective (s : List Char) : Except FilterProblem Unit :=
  let trimmed := ((s.dropWhile Text.isBlank).reverse.dropWhile Text.isBlank).reverse
  match State.start.run 0 trimmed with
  | .error p => .error p
  | .ok .target => .ok ()
  | .ok .pastSpan => .ok ()
  | .ok (.level begin) =>
    let text := s.drop begin
    if text.isEmpty || isLevel text then .ok () else .error .level
  | .ok _ => .error .shape

def directives : List Char → List (List Char)
  | [] => [[]]
  | c :: rest =>
    match directives rest with
    | [] => [[c]]
    | first :: others => if c = ',' then [] :: first :: others else (c :: first) :: others

def check (filter : String) : Except FilterProblem Unit :=
  ((directives filter.toList).filter (!·.isEmpty)).forM checkDirective

end LogFilter
end StudyPlan
