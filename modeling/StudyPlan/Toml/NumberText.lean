import StudyPlan.Toml.Failure
import StudyPlan.Decimal.Nearest
import StudyPlan.Text.Hex

/-! Numbers. Single underscores may stand between digits; whole numbers fit 64 bits and
have no leading zeros; hexadecimal, octal and binary ones have no sign. -/
namespace StudyPlan.Toml.NumberText

def isSign (c : Char) : Bool := c = '+' || c = '-'

def sign (c : Cursor) : Option Char × Cursor :=
  match c.next? with
  | some x => if isSign x then (some x, c.advance) else (none, c)
  | none => (none, c)

def readRunFrom (isDigit : Char → Bool) (ahead : Nat) (run : List Char) (c : Cursor) :
    Except Failure (List Char × Cursor) :=
  match ahead, c.next? with
  | ahead + 1, some x =>
    if isDigit x then readRunFrom isDigit ahead (x :: run) c.advance
    else if x = '_' then
      match c.advance.next? with
      | some y =>
        if isDigit y then readRunFrom isDigit ahead (y :: run) (c.skip 2)
        else expecting ["digit"] (cut c.advance.refuse)
      | none => expecting ["digit"] (cut c.advance.refuse)
    else .ok (run.reverse, c)
  | _, _ => .ok (run.reverse, c)

def readRun (isDigit : Char → Bool) (c : Cursor) : Except Failure (List Char × Cursor) :=
  match c.next? with
  | some x => if isDigit x then readRunFrom isDigit c.rest.length [x] c.advance else c.refuse
  | none => c.refuse

def readDecimal (c : Cursor) : Except Failure ((Option Char × List Char) × Cursor) :=
  let (s, c) := sign c
  labelled "integer" <|
    if c.next? = some '0' then .ok ((s, ['0']), c.advance)
    else do
      let (digits, c) ← readRun Char.isDigit c
      return ((s, digits), c)

/-! ### Whole numbers -/

def value (radix : Nat) (digits : List Char) : Nat :=
  digits.foldl (fun n d => n * radix + (Text.hexValue? d).getD 0) 0

def isDigitOf (radix : Nat) (c : Char) : Bool :=
  match Text.hexValue? c with
  | some n => n < radix
  | none => false

def readRadix (radix : Nat) (label : String) (c : Cursor) : Except Failure (Int × Cursor) := do
  let (digits, after) ← labelled label (cut (readRun (isDigitOf radix) (c.skip 2)))
  let n := value radix digits
  if n < Nat.pow 2 63 then return (n, after)
  else throw { offset := c.offset, final := true, cause := some .tooLarge }

def readInteger (c : Cursor) : Except Failure (Int × Cursor) :=
  if c.startsWith ['0', 'x'] then readRadix 16 "hexadecimal integer" c
  else if c.startsWith ['0', 'o'] then readRadix 8 "octal integer" c
  else if c.startsWith ['0', 'b'] then readRadix 2 "binary integer" c
  else do
    let ((s, digits), after) ← readDecimal c
    let n := value 10 digits
    let tooFar (cause : Cause) : Except Failure (Int × Cursor) :=
      throw { offset := c.offset, final := true, cause := some cause }
    if s = some '-' then
      if n ≤ Nat.pow 2 63 then return (-(n : Int), after) else tooFar .tooSmall
    else if n < Nat.pow 2 63 then return (n, after)
    else tooFar .tooLarge

/-! ### Floating-point numbers -/

def readExponent (c : Cursor) : Except Failure (Int × Cursor) := do
  let (s, c) := sign c.advance
  let (digits, c) ← cut (readRun Char.isDigit c)
  let n := value 10 digits
  return (if s = some '-' then -(n : Int) else n, c)

def startsExponent (c : Cursor) : Bool := c.next? = some 'e' || c.next? = some 'E'

def readDigitsFloat (c : Cursor) : Except Failure (Float × Cursor) := do
  let ((s, whole), after) ← readDecimal c
  let (fraction, after) ←
    if after.next? = some '.' then cut (expecting ["digit"] (readRun Char.isDigit after.advance))
    else if startsExponent after then pure ([], after)
    else after.refuse
  let (exponent, after) ← if startsExponent after then readExponent after else pure (0, after)
  let size := Decimal.nearestFloat (value 10 (whole ++ fraction)) (exponent - fraction.length)
  let x := if s = some '-' then -size else size
  if x == 1.0 / 0.0 then throw { offset := c.offset, final := true }
  return (x, after)

def readNamedFloat (c : Cursor) : Except Failure (Float × Cursor) :=
  let (s, c) := sign c
  let named (x : Float) : Except Failure (Float × Cursor) :=
    .ok (if s = some '-' then -x else x, c.skip 3)
  if c.startsWith ['i', 'n', 'f'] then named (1.0 / 0.0)
  else if c.startsWith ['n', 'a', 'n'] then named (0.0 / 0.0)
  else c.refuse

def readFloat (c : Cursor) : Except Failure (Float × Cursor) :=
  labelled "floating-point number" <|
    match readDigitsFloat c with
    | .error f => if f.final then .error f else readNamedFloat c
    | found => found

end StudyPlan.Toml.NumberText
