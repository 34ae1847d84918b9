import StudyPlan.Toml.Failure

/-! Dates, times of day and both together. Only their shape and range matter here: no
schema asks for one. -/
namespace StudyPlan.Toml.Moment

def digitsValue (digits : List Char) : Nat :=
  digits.foldl (fun n d => n * 10 + (d.toNat - '0'.toNat)) 0

def readDigits (width : Nat) (c : Cursor) : Except Failure (Nat × Cursor) :=
  let digits := (c.rest.take width).takeWhile Char.isDigit
  if digits.length = width then .ok (digitsValue digits, c.skip width) else c.refuse

def readPart (least most : Nat) (c : Cursor) : Except Failure (Nat × Cursor) := do
  let (n, after) ← readDigits 2 c
  if least ≤ n ∧ n ≤ most then return (n, after)
  else throw { offset := c.offset, cause := some .outOfRange }

def isLeapYear (year : Nat) : Bool := year % 4 = 0 && (year % 100 ≠ 0 || year % 400 = 0)

def daysIn (year month : Nat) : Nat :=
  if month = 2 then if isLeapYear year then 29 else 28
  else if month = 4 || month = 6 || month = 9 || month = 11 then 30
  else 31

def readDate (c : Cursor) : Except Failure Cursor := do
  let (year, c) ← readDigits 4 c
  let c ← c.pass '-'
  cut do
    let (month, c) ← readPart 1 12 c
    let c ← c.pass '-'
    let (day, after) ← readPart 1 31 c
    if day ≤ daysIn year month then return after
    else throw { offset := c.offset, cause := some .outOfRange }

def skipFraction (c : Cursor) : Cursor :=
  if c.next? = some '.' then
    let (digits, after) := c.advance.takeWhile Char.isDigit
    if digits.isEmpty then c else after
  else c

def readTime (c : Cursor) : Except Failure Cursor := do
  let (_, c) ← readPart 0 23 c
  let c ← c.pass ':'
  cut do
    let (_, c) ← readPart 0 59 c
    let c ← c.pass ':'
    let (_, c) ← readPart 0 60 c
    return skipFraction c

def readOffset (c : Cursor) : Except Failure Cursor :=
  match c.next? with
  | some 'Z' => .ok c.advance
  | some 'z' => .ok c.advance
  | some sign =>
    if sign = '+' || sign = '-' then
      labelled "time offset" <| cut do
        let (_, c) ← readPart 0 23 c.advance
        let c ← c.pass ':'
        let (_, c) ← readPart 0 59 c
        return c
    else .ok c
  | none => .ok c

def readTimeOfDate (c : Cursor) : Except Failure Cursor :=
  if c.next? = some 'T' || c.next? = some 't' || c.next? = some ' ' then
    match readTime c.advance with
    | .ok after => readOffset after
    | .error f => if f.final then .error f else .ok c
  else .ok c

def read (c : Cursor) : Except Failure Cursor :=
  match labelled "date-time" (readDate c >>= readTimeOfDate) with
  | .error f => if f.final then .error f else labelled "time" (readTime c)
  | ok => ok

end StudyPlan.Toml.Moment
