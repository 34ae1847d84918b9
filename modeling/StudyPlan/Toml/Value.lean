import StudyPlan.Toml.Key
import StudyPlan.Toml.Moment
import StudyPlan.Toml.NumberText

/-! Values. Inside brackets and braces a value or key that cannot be read ends the list in
front of it, unless its failure is final. -/
namespace StudyPlan.Toml

/-- Move past blanks, comments and line breaks; `ahead` bounds the number of lines. A comment
has to end in a line break here. -/
def skipLines (ahead : Nat) (c : Cursor) : Except Failure Cursor :=
  let c := c.skipBlanks
  match ahead, c.next? with
  | ahead + 1, some x =>
    if x = '#' then
      match c.skipComment.pastBreak? with
      | some after => skipLines ahead after
      | none => c.skipComment.refuse
    else if x = '\n' || x = '\r' then
      match c.pastBreak? with
      | some after => skipLines ahead after
      | none => c.refuse
    else .ok c
  | _, _ => .ok c

def skipAllLines (c : Cursor) : Except Failure Cursor := skipLines c.rest.length c

def leafAt (c : Cursor) (value : Leaf) (after : Cursor) : Node × Cursor :=
  (.leaf (c.spanTo after) value, after)

def readDigitsValue (c : Cursor) : Except Failure (Node × Cursor) :=
  match Moment.read c with
  | .ok after => .ok (leafAt c .moment after)
  | .error f =>
    if f.final then .error f
    else
      match NumberText.readFloat c with
      | .ok (x, after) => .ok (leafAt c (.float (.ofFloat x)) after)
      | .error f =>
        if f.final then .error f
        else
          match NumberText.readInteger c with
          | .ok (n, after) => .ok (leafAt c (.integer n) after)
          | .error f => .error f

def readWord (c : Cursor) (word : String) (value : Leaf) (final : Bool) :
    Except Failure (Node × Cursor) :=
  if c.startsWith word.toList then .ok (leafAt c value (c.skip word.length))
  else
    .error { offset := c.offset, final, label := some "string",
             expected := ["\u0060\"\u0060", "\u0060'\u0060"] }

def readScalar (c : Cursor) : Except Failure (Node × Cursor) :=
  match c.next? with
  | none => c.refuse
  | some x =>
    if x = '"' || x = '\'' then do
      let (s, after) ← readString c
      return leafAt c (.string s) after
    else if x = '+' || x = '-' || x.isDigit then readDigitsValue c
    else if x = '_' then do
      let (n, after) ← expecting ["leading digit"] (NumberText.readInteger c)
      return leafAt c (.integer n) after
    else if x = '.' then do
      let (y, after) ← expecting ["leading digit"] (NumberText.readFloat c)
      return leafAt c (.float (.ofFloat y)) after
    else if x = 't' then readWord c "true" (.bool true) true
    else if x = 'f' then readWord c "false" (.bool false) true
    else if x = 'i' then readWord c "inf" (.float (.ofFloat (1.0 / 0.0))) false
    else readWord c "nan" (.float (.ofFloat (0.0 / 0.0))) false

def close (x : Char) (label : String) (c : Cursor) : Except Failure Cursor :=
  cut (expecting ["\u0060" ++ x.toString ++ "\u0060"] (labelled label (c.pass x)))

def bracedTable (pairs : List ((List Key × Key) × Node)) : Except Cause Table :=
  pairs.foldlM (fun t ((path, key), value) => t.define true none path key value)
    ⟨none, .written, []⟩

def tooDeep (c : Cursor) : Failure := { offset := c.offset, final := true, cause := some .tooDeep }

mutual

def readValue (depth : Nat) (c : Cursor) : Except Failure (Node × Cursor) :=
  match c.next? with
  | some '[' =>
    match depth with
    | 0 => .error (tooDeep c)
    | depth + 1 => do
      let inside := c.advance
      let (items, last) ← cut <|
        if inside.next? = some ']' then .ok ([], inside)
        else do
          let (items, c) ← readItems depth inside.rest.length inside
          let c := if c.next? = some ',' then c.advance else c
          return (items, ← skipAllLines c)
      let after ← close ']' "array" last
      return (.array (c.spanTo after) items, after)
  | some '{' =>
    match depth with
    | 0 => .error (tooDeep c)
    | depth + 1 => do
      let inside := c.advance
      let (pairs, last) ← cut (readPairs depth inside.rest.length inside)
      match bracedTable pairs with
      | .error cause => throw { offset := inside.offset, final := true, cause := some cause }
      | .ok t =>
        let after ← close '}' "inline table" last.skipBlanks
        return (.braced { t with span := some (c.spanTo after) }, after)
  | _ => readScalar c
termination_by (depth, 0)

def readItems (depth ahead : Nat) (c : Cursor) : Except Failure (List Node × Cursor) :=
  let item : Except Failure (Node × Cursor) := do
    let start ← skipAllLines c
    let (node, after) ← readValue depth start
    return (node, ← skipAllLines after)
  match item with
  | .error f => if f.final then .error f else .ok ([], c)
  | .ok (node, after) =>
    match ahead with
    | 0 => .ok ([node], after)
    | ahead + 1 =>
      if after.next? = some ',' then
        match readItems depth ahead after.advance with
        | .error f => .error f
        | .ok ([], _) => .ok ([node], after)
        | .ok (nodes, after) => .ok (node :: nodes, after)
      else .ok ([node], after)
termination_by (depth, ahead + 1)

def readPairs (depth ahead : Nat) (c : Cursor) :
    Except Failure (List ((List Key × Key) × Node) × Cursor) :=
  match readKey c with
  | .error f => if f.final then .error f else .ok ([], c)
  | .ok (key, after) => do
    let (node, after) ← cut do
      let c ← passEquals after
      readValue depth c.skipBlanks
    let after := after.skipBlanks
    match ahead with
    | 0 => return ([(key, node)], after)
    | ahead + 1 =>
      if after.next? = some ',' then
        match readPairs depth ahead after.advance with
        | .error f => throw f
        | .ok ([], _) => return ([(key, node)], after)
        | .ok (pairs, after) => return ((key, node) :: pairs, after)
      else return ([(key, node)], after)
termination_by (depth, ahead + 1)

end

end StudyPlan.Toml
