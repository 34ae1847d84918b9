import StudyPlan.Toml.Value

/-! Documents: lines with a key and a value, and headers that say which table the lines
below them belong to. -/
namespace StudyPlan.Toml

inductive HeaderKind where
  | single | listed
  deriving DecidableEq, Repr

structure Header where
  kind : HeaderKind
  path : List Key
  key : Key
  span : Span

structure Draft where
  root : Table
  header : Option Header
  current : Table

namespace Draft

def empty : Draft := ⟨default, none, ⟨some ⟨0, 0⟩, .written, []⟩⟩

def home (d : Draft) : List String :=
  match d.header with
  | none => []
  | some h => h.path.map (·.name) ++ [h.key.name]

def define (d : Draft) (path : List Key) (key : Key) (value : Node) : Except Cause Draft := do
  let span := match d.current.span, value.span? with
    | some s, some v => some ⟨s.start, v.stop⟩
    | s, _ => s
  let current ← { d.current with span }.define false (some d.home) path key value
  return { d with current }

def close (d : Draft) : Except Cause Table :=
  match d.header with
  | none => return d.current
  | some h =>
    let put (t : Table) : Except Cause Table :=
      match h.kind, t.member? h.key.name with
      | .listed, some (.tables items) =>
        return t.replace h.key.name (.tables (items ++ [d.current]))
      | .listed, _ => return t.push h.key (.tables [d.current])
      | .single, _ => return t.push h.key (.table d.current)
    d.root.alter false .implied put [] h.path

def duplicate (h : Header) : Cause := .duplicateKey h.key.name (some (h.path.map (·.name)))

/-- Go on with the table of a header. A table that so far only stood on the way to others keeps
what it holds. -/
def enter (d : Draft) (h : Header) : Except Cause Draft := do
  let root ← d.close
  let fresh : Table := ⟨some h.span, .written, []⟩
  match h.kind with
  | .listed =>
    let check (t : Table) : Except Cause Table :=
      match t.member? h.key.name with
      | none => return t
      | some (.tables _) => return t
      | some _ => throw (duplicate h)
    return ⟨← root.alter false .implied check [] h.path, some h, fresh⟩
  | .single =>
    let check (t : Table) : Except Cause Table :=
      match t.member? h.key.name with
      | none => return t
      | some (.table held) => if held.origin = .implied then return t else throw (duplicate h)
      | some _ => throw (duplicate h)
    let root ← root.alter false .implied check [] h.path
    let take (t : Table) : Except Cause Table := return t.remove h.key.name
    return ⟨← root.alter false .implied take [] h.path, some h,
      { fresh with members := (root.heldAt h.path h.key.name).getD [] }⟩

end Draft

def passLine (c : Cursor) : Except Failure Cursor :=
  let c := c.skipBlanks.skipComment
  match c.pastLine? with
  | some after => .ok after
  | none => expecting ["newline", "\u0060#\u0060"] (cut c.refuse)

def applied (start : Cursor) (r : Except Cause Draft) : Except Failure Draft :=
  r.mapError fun cause => { offset := start.offset, final := true, cause := some cause }

def readAssignment (d : Draft) (c : Cursor) : Except Failure (Draft × Cursor) := do
  let ((path, key), after) ← readKey c
  let after ← passEquals after
  let (value, after) ← readValue (depthLimit - 1) after.skipBlanks
  let after ← passLine after
  return (← applied c (d.define path key value), after)

def readHeader (d : Draft) (c : Cursor) : Except Failure (Draft × Cursor) :=
  labelled "table header" <|
    if c.rest.length < 2 then c.refuse
    else do
      let kind := if c.startsWith ['[', '['] then HeaderKind.listed else .single
      let closing := match kind with
        | .listed => "]]"
        | .single => "]"
      let ((path, key), after) ← readKey (c.skip closing.length)
      if !after.startsWith closing.toList then
        expecting ["\u0060.\u0060", "\u0060" ++ closing ++ "\u0060"] after.refuse
      let stop := after.skip closing.length
      let after ← passLine stop
      return (← applied c (d.enter ⟨kind, path, key, c.spanTo stop⟩), after)

def readLinesOf (ahead : Nat) (d : Draft) (c : Cursor) : Except Failure Draft :=
  let c := c.skipBlanks
  match ahead, c.next? with
  | ahead + 1, some x =>
    if x = '#' then
      match c.skipComment.pastLine? with
      | some after => readLinesOf ahead d after
      | none => c.skipComment.refuse
    else if x = '\n' || x = '\r' then
      match c.pastBreak? with
      | some after => readLinesOf ahead d after
      | none => c.refuse
    else
      match if x = '[' then readHeader d c else readAssignment d c with
      | .ok (d, after) => readLinesOf ahead d after
      | .error f => .error f
  | _, _ => .ok d

def readDocument (text : String) : Except Failure Table := do
  let c := Cursor.ofString text
  let d ← readLinesOf (c.rest.length + 1) .empty c
  d.close.mapError fun cause => { offset := 0, cause := some cause }

end StudyPlan.Toml
