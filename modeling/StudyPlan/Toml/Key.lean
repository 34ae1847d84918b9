import StudyPlan.Toml.Node
import StudyPlan.Toml.StringText

/-! Keys: a name, bare or quoted, or a path of names with dots between them. -/
namespace StudyPlan.Toml

def depthLimit : Nat := 80

def isBareChar (c : Char) : Bool := c.isAlphanum || c = '-' || c = '_'

def readName (c : Cursor) : Except Failure (String × Cursor) :=
  match c.next? with
  | none => c.refuse
  | some '"' => readBasic c
  | some '\'' => readLiteral c
  | some _ =>
    let (name, after) := c.takeWhile isBareChar
    if name.isEmpty then c.refuse else .ok (String.ofList name, after)

def readStep (c : Cursor) : Except Failure (Key × Cursor) := do
  let c := c.skipBlanks
  let (name, after) ← readName c
  return (⟨name, c.spanTo after⟩, after.skipBlanks)

/-- Read the names of a path; a dot without a name behind it does not belong to it. The number
of names is bounded by `ahead`. -/
def readSteps (ahead : Nat) (c : Cursor) : Except Failure (List Key × Cursor) := do
  let (key, after) ← readStep c
  match ahead with
  | 0 => return ([key], after)
  | ahead + 1 =>
    if after.next? = some '.' then
      match readSteps ahead after.advance with
      | .ok (keys, after) => return (key :: keys, after)
      | .error f => if f.final then throw f else return ([key], after)
    else return ([key], after)

def readKey (c : Cursor) : Except Failure ((List Key × Key) × Cursor) := do
  let (keys, after) ← labelled "key" (readSteps c.rest.length c)
  if depthLimit ≤ keys.length then throw { offset := c.offset, cause := some .tooDeep }
  match keys.getLast? with
  | some key => return ((keys.dropLast, key), after)
  | none => c.refuse

def passEquals (c : Cursor) : Except Failure Cursor :=
  cut (expecting ["\u0060.\u0060", "\u0060=\u0060"] (c.pass '='))

end StudyPlan.Toml
