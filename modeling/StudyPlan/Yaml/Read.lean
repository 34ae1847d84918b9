import StudyPlan.Yaml.Document
import StudyPlan.Yaml.Implied
import StudyPlan.Schema.Format

/-! Reading YAML documents by a schema. A scalar of any spelling is a string where one
is wanted; an empty plain scalar is an empty list, map or record; records are maps.
Refusals name the way to the value and its place. Aliases may be followed only so
often, as the same node can be reached in ever more ways. -/
namespace StudyPlan.Yaml
open Schema (Problem Found Record Field Format)

structure Route where
  text : Option String
  deriving DecidableEq, Repr

namespace Route

def root : Route := ⟨none⟩

def display (r : Route) : String := r.text.getD "."

def index (r : Route) (i : Nat) : Route := ⟨some (r.display ++ "[" ++ toString i ++ "]")⟩

def member (r : Route) (key : String) : Route :=
  ⟨some ((match r.text with
    | none => ""
    | some s => s ++ ".") ++ key)⟩

end Route

inductive Refusal where
  | trouble (t : Trouble)
  | repetition
  | manyDocuments
  | problem (p : Problem) (spot : Option (Route × Mark))
  deriving DecidableEq, Repr

namespace Refusal

def text : Refusal → String
  | trouble t => t.text
  | repetition => "repetition limit exceeded"
  | manyDocuments =>
    "deserializing from YAML containing more than one document is not supported"
  | problem p none => p.text .plain
  | problem p (some (route, mark)) =>
    (match route.text with
      | none => ""
      | some s => s ++ ": ") ++ p.text .plain ++
      if mark.isStart then "" else " at " ++ mark.text

def locate (route : Route) (mark : Mark) : Refusal → Refusal
  | problem p none => problem p (some (route, mark))
  | r => r

end Refusal

structure Setting where
  anchored : List (Nat × Node)
  trouble : Option Trouble
  limit : Nat

/-- A reading at a route; the number of aliases followed so far goes in and out. -/
abbrev Result (α : Type) := Setting → Route → Nat → Except Refusal (α × Nat)

namespace Result
variable {α β : Type}

def pure (x : α) : Result α := fun _ _ n => .ok (x, n)

def fail (e : Refusal) : Result α := fun _ _ _ => .error e

def bind (r : Result α) (k : α → Result β) : Result β := fun s route n =>
  match r s route n with
  | .error e => .error e
  | .ok (x, n) => k x s route n

def map (f : α → β) (r : Result α) : Result β := r.bind fun x => pure (f x)

def within (step : Route → Route) (r : Result α) : Result α := fun s route n => r s (step route) n

def located (mark : Mark) (r : Result α) : Result α := fun s route n =>
  (r s route n).mapError (·.locate route mark)

def refuse (mark : Mark) (p : Problem) : Result α :=
  (fail (.problem p none) : Result α).located mark

end Result

namespace Node
open Result (located refuse within)
variable {σ α : Type}

def meetCut : Result α := fun s _ _ =>
  .error (.trouble (s.trouble.getD (.failure (.plain "" .start))))

def follow (read : Node → Result α) : Node → Result α
  | .alias _ number => fun s route n =>
    if s.limit < n + 1 then .error .repetition
    else
      match Document.anchored? s.anchored number with
      | some target => read target s route (n + 1)
      | none => meetCut s route n
  | node => read node

def nullTag : String := "tag:yaml.org,2002:null"

def boolTag : String := "tag:yaml.org,2002:bool"

def integerTag : String := "tag:yaml.org,2002:int"

def floatTag : String := "tag:yaml.org,2002:float"

def impliedFound (s : String) : Found :=
  match Implied.of s with
  | .null => .null
  | .bool b => .bool b
  | .integer n => .integer n
  | .wide n width => .wide n width
  | .float x => .float x
  | .text => .string s

/-- The problem of a scalar where something else was expected; a scalar that does not
fit its own tag is wrong in itself. -/
def scalarProblem (s : Scalar) (expected : String) : Problem :=
  let checked (found : Option Found) (kind : String) : Problem :=
    match found with
    | some f => .invalidType f expected
    | none => .invalidValue (.string s.text) kind
  let byText : Problem := .invalidType (.string s.text) expected
  let byStyle : Problem :=
    if s.style = .plain then .invalidType (impliedFound s.text) expected else byText
  match s.tag with
  | none => byStyle
  | some tag =>
    if tag = boolTag then checked ((Implied.bool? s.text).map .bool) "a boolean"
    else if tag = integerTag then
      checked (match Implied.integer? s.text.toList with
        | some (.integer n) => some (.integer n)
        | some (.wide n width) => some (.wide n width)
        | _ => none) "an integer"
    else if tag = floatTag then
      checked ((Implied.float? s.text.toList).map fun x => .float (.ofFloat x)) "a float"
    else if tag = nullTag then checked (if Implied.isNull s.text then some .null else none) "null"
    else if tag.startsWith "!" then byStyle
    else byText

def unexpected (expected : String) : Node → Result α
  | .cut => meetCut
  | .alias .. => meetCut
  | .scalar m _ s => refuse m (scalarProblem s expected)
  | .sequence m _ _ => refuse m (.invalidType .sequence expected)
  | .mapping m _ _ => refuse m (.invalidType .map expected)

def isEmptyPlain (s : Scalar) : Bool := s.text.isEmpty && s.style = .plain

def readText (expected : String) : Node → Result String :=
  follow fun
    | .scalar _ _ s => .pure s.text
    | node => node.unexpected expected

def readString : Node → Result String := readText "a string"

def isFlagScalar (s : Scalar) : Bool :=
  s.style = .plain || (s.style = .literal && s.tag = some boolTag)

def readBool : Node → Result Bool :=
  follow fun
    | .scalar m anchor s =>
      match (if isFlagScalar s then Implied.bool? s.text else none) with
      | some b => .pure b
      | none => unexpected "a boolean" (.scalar m anchor s)
    | node => node.unexpected "a boolean"

def saysNothing (s : Scalar) : Except Problem Bool :=
  if s.style ≠ .plain then .ok false
  else
    match s.tag with
    | none => .ok (s.text.isEmpty || Implied.isNull s.text)
    | some tag =>
      if tag ≠ nullTag then .ok false
      else if Implied.isNull s.text then .ok true
      else .error (.invalidValue (.string s.text) "null")

def readOptional (read : Node → Result α) : Node → Result (Option α) :=
  follow fun
    | .cut => meetCut
    | .scalar m anchor s =>
      match saysNothing s with
      | .error p => .fail (.problem p none)
      | .ok true => .pure none
      | .ok false => (read (.scalar m anchor s)).map some
    | node => (read node).map some

def readItems (read : Node → Result α) (i : Nat) : Items → Result (List α)
  | .close => .pure []
  | .item .cut _ => meetCut
  | .item value rest =>
    ((read value).within (·.index i)).bind fun x => (readItems read (i + 1) rest).map (x :: ·)

def readList (read : Node → Result α) : Node → Result (List α) :=
  follow fun
    | .sequence m _ items => (readItems read 0 items).located m
    | .scalar m anchor s =>
      if isEmptyPlain s then .pure [] else unexpected "a sequence" (.scalar m anchor s)
    | node => node.unexpected "a sequence"

def keyStep : Node → Route → Route
  | .scalar _ _ s => (·.member s.text)
  | _ => (·.member "?")

def readEntries (read : Node → Result α) (before : OrderedMap α) :
    Members → Result (OrderedMap α)
  | .close => .pure before
  | .member key value rest =>
    (readString key).bind fun name =>
      ((read value).within (keyStep key)).bind fun x =>
        match before.insert? name x with
        | none => .fail (.problem (.duplicateKey name) none)
        | some m => readEntries read m rest

def readDictionary (read : Node → Result α) : Node → Result (OrderedMap α) :=
  follow fun
    | .mapping m _ members => (readEntries read .empty members).located m
    | .scalar m anchor s =>
      if isEmptyPlain s then .pure .empty
      else unexpected "a map with unique string keys" (.scalar m anchor s)
    | node => node.unexpected "a map with unique string keys"

mutual

def isCut : Node → Bool
  | .cut => true
  | .scalar .. => false
  | .alias .. => false
  | .sequence _ _ items => itemsCut items
  | .mapping _ _ members => membersCut members

def itemsCut : Items → Bool
  | .close => false
  | .item value rest => isCut value || itemsCut rest

def membersCut : Members → Bool
  | .close => false
  | .member key value rest => isCut key || isCut value || membersCut rest

end

def readFieldName (r : Record Node Result σ α) : Node → Result String :=
  follow fun
    | .scalar m _ s =>
      if (r.field? s.text).isNone && r.refusesUnknown then
        refuse m (.unknownField s.text r.fieldNames)
      else .pure s.text
    | node => node.unexpected "field identifier"

def readFields (r : Record Node Result σ α) (seen : List String) (state : σ) :
    Members → Result σ
  | .close => .pure state
  | .member key value rest =>
    (readFieldName r key).bind fun name =>
      match r.field? name with
      | none => if value.isCut then meetCut else readFields r seen state rest
      | some f =>
        if seen.contains name then .fail (.problem (.duplicateField name) none)
        else
          ((f.read value).within (keyStep key)).bind fun store =>
            readFields r (name :: seen) (store state) rest

def finishRecord (r : Record Node Result σ α) (state : σ) : Result α :=
  match r.finish .keyed state with
  | .ok x => .pure x
  | .error missing => .fail (.problem (r.incomplete missing) none)

def readRecord (r : Record Node Result σ α) : Node → Result α :=
  follow fun
    | .mapping m _ members =>
      ((readFields r [] r.initial members).bind (finishRecord r)).located m
    | .scalar m anchor s =>
      if isEmptyPlain s then (finishRecord r r.initial).located m
      else unexpected r.expected (.scalar m anchor s)
    | node => node.unexpected r.expected

instance : Format Node Result where
  map := Result.map
  string := readString
  bool := readBool
  optional := readOptional
  list := readList
  dictionary := readDictionary
  record := readRecord

end Node

def readText {α : Type} (read : Node → Result α) (text : String) : Except Refusal α :=
  let d := Document.ofString text
  let root := d.root.getD (Node.empty .start)
  match read root ⟨root.anchored, d.trouble, root.size * 100⟩ .root 0 with
  | .error e => .error e
  | .ok (x, _) =>
    match d.trouble with
    | some t => .error (.trouble t)
    | none => if d.followed then .error .manyDocuments else .ok x

end StudyPlan.Yaml
