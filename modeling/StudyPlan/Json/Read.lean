import StudyPlan.Json.Node
import StudyPlan.Schema.Format

/-! Reading JSON by a schema: values, which have no places, and texts, where every
refusal names one. A record is an object with its fields or an array of them in
order. -/
namespace StudyPlan.Json
open Schema (Problem Found Record Field Format)

def Number.found : Number → Found
  | .whole n => .integer n
  | .float x => .float x

namespace Value

def found : Value → Found
  | .null => .null
  | .bool b => .bool b
  | .number n => n.found
  | .string s => .string s
  | .array _ => .sequence
  | .object _ => .map

def unexpected {α : Type} (v : Value) (expected : String) : Except Problem α :=
  .error (.invalidType v.found expected)

variable {σ α : Type}

def readString : Value → Except Problem String
  | .string s => .ok s
  | v => v.unexpected "a string"

def readBool : Value → Except Problem Bool
  | .bool b => .ok b
  | v => v.unexpected "a boolean"

def readOptional (read : Value → Except Problem α) : Value → Except Problem (Option α)
  | .null => .ok none
  | v => (read v).map some

def readItems (read : Value → Except Problem α) : List Value → Except Problem (List α)
  | [] => .ok []
  | v :: rest =>
    match read v with
    | .error e => .error e
    | .ok x => (readItems read rest).map (x :: ·)

def readList (read : Value → Except Problem α) : Value → Except Problem (List α)
  | .array items => readItems read items
  | v => v.unexpected "a sequence"

def readEntries (read : Value → Except Problem α) (before : OrderedMap α) :
    List (String × Value) → Except Problem (OrderedMap α)
  | [] => .ok before
  | (key, v) :: rest =>
    match read v with
    | .error e => .error e
    | .ok x =>
      match before.insert? key x with
      | none => .error (.duplicateKey key)
      | some m => readEntries read m rest

def readDictionary (read : Value → Except Problem α) : Value → Except Problem (OrderedMap α)
  | .object members => readEntries read .empty members
  | v => v.unexpected "a map with unique string keys"

def readInOrder (s : σ) : List (Field Value (Except Problem) σ) → List Value →
    Except Problem (σ × Nat)
  | [], values => .ok (s, values.length)
  | _ :: _, [] => .ok (s, 0)
  | f :: fields, v :: rest =>
    match f.read v with
    | .error e => .error e
    | .ok store => readInOrder (store s) fields rest

def readByName (r : Record Value (Except Problem) σ α) (seen : List String) (s : σ) :
    List (String × Value) → Except Problem σ
  | [] => .ok s
  | (key, v) :: rest =>
    match r.field? key with
    | none =>
      if r.refusesUnknown then .error (.unknownField key r.fieldNames)
      else readByName r seen s rest
    | some f =>
      if seen.contains key then .error (.duplicateField key)
      else
        match f.read v with
        | .error e => .error e
        | .ok store => readByName r (key :: seen) (store s) rest

def readRecord (r : Record Value (Except Problem) σ α) : Value → Except Problem α
  | .array items =>
    match readInOrder r.initial r.fields items with
    | .error e => .error e
    | .ok (s, left) =>
      match r.finish .positional s with
      | .error missing => .error (r.tooShort missing)
      | .ok x =>
        if left = 0 then .ok x
        else .error (.invalidLength items.length "fewer elements in array")
  | .object members =>
    match readByName r [] r.initial members with
    | .error e => .error e
    | .ok s => (r.finish .keyed s).mapError r.incomplete
  | v => v.unexpected r.expected

instance : Format Value (Except Problem) where
  string := readString
  bool := readBool
  optional := readOptional
  list := readList
  dictionary := readDictionary
  record := readRecord

end Value

inductive Refusal where
  | flaw (flaw : Flaw)
  | problem (problem : Problem) (place : Place)
  deriving DecidableEq, Repr

namespace Refusal

def place : Refusal → Place
  | flaw f => f.place
  | problem _ p => p

def message : Refusal → String
  | flaw f => f.kind.text
  | problem p _ => p.text .json

def text (r : Refusal) : String :=
  r.message ++ " at line " ++ toString r.place.line ++ " column " ++ toString r.place.column

end Refusal

namespace Cursor

/-- Where a reader that gives up an object stops: behind its brace if that comes next. -/
def leaveObject (c : Cursor) : Place :=
  let c := c.skip
  if c.next? = some '\x7d' then c.advance.place else c.place

def leaveArray (c : Cursor) : Place :=
  let c := c.skip
  match c.next? with
  | some ']' => c.advance.place
  | some ',' => c.advance.skip.place
  | _ => c.place

def closeArray (c : Cursor) : Except Flaw Unit :=
  let c := c.skip
  match c.next? with
  | some ']' => .ok ()
  | some ',' =>
    let c := c.advance.skip
    if c.next? = some ']' then .error ⟨.trailingComma, c.refusal⟩
    else .error (Node.flawAt c .endInList .trailingText)
  | _ => .error (Node.flawAt c .endInList .trailingText)

end Cursor

namespace Node

def scalarFound : Scalar → Found
  | .null => .null
  | .bool b => .bool b
  | .number n => n.found
  | .string s => .string s

def unexpected {α : Type} (node : Node) (expected : String) : Except Refusal α :=
  match node with
  | .absent flaw => .error (.flaw flaw)
  | .scalar (.error flaw) _ _ => .error (.flaw flaw)
  | .scalar (.ok s) _ behind => .error (.problem (.invalidType (scalarFound s) expected) behind)
  | .array start _ _ => .error (.problem (.invalidType .sequence expected) start)
  | .object start _ _ => .error (.problem (.invalidType .map expected) start)

variable {σ α : Type}

def readString : Node → Except Refusal String
  | .scalar (.ok (.string s)) _ _ => .ok s
  | node => node.unexpected "a string"

def readBool : Node → Except Refusal Bool
  | .scalar (.ok (.bool b)) _ _ => .ok b
  | node => node.unexpected "a boolean"

def readOptional (read : Node → Except Refusal α) : Node → Except Refusal (Option α)
  | .scalar (.ok .null) _ _ => .ok none
  | node => (read node).map some

def readEach (read : Node → Except Refusal α) : Items → Except Refusal (List α)
  | .close => .ok []
  | .broken flaw _ => .error (.flaw flaw)
  | .item value _ rest =>
    match read value with
    | .error e => .error e
    | .ok x => (readEach read rest).map (x :: ·)

def readList (read : Node → Except Refusal α) : Node → Except Refusal (List α)
  | .array _ _ items => readEach read items
  | node => node.unexpected "a sequence"

def readEntries (read : Node → Except Refusal α) (before : OrderedMap α) :
    Members → Except Refusal (OrderedMap α)
  | .close => .ok before
  | .broken flaw _ => .error (.flaw flaw)
  | .member (.error flaw) _ _ _ _ => .error (.flaw flaw)
  | .member (.ok key) _ value behind rest =>
    match read value with
    | .error e => .error e
    | .ok x =>
      match before.insert? key x with
      | none => .error (.problem (.duplicateKey key) behind.leaveObject)
      | some m => readEntries read m rest

def readDictionary (read : Node → Except Refusal α) : Node → Except Refusal (OrderedMap α)
  | .object _ _ members => readEntries read .empty members
  | node => node.unexpected "a map with unique string keys"

def readInOrder (s : σ) (c : Cursor) :
    List (Field Node (Except Refusal) σ) → Items → Except Refusal (σ × Cursor × Bool)
  | [], _ => .ok (s, c, true)
  | _ :: _, .close => .ok (s, c, false)
  | _ :: _, .broken flaw _ => .error (.flaw flaw)
  | f :: fields, .item value behind rest =>
    match f.read value with
    | .error e => .error e
    | .ok store => readInOrder (store s) behind fields rest

def readByName (r : Record Node (Except Refusal) σ α) (seen : List String) (s : σ) (c : Cursor) :
    Members → Except Refusal (σ × Cursor)
  | .close => .ok (s, c)
  | .broken flaw _ => .error (.flaw flaw)
  | .member (.error flaw) _ _ _ _ => .error (.flaw flaw)
  | .member (.ok key) behindKey value behind rest =>
    match r.field? key with
    | none =>
      if r.refusesUnknown then
        .error (.problem (.unknownField key r.fieldNames) behindKey.leaveObject)
      else
        match value.skipped? with
        | some flaw => .error (.flaw flaw)
        | none => readByName r seen s behind rest
    | some f =>
      if seen.contains key then
        .error (.problem (.duplicateField key) behindKey.leaveObject)
      else
        match f.read value with
        | .error e => .error e
        | .ok store => readByName r (key :: seen) (store s) behind rest

def readRecord (r : Record Node (Except Refusal) σ α) : Node → Except Refusal α
  | .array _ inside items =>
    match readInOrder r.initial inside r.fields items with
    | .error e => .error e
    | .ok (s, c, complete) =>
      match r.finish .positional s with
      | .error missing => .error (.problem (r.tooShort missing) c.leaveArray)
      | .ok x =>
        if complete then (c.closeArray.mapError .flaw).map fun _ => x else .ok x
  | .object _ inside members =>
    match readByName r [] r.initial inside members with
    | .error e => .error e
    | .ok (s, c) =>
      (r.finish .keyed s).mapError fun missing => .problem (r.incomplete missing) c.leaveObject
  | node => node.unexpected r.expected

instance : Format Node (Except Refusal) where
  string := readString
  bool := readBool
  optional := readOptional
  list := readList
  dictionary := readDictionary
  record := readRecord

def readText (read : Node → Except Refusal α) (text : List Text.Glyph) : Except Refusal α :=
  let (node, behind) := ofGlyphs text
  match read node with
  | .error e => .error e
  | .ok x => ((ending behind).mapError .flaw).map fun _ => x

end Node
end StudyPlan.Json
