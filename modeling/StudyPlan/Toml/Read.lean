import StudyPlan.Toml.Document
import StudyPlan.Schema.Format

/-! Reading TOML by a schema. A record is a table with its fields or an array of them in
order; elements beyond them are passed over. A refusal names the text of the smallest node
around it, or else of its key. -/
namespace StudyPlan.Toml
open Schema (Problem Found Record Field Format)

structure Mismatch where
  span : Option Span
  problem : Problem
  deriving DecidableEq, Repr

namespace Mismatch

def placed (span : Option Span) (m : Mismatch) : Mismatch := { m with span := m.span <|> span }

end Mismatch

namespace Node

def found : Node → Found
  | leaf _ (.string s) => .string s
  | leaf _ (.integer n) => .integer n
  | leaf _ (.float x) => .float x
  | leaf _ (.bool b) => .bool b
  | leaf _ .moment => .map
  | array .. => .sequence
  | tables _ => .sequence
  | braced _ => .map
  | table _ => .map

def mismatch {α : Type} (node : Node) (problem : Problem) : Except Mismatch α :=
  .error ⟨node.span?, problem⟩

def unexpected {α : Type} (node : Node) (expected : String) : Except Mismatch α :=
  node.mismatch (.invalidType node.found expected)

def items? : Node → Option (List Node)
  | array _ items => some items
  | tables items => some (items.map .table)
  | _ => none

def members? : Node → Option (List (Key × Node))
  | braced t => some t.members
  | table t => some t.members
  | leaf _ .moment => some []
  | _ => none

variable {σ α : Type}

def readString : Node → Except Mismatch String
  | leaf _ (.string s) => .ok s
  | node => node.unexpected "a string"

def readBool : Node → Except Mismatch Bool
  | leaf _ (.bool b) => .ok b
  | node => node.unexpected "a boolean"

def readOptional (read : Node → Except Mismatch α) (node : Node) : Except Mismatch (Option α) :=
  (read node).map some

def readList (read : Node → Except Mismatch α) (node : Node) : Except Mismatch (List α) :=
  match node.items? with
  | some items => items.mapM read
  | none => node.unexpected "a sequence"

def readEntries (read : Node → Except Mismatch α) (before : OrderedMap α) :
    List (Key × Node) → Except Mismatch (OrderedMap α)
  | [] => .ok before
  | (key, node) :: rest =>
    match (read node).mapError (·.placed key.span) with
    | .error e => .error e
    | .ok x =>
      match before.insert? key.name x with
      | none => .error ⟨key.span, .duplicateKey key.name⟩
      | some m => readEntries read m rest

def readDictionary (read : Node → Except Mismatch α) (node : Node) :
    Except Mismatch (OrderedMap α) :=
  match node.members? with
  | some members => readEntries read .empty members
  | none => node.unexpected "a map with unique string keys"

def readInOrder (s : σ) : List (Field Node (Except Mismatch) σ) → List Node → Except Mismatch σ
  | f :: fields, node :: rest =>
    match f.read node with
    | .error e => .error e
    | .ok store => readInOrder (store s) fields rest
  | _, _ => .ok s

def readByName (r : Record Node (Except Mismatch) σ α) (s : σ) :
    List (Key × Node) → Except Mismatch σ
  | [] => .ok s
  | (key, node) :: rest =>
    match r.field? key.name with
    | none =>
      if r.refusesUnknown then .error ⟨key.span, .unknownField key.name r.fieldNames⟩
      else readByName r s rest
    | some f =>
      match (f.read node).mapError (·.placed key.span) with
      | .error e => .error e
      | .ok store => readByName r (store s) rest

def readRecord (r : Record Node (Except Mismatch) σ α) (node : Node) : Except Mismatch α :=
  match node.items?, node.members? with
  | some items, _ =>
    match readInOrder r.initial r.fields items with
    | .error e => .error (e.placed node.span?)
    | .ok s =>
      match r.finish .positional s with
      | .ok x => .ok x
      | .error missing => node.mismatch (r.tooShort missing)
  | none, some members =>
    match readByName r r.initial members with
    | .error e => .error (e.placed node.span?)
    | .ok s =>
      match r.finish .keyed s with
      | .ok x => .ok x
      | .error missing => node.mismatch (r.incomplete missing)
  | none, none => node.unexpected r.expected

instance : Format Node (Except Mismatch) where
  string := readString
  bool := readBool
  optional := readOptional
  list := readList
  dictionary := readDictionary
  record := readRecord

end Node

inductive Refusal where
  | failure (f : Failure)
  | mismatch (m : Mismatch)
  deriving DecidableEq, Repr

def Refusal.text (source : String) : Refusal → String
  | failure f => f.text source
  | mismatch ⟨some span, problem⟩ => report source span (problem.text .plain)
  | mismatch ⟨none, problem⟩ => problem.text .plain ++ "\n"

def readText {α : Type} (read : Node → Except Mismatch α) (text : String) : Except Refusal α :=
  match readDocument text with
  | .error f => .error (.failure f)
  | .ok t => (read (.table t)).mapError .mismatch

end StudyPlan.Toml
