import StudyPlan.OrderedMap
import StudyPlan.Schema.Problem

/-! What a document format offers to a schema: readings of strings, flags, lists, maps
and records out of its nodes. A schema is written once, against this interface, and
then reads documents of every format. -/
namespace StudyPlan.Schema

structure Field (Node : Type) (Result : Type → Type) (σ : Type) where
  name : String
  read : Node → Result (σ → σ)

inductive RecordForm where
  | keyed | positional
  deriving DecidableEq, Repr

/-- The reading of a record. `finish` gives the record, or the number of the first
field that is missing. -/
structure Record (Node : Type) (Result : Type → Type) (σ α : Type) where
  name : String
  fields : List (Field Node Result σ)
  refusesUnknown : Bool
  initial : σ
  finish : RecordForm → σ → Except Nat α

namespace Record
variable {Node : Type} {Result : Type → Type} {σ α : Type}

def fieldNames (r : Record Node Result σ α) : List String := r.fields.map (·.name)

def field? (r : Record Node Result σ α) (name : String) : Option (Field Node Result σ) :=
  r.fields.find? (·.name == name)

def expected (r : Record Node Result σ α) : String := "struct " ++ r.name

def tooShort (r : Record Node Result σ α) (missing : Nat) : Problem :=
  let count := r.fields.length
  .invalidLength missing
    (r.expected ++ " with " ++ toString count ++ if count = 1 then " element" else " elements")

def incomplete (r : Record Node Result σ α) (missing : Nat) : Problem :=
  .missingField (r.fieldNames[missing]?.getD "")

end Record

class Format (Node : Type) (Result : outParam (Type → Type)) extends Functor Result where
  string : Node → Result String
  bool : Node → Result Bool
  optional : {α : Type} → (Node → Result α) → Node → Result (Option α)
  list : {α : Type} → (Node → Result α) → Node → Result (List α)
  dictionary : {α : Type} → (Node → Result α) → Node → Result (OrderedMap α)
  record : {σ α : Type} → Record Node Result σ α → Node → Result α

def Field.of {Node σ α : Type} {Result : Type → Type} [Functor Result] (name : String)
    (read : Node → Result α) (store : σ → α → σ) : Field Node Result σ :=
  ⟨name, fun node => (fun x s => store s x) <$> read node⟩

end StudyPlan.Schema
