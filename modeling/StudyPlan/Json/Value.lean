import StudyPlan.Decimal.Binary64

/-! JSON values. Objects keep the order of their members; whole numbers and
floating-point numbers are different values. -/
namespace StudyPlan.Json

inductive Number where
  | whole (n : Int)
  | float (x : Binary64)
  deriving DecidableEq, Repr

inductive Value where
  | null
  | bool (b : Bool)
  | number (n : Number)
  | string (s : String)
  | array (items : List Value)
  | object (members : List (String × Value))
  deriving Repr, Inhabited, BEq

namespace Value

def natural (n : Nat) : Value := .number (.whole n)

def strings (texts : List String) : Value := .array (texts.map .string)

def optionalMember {α : Type} (name : String) (encode : α → Value) :
    Option α → List (String × Value)
  | none => []
  | some x => [(name, encode x)]

def setMember (key : String) (value : Value) : List (String × Value) → List (String × Value)
  | [] => [(key, value)]
  | (k, v) :: rest =>
    if k = key then (k, value) :: rest else (k, v) :: setMember key value rest

def setPresent {α : Type} (key : String) (encode : α → Value) (x : Option α)
    (members : List (String × Value)) : List (String × Value) :=
  match x with
  | none => members
  | some x => setMember key (encode x) members

end Value
end StudyPlan.Json
