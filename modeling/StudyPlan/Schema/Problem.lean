import StudyPlan.Decimal.Style
import StudyPlan.Text.Quoted

/-! What is wrong with a well-formed document that does not fit its schema. The
wording of two values, nothing and floating-point numbers, follows the format of
the document. -/
namespace StudyPlan.Schema

inductive Found where
  | null
  | bool (b : Bool)
  | integer (n : Int)
  | wide (n : Int) (width : String)
  | float (x : Binary64)
  | string (s : String)
  | sequence
  | map
  deriving DecidableEq, Repr

inductive Problem where
  | invalidType (found : Found) (expected : String)
  | invalidValue (found : Found) (expected : String)
  | invalidLength (n : Nat) (expected : String)
  | unknownField (name : String) (known : List String)
  | duplicateField (name : String)
  | missingField (name : String)
  | duplicateKey (key : String)
  deriving DecidableEq, Repr

structure Wording where
  null : String
  float : Decimal.Style

namespace Wording

def json : Wording := ⟨"null", .json⟩

def plain : Wording := ⟨"unit value", .plain⟩

end Wording

def ticked (s : String) : String := "`" ++ s ++ "`"

def Found.text (w : Wording) : Found → String
  | null => w.null
  | bool b => "boolean " ++ ticked (if b then "true" else "false")
  | integer n => "integer " ++ ticked (toString n)
  | wide n width => "integer " ++ ticked (toString n) ++ " as " ++ width
  | float x => "floating point " ++ ticked (w.float.write x)
  | string s => "string " ++ Text.Quoted.encode s
  | sequence => "sequence"
  | map => "map"

def knownFields : List String → String
  | [] => "there are no fields"
  | [a] => "expected " ++ ticked a
  | [a, b] => "expected " ++ ticked a ++ " or " ++ ticked b
  | names => "expected one of " ++ ", ".intercalate (names.map ticked)

def Problem.text (w : Wording) : Problem → String
  | invalidType found expected => "invalid type: " ++ found.text w ++ ", expected " ++ expected
  | invalidValue found expected => "invalid value: " ++ found.text w ++ ", expected " ++ expected
  | invalidLength n expected => "invalid length " ++ toString n ++ ", expected " ++ expected
  | unknownField name known => "unknown field " ++ ticked name ++ ", " ++ knownFields known
  | duplicateField name => "duplicate field " ++ ticked name
  | missingField name => "missing field " ++ ticked name
  | duplicateKey key => "duplicate key '" ++ key ++ "'"

end StudyPlan.Schema
