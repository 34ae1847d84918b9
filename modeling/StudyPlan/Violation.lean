import StudyPlan.SchemaPath

/-! What is wrong with a document, and where. A violation names a place and says
in one sentence what is wrong there; most also name the broken rule. -/
namespace StudyPlan

structure BrokenRule where
  rule : String
  expected : String
  actual : String
  deriving DecidableEq, Repr

structure Violation where
  path : String
  message : String
  broken : Option BrokenRule
  deriving DecidableEq, Repr

def BrokenRule.text (b : BrokenRule) : String :=
  "Rule '" ++ b.rule ++ "' violated: expected " ++ b.expected ++ ", but found " ++ b.actual

namespace Violation

def text (v : Violation) : String :=
  "Schema violation at '" ++ v.path ++ "': " ++ v.message ++
    match v.broken with
    | none => ""
    | some b => "\n  - " ++ b.text

def rule (v : Violation) : Option String := v.broken.map BrokenRule.rule

def emptyList (path : SchemaPath) (message item : String) : Violation :=
  ⟨path.text, message, some ⟨"non_empty", "at least one " ++ item, "an empty list"⟩⟩

def structural (formatName detail : String) : Violation :=
  ⟨"$", "invalid " ++ formatName ++ " trial config: " ++ detail,
    some ⟨"structure", "a document matching the trial config schema", detail⟩⟩

def duplicateTrial (name : String) : Violation :=
  ⟨(SchemaPath.root.child name).text, "duplicate trial '" ++ name ++ "'",
    some ⟨"unique_trial_name", "a unique trial name", name⟩⟩

end Violation
end StudyPlan
