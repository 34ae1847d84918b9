import StudyPlan.Violation
import StudyPlan.Json.Printer

/-! The written form of violations; an absent rule is written as nothing. -/
namespace StudyPlan
open Json (Value)

def BrokenRule.toValue (b : BrokenRule) : Value :=
  .object [("rule", .string b.rule), ("expected", .string b.expected), ("actual", .string b.actual)]

def Violation.toValue (v : Violation) : Value :=
  .object [("path", .string v.path), ("message", .string v.message),
    ("violation", (v.broken.map BrokenRule.toValue).getD .null)]

end StudyPlan
