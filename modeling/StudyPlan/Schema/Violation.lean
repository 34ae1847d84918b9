import StudyPlan.Schema.Format
import StudyPlan.Violation

/-! The schema of written violations; members that it does not know are passed over. -/
namespace StudyPlan.Schema
variable {Node : Type} {Result : Type → Type} [Format Node Result]

structure BrokenRuleDraft where
  rule : Option String := none
  expected : Option String := none
  actual : Option String := none

namespace BrokenRuleDraft

def finish (d : BrokenRuleDraft) : Except Nat BrokenRule :=
  match d.rule, d.expected, d.actual with
  | none, _, _ => .error 0
  | _, none, _ => .error 1
  | _, _, none => .error 2
  | some rule, some expected, some actual => .ok ⟨rule, expected, actual⟩

end BrokenRuleDraft

def brokenRuleRecord : Record Node Result BrokenRuleDraft BrokenRule where
  name := "Violation"
  fields := [
    .of "rule" Format.string fun d x => { d with rule := some x },
    .of "expected" Format.string fun d x => { d with expected := some x },
    .of "actual" Format.string fun d x => { d with actual := some x }]
  refusesUnknown := false
  initial := {}
  finish := fun _ => BrokenRuleDraft.finish

structure ViolationDraft where
  path : Option String := none
  message : Option String := none
  broken : Option (Option BrokenRule) := none

namespace ViolationDraft

/-- By position the broken rule has to be given too, if only as nothing. -/
def finish (form : RecordForm) (d : ViolationDraft) : Except Nat Violation :=
  match d.path, d.message, d.broken, form with
  | none, _, _, _ => .error 0
  | _, none, _, _ => .error 1
  | _, _, none, .positional => .error 2
  | some path, some message, broken, _ => .ok ⟨path, message, broken.getD none⟩

end ViolationDraft

def violationRecord : Record Node Result ViolationDraft Violation where
  name := "SchemaViolation"
  fields := [
    .of "path" Format.string fun d x => { d with path := some x },
    .of "message" Format.string fun d x => { d with message := some x },
    .of "violation" (Format.optional (Format.record brokenRuleRecord)) fun d x =>
      { d with broken := some x }]
  refusesUnknown := false
  initial := {}
  finish := ViolationDraft.finish

def violation (node : Node) : Result Violation := Format.record violationRecord node

end StudyPlan.Schema
