import StudyPlan.Command.Load
import StudyPlan.Command.Outcome
import StudyPlan.Report.Writer
import StudyPlan.Resolve

/-! The command that checks a trial config. Programs get a report whether the config is valid
or not; of other failures than a violation there is no report. -/
namespace StudyPlan
open Json (Value)

structure ValidateCommand where
  file : String
  deriving DecidableEq, Repr

namespace ValidateCommand

def validReport (trials : Nat) : Value :=
  .object [("valid", .bool true), ("trials", .natural trials)]

def violationReport (v : Violation) : Value :=
  .object [("valid", .bool false), ("violation", v.toValue)]

def check (trials : TrialConfig) : Except Failure Nat :=
  (trials.validate.mapError Failure.violation).map fun _ => trials.size

def report (w : Writer) : Except Failure Nat → String
  | .ok trials =>
    w.success ("✓ Trial config is valid (" ++ toString trials ++ " trials)") ++
      (if trials = 0 then w.warning "Trial config declares no trials" else "") ++
      if w.isHuman then "" else w.data (validReport trials)
  | .error (.violation v) =>
    w.error "✗ Trial config validation failed" ++
      if w.isHuman then w.violation v else w.data (violationReport v)
  | .error _ => ""

variable {m : Type → Type} [Monad m] [FileAccess m] [Printing m]

def run (c : ValidateCommand) (w : Writer) : m Outcome :=
  Outcome.printThen (w.info ("Validating trial config: " ++ c.file)) do
    let checked := (← TrialConfig.loadPresent c.file).bind check
    Outcome.print (report w checked) (checked.map fun _ => ())

end ValidateCommand
end StudyPlan
