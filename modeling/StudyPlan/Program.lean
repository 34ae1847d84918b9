import StudyPlan.Command.Platforms
import StudyPlan.CommandLine.Arguments
import StudyPlan.CommandLine.Version
import StudyPlan.Logging.Basic
import StudyPlan.Settings.Load

/-! The whole program: from the words of the command line and the environment to what it
writes and its exit code. What completions print is left out. -/
namespace StudyPlan

structure Environment where
  settingsFile : Option String := none
  userDirectory : Option String := none
  logging : LogEnvironment := {}
  terminal : Bool := false
  deriving DecidableEq, Repr

structure Exit where
  code : Nat
  output : String
  /-- The warnings and the failure that are told beside the output, without the log records that
  may stand between them. -/
  errors : String
  deriving DecidableEq, Repr

namespace Program

def helpHint : List String := ["", "For more information, try '--help'"]

def failureLines (color : Bool) (f : Failure) : List String :=
  f.report color :: if f.showsHelp then helpHint else []

def logPlan (a : Arguments) (e : Environment) (s : Settings) : List String × LogPlan :=
  let plan := LogPlan.ofVerbosity a.verbosityLevel
  let (first, plan) := if a.verbosityLevel = 0 then plan.withSettings s.logging else ([], plan)
  let (second, plan) := plan.withEnvironment e.logging
  (first ++ second, if a.quiet then plan.quietened else plan)

def logLines (a : Arguments) (e : Environment) (s : Settings) : List String :=
  let (warnings, plan) := logPlan a e s
  warnings ++
    match plan.check with
    | .ok () => []
    | .error f => ["Failed to initialize logging: " ++ f.text]

def reportFormat (a : Arguments) (s : Settings) : Except Failure OutputFormat :=
  match a.output with
  | some format => .ok format
  | none => s.output.outputFormat

variable {m : Type → Type} [Monad m] [FileAccess m] [Printing m]

def runCommand (a : Arguments) (s : Settings) (w : Writer) : m Outcome :=
  match a.command with
  | .transform c => c.run s w
  | .validate c => c.run w
  | .platforms => PlatformsCommand.run s w
  | .completions _ => return ⟨"", .ok ()⟩

def runWith (a : Arguments) (s : Settings) (color : Bool) : m Outcome :=
  match reportFormat a s with
  | .error f => return ⟨"", .error f⟩
  | .ok format => runCommand a s ⟨format, color, a.quiet⟩

def runArguments (a : Arguments) (e : Environment) : m Exit := do
  let color := !a.noColor && e.terminal
  match ← Settings.load a.settingsFile e.userDirectory with
  | (warnings, .error f) =>
    return ⟨f.exitCode, "", textLines (warnings ++ failureLines color f)⟩
  | (warnings, .ok s) =>
    let color := color && s.output.color
    let outcome ← runWith a s color
    let lines := warnings ++ logLines a e s
    match outcome.result with
    | .ok () => return ⟨0, outcome.output, textLines lines⟩
    | .error f =>
      return ⟨f.exitCode, outcome.output, textLines (lines ++ failureLines color f)⟩

def run (e : Environment) (words : List String) : m Exit := do
  match CommandLine.parse e.settingsFile words with
  | .ok a => runArguments a e
  | .error problem =>
    let shown ← Outcome.print problem.output (.ok ())
    return ⟨problem.exitCode, shown.output, ""⟩

end Program
end StudyPlan
