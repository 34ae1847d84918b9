import StudyPlan.FileSystem.Problem
import StudyPlan.Json.Read
import StudyPlan.Report.Style
import StudyPlan.Toml.Read
import StudyPlan.Violation
import StudyPlan.Yaml.Read

/-! Why a command fails, and how the program then ends. -/
namespace StudyPlan

inductive Failure where
  | io (problem : FileProblem)
  | violation (v : Violation)
  | unreadable (path : String) (problem : FileProblem)
  | fileNotFound (path : String)
  | config (message : String)
  | missingPlatform
  | json (refusal : Json.Refusal)
  | yaml (refusal : Yaml.Refusal)
  | toml (source : String) (refusal : Toml.Refusal)
  | other (message : String)
  deriving DecidableEq, Repr

namespace Failure

def text : Failure → String
  | io problem => "IO error: " ++ problem.text
  | violation v => v.text
  | unreadable path problem => "IO error reading " ++ path ++ ": " ++ problem.text
  | fileNotFound path => "File not found: " ++ path
  | config message => "Configuration error: " ++ message
  | missingPlatform =>
    "No target platform given. Pass --platform or set default_platform in the config file"
  | json refusal => "JSON error: " ++ refusal.text
  | yaml refusal => "YAML error: " ++ refusal.text
  | toml source refusal => "TOML error: " ++ refusal.text source
  | other message => message

def exitCode : Failure → Nat
  | io _ => 1
  | violation _ => 2
  | unreadable .. => 1
  | fileNotFound _ => 3
  | config _ => 5
  | missingPlatform => 6
  | json _ => 12
  | yaml _ => 13
  | toml .. => 14
  | other _ => 99

def showsHelp : Failure → Bool
  | missingPlatform => true
  | _ => false

def report (color : Bool) (f : Failure) : String :=
  (if color then Style.boldRed.paint "Error:" else "Error:") ++ " " ++ f.text

end Failure
end StudyPlan
