import StudyPlan.Command.Failure
import StudyPlan.Document.Load
import StudyPlan.Event
import StudyPlan.FileSystem.Access

/-! Loading trial configs from files. The extension of the path tells the format. -/
namespace StudyPlan.TrialConfig
variable {m : Type → Type} [Monad m] [FileAccess m]

def ofContent (path : String) : Except FileProblem String → Except Failure TrialConfig
  | .error problem => .error (.unreadable path problem)
  | .ok text => (parse (.ofPath path) text).mapError .violation

def loadingEvents (path : String) : Except FileProblem String → List Event
  | .error _ => []
  | .ok text => [.loading path text.utf8ByteSize (.ofPath path)]

def load (path : String) : m (Except Failure TrialConfig) :=
  ofContent path <$> FileAccess.readText path

def loadPresent (path : String) : m (Except Failure TrialConfig) := do
  if ← FileAccess.isThere path then load path
  else return .error (.fileNotFound path)

end StudyPlan.TrialConfig
