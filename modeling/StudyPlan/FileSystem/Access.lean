import StudyPlan.FileSystem.Basic

/-! What the program asks of the files around it. A command is written once against
this interface: over a file system as a value it is a pure state transition. -/
namespace StudyPlan

class FileAccess (m : Type → Type) where
  isThere : String → m Bool
  readText : String → m (Except FileProblem String)
  makeDirectories : String → m (Except FileProblem Unit)
  writeText : String → String → m (Except FileProblem Unit)

instance : FileAccess (StateM FileSystem) where
  isThere path := fun fs => (fs.isThere path, fs)
  readText path := fun fs => (fs.readText path, fs)
  makeDirectories path := fun fs => fs.makeDirectories path
  writeText path text := fun fs => fs.writeText path text

namespace FileAccess
variable {m : Type → Type} [Monad m] [FileAccess m]

def save (path text : String) : m (Except FileProblem Unit) := do
  match ← makeDirectories ((Path.parent? path).getD "") with
  | .error problem => return .error problem
  | .ok () => writeText path text

end FileAccess
end StudyPlan
