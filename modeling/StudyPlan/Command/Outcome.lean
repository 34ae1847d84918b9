import StudyPlan.Command.Failure
import StudyPlan.FileSystem.Access

/-! What a command comes to: what it has printed, and how it ends. Output may break off, and then
the command ends with that. -/
namespace StudyPlan

class Printing (m : Type → Type) where
  /-- Print a text; where the output breaks off, how many of its characters it has taken, and
  why. -/
  print : String → m (Option (Nat × FileProblem))

instance : Printing (StateM FileSystem) where
  print _ := fun fs => (none, fs)

def Text.front (length : Nat) (text : String) : String := String.ofList (text.toList.take length)

structure Outcome where
  output : String
  result : Except Failure Unit

namespace Outcome
variable {m : Type → Type} [Monad m] [Printing m]

def print (text : String) (result : Except Failure Unit) : m Outcome := do
  match ← Printing.print text with
  | none => return ⟨text, result⟩
  | some (taken, problem) => return ⟨Text.front taken text, .error (.io problem)⟩

def printThen (text : String) (next : m Outcome) : m Outcome := do
  match ← Printing.print text with
  | none =>
    let rest ← next
    return ⟨text ++ rest.output, rest.result⟩
  | some (taken, problem) => return ⟨Text.front taken text, .error (.io problem)⟩

end Outcome
end StudyPlan
