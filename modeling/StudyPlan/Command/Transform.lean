import StudyPlan.Command.Load
import StudyPlan.Command.Outcome
import StudyPlan.Report.Writer
import StudyPlan.Resolve
import StudyPlan.Settings.Basic

/-! The command that resolves a trial config for one platform, and prints or saves the
outcome. -/
namespace StudyPlan
open Json (Value)

structure TransformCommand where
  file : String
  platform : Option String := none
  saveTo : Option String := none
  bareSymbols : Bool := false
  deriving DecidableEq, Repr

namespace TransformCommand

def target (c : TransformCommand) (s : Settings) : Except Failure Platform :=
  match c.platform <|> s.defaultPlatform with
  | none => .error .missingPlatform
  | some tag => (TrialConfig.platform tag).mapError .violation

def layout (c : TransformCommand) (s : Settings) : ElementsLayout :=
  if c.bareSymbols then { s.output.layout with symbolPrefix := "" } else s.output.layout

def savedText (path : String) (elements : Value) : String :=
  match DocumentFormat.ofPath path with
  | .yaml => Yaml.write elements
  | .json => elements.pretty 0 ++ "\n"

def savedMessage (d : Description) (p : Platform) (path : String) : String :=
  "✓ Wrote " ++ toString d.size ++ " studies for " ++ p.tag ++ " to " ++ path

variable {m : Type → Type} [Monad m] [FileAccess m] [Printing m]

def deliver (c : TransformCommand) (s : Settings) (w : Writer) (p : Platform) (d : Description) :
    m Outcome := do
  let elements := d.elements (c.layout s)
  match c.saveTo with
  | none => Outcome.print (w.description d p elements) (.ok ())
  | some path =>
    match ← FileAccess.save path (savedText path elements) with
    | .error problem => return ⟨"", .error (.io problem)⟩
    | .ok () => Outcome.print (w.success (savedMessage d p path)) (.ok ())

def run (c : TransformCommand) (s : Settings) (w : Writer) : m Outcome := do
  match c.target s with
  | .error f => return ⟨"", .error f⟩
  | .ok p =>
    match ← TrialConfig.loadPresent c.file with
    | .error f => return ⟨"", .error f⟩
    | .ok trials =>
      match trials.describe p with
      | .error v => return ⟨"", .error (.violation v)⟩
      | .ok d => c.deliver s w p d

end TransformCommand
end StudyPlan
