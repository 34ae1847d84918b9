import StudyPlan.Proofs.Saving
import StudyPlan.Proofs.Text.Utf8
import StudyPlan.System

/-! What a command does to the system around it. As long as its output takes all that is printed,
a command does to the files what it does over files alone. Resolving a config prints at its end and
not before, so that it has printed nothing where it fails; and where neither the output nor a file
breaks off, no file but the one to save to is touched. -/
namespace StudyPlan

def Output.Unbroken (o : Output) : Prop := ∀ written text, o.breaksOff written text = none

namespace System

theorem printTaken {y : System} (unbroken : y.output.Unbroken) (text : String) :
    (Printing.print text : StateM System _) y =
      (none, { y with output := y.output.take text }) := by
  show ((y.output.print text).1, { y with output := (y.output.print text).2 }) = _
  unfold Output.print
  split
  · rename_i blank
    rw [String.isEmpty_iff.mp blank, Output.take, String.append_empty]
  · rw [unbroken]

theorem outcomeTaken {y : System} (unbroken : y.output.Unbroken) (text : String)
    (result : Except Failure Unit) :
    (Outcome.print text result : StateM System Outcome) y =
      (⟨text, result⟩, { y with output := y.output.take text }) := by
  simp only [Outcome.print, bind, StateT.bind, printTaken unbroken]
  rfl

theorem presentLoaded (path : String) (y : System) :
    (TrialConfig.loadPresent path : StateM System (Except Failure TrialConfig)) y =
      (y.files.trialConfig path, y) := by
  unfold FileSystem.trialConfig
  show (if y.files.isThere path then _ else _ : StateM System (Except Failure TrialConfig)) y = _
  cases y.files.isThere path <;> rfl

theorem savedInFiles (path text : String) (y : System) :
    (FileAccess.save path text : StateM System (Except FileProblem Unit)) y =
      onFiles (FileAccess.save path text) y := by
  let parent := (Path.parent? path).getD ""
  rcases made : y.files.makeDirectories parent with ⟨result, grown⟩
  have makes : (FileAccess.makeDirectories parent : StateM FileSystem _) y.files =
      (result, grown) := made
  have makes' : (FileAccess.makeDirectories parent : StateM System _) y =
      (result, { y with files := grown }) := by
    show onFiles (FileAccess.makeDirectories parent) y = _
    rw [onFiles, makes]
  simp only [onFiles, FileAccess.save, bind, StateT.bind, makes, makes', parent]
  cases result <;> rfl

end System

namespace TransformCommand

theorem ranOnSystem (c : TransformCommand) (s : Settings) (w : Writer) (y : System) :
    (c.run s w : StateM System Outcome) y =
      match c.resolved s y.files with
      | .error f => (⟨"", .error f⟩, y)
      | .ok (p, d) => (c.deliver s w p d : StateM System Outcome) y := by
  have loaded := System.presentLoaded c.file y
  unfold run resolved
  cases c.target s with
  | error f => rfl
  | ok p =>
    simp only [bind, StateT.bind, loaded]
    cases y.files.trialConfig c.file with
    | error f => rfl
    | ok trials =>
      simp only [Except.bind]
      cases trials.describe p <;> rfl

/- Resolving a config prints once, at its end. -/
theorem printsLast (c : TransformCommand) (s : Settings) (w : Writer) {y : System} {o : Outcome}
    {files : FileSystem} (ends : (c.run s w : StateM FileSystem Outcome) y.files = (o, files)) :
    (c.run s w : StateM System Outcome) y =
      (Outcome.print o.output o.result : StateM System Outcome) { y with files } := by
  rw [ranOnSystem]
  rw [ran] at ends
  cases found : c.resolved s y.files with
  | error f =>
    rw [found] at ends
    cases ends
    rfl
  | ok result =>
    obtain ⟨p, d⟩ := result
    simp only [found] at ends ⊢
    unfold deliver at ends ⊢
    cases target : c.saveTo with
    | none =>
      simp only [target] at ends ⊢
      cases ends
      rfl
    | some path =>
      have saved := System.savedInFiles path (savedText path (d.elements (c.layout s))) y
      simp only [target, bind, StateT.bind, saved, System.onFiles] at ends ⊢
      rcases saves : (FileAccess.save path (savedText path (d.elements (c.layout s))) :
        StateM FileSystem (Except FileProblem Unit)) y.files with ⟨result, kept⟩
      rw [saves] at ends
      cases result <;> (cases ends; rfl)

end TransformCommand

namespace TransformCommand
variable {c : TransformCommand} {s : Settings} {w : Writer} {fs fs' : FileSystem} {o : Outcome}

theorem Ends.failed (ends : c.Ends s w fs o fs') {f : Failure} (result : o.result = .error f)
    (whole : ∀ path content, c.saveTo = some path →
      fs.refusals.writing (fs.place path) content = none) :
    o.output = "" ∧ ∀ l content,
      fs'.nodeAt l = some (.file content) ↔ fs.nodeAt l = some (.file content) := by
  cases ends with
  | refused => exact ⟨rfl, fun _ _ => Iff.rfl⟩
  | printed => contradiction
  | saved => contradiction
  | unsaved found target grown => exact ⟨rfl, grown.file⟩
  | brokenOff found target breaks =>
    rw [whole _ _ target] at breaks
    contradiction

end TransformCommand

namespace System
variable {y : System}

theorem thenTaken (unbroken : y.output.Unbroken) (text : String) (next : StateM System Outcome) :
    (Outcome.printThen text next) y =
      let rest := next { y with output := y.output.take text }
      (⟨text ++ rest.1.output, rest.1.result⟩, rest.2) := by
  simp only [Outcome.printThen, bind, StateT.bind, printTaken unbroken]
  rfl

end System

theorem ValidateCommand.ranOnSystem {y : System} (unbroken : y.output.Unbroken)
    (c : ValidateCommand) (w : Writer) : (c.run w : StateM System Outcome) y =
      let text := w.info ("Validating trial config: " ++ c.file) ++ report w (c.checked y.files)
      (⟨text, c.result y.files⟩, { y with output := y.output.take text }) := by
  let info := w.info ("Validating trial config: " ++ c.file)
  have reported := System.outcomeTaken (y := { y with output := y.output.take info }) unbroken
    (report w (c.checked y.files)) (c.result y.files)
  unfold run
  rw [System.thenTaken unbroken]
  simp only [bind, StateT.bind, System.presentLoaded]
  rw [checked, result, checked] at reported
  rw [reported, checked, result, checked]
  simp only [Output.take, String.append_assoc, info]

theorem Program.ranOnSystem {y : System} (unbroken : y.output.Unbroken) (a : Arguments)
    (s : Settings) (color : Bool) : (runWith a s color : StateM System Outcome) y =
      let ran := (runWith a s color : StateM FileSystem Outcome) y.files
      (ran.1, ⟨ran.2, y.output.take ran.1.output⟩) := by
  have silent : y = ⟨y.files, y.output.take ""⟩ := by simp [Output.take]
  unfold runWith
  cases reportFormat a s with
  | error f => exact Prod.ext rfl silent
  | ok format =>
    unfold runCommand
    cases a.command with
    | transform c =>
      dsimp only
      rcases ran : (c.run s ⟨format, color, a.quiet⟩ : StateM FileSystem Outcome) y.files with
        ⟨o, files⟩
      rw [c.printsLast s _ ran]
      exact System.outcomeTaken (y := ⟨files, y.output⟩) unbroken o.output o.result
    | validate c =>
      dsimp only
      rw [ValidateCommand.ranOnSystem unbroken, ValidateCommand.ran]
    | platforms => exact System.outcomeTaken unbroken _ _
    | completions shell => exact Prod.ext rfl silent

end StudyPlan
