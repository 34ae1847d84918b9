import StudyPlan.Program
import StudyPlan.Proofs.Verdict

/-! What checking and resolving a file come to on a file system. Neither changes the files, and
checking a file foretells how resolving it ends: for every platform, with the same failure. -/
namespace StudyPlan

def FileSystem.trialConfig (fs : FileSystem) (path : String) : Except Failure TrialConfig :=
  if fs.isThere path then TrialConfig.ofContent path (fs.readText path)
  else .error (.fileNotFound path)

theorem TrialConfig.presentLoaded (path : String) (fs : FileSystem) :
    (loadPresent path : StateM FileSystem (Except Failure TrialConfig)) fs =
      (fs.trialConfig path, fs) := by
  unfold FileSystem.trialConfig
  show (if fs.isThere path then _ else _ : StateM FileSystem (Except Failure TrialConfig)) fs = _
  cases fs.isThere path <;> rfl

namespace Outcome

theorem printAll (text : String) (result : Except Failure Unit) (fs : FileSystem) :
    (print text result : StateM FileSystem Outcome) fs = (⟨text, result⟩, fs) := rfl

theorem printThenAll (text : String) (next : StateM FileSystem Outcome) (fs : FileSystem) :
    (printThen text next) fs =
      (⟨text ++ (next fs).1.output, (next fs).1.result⟩, (next fs).2) := rfl

end Outcome

namespace ValidateCommand

def checked (c : ValidateCommand) (fs : FileSystem) : Except Failure Nat :=
  (fs.trialConfig c.file).bind check

def result (c : ValidateCommand) (fs : FileSystem) : Except Failure Unit :=
  (c.checked fs).map fun _ => ()

theorem ran (c : ValidateCommand) (w : Writer) (fs : FileSystem) :
    (c.run w : StateM FileSystem Outcome) fs =
      (⟨w.info ("Validating trial config: " ++ c.file) ++ report w (c.checked fs),
        c.result fs⟩, fs) := by
  have loaded := TrialConfig.presentLoaded c.file fs
  unfold run result checked
  rw [Outcome.printThenAll]
  simp only [bind, StateT.bind, loaded, Outcome.printAll]

end ValidateCommand

namespace TransformCommand

def resolved (c : TransformCommand) (s : Settings) (fs : FileSystem) :
    Except Failure (Platform × Description) := do
  let p ← c.target s
  let trials ← fs.trialConfig c.file
  let d ← (trials.describe p).mapError .violation
  return (p, d)

theorem ran (c : TransformCommand) (s : Settings) (w : Writer) (fs : FileSystem) :
    (c.run s w : StateM FileSystem Outcome) fs =
      match c.resolved s fs with
      | .error f => (⟨"", .error f⟩, fs)
      | .ok (p, d) => (c.deliver s w p d : StateM FileSystem Outcome) fs := by
  have loaded := TrialConfig.presentLoaded c.file fs
  unfold run resolved
  cases c.target s with
  | error f => rfl
  | ok p =>
    simp only [bind, StateT.bind, loaded]
    cases fs.trialConfig c.file with
    | error f => rfl
    | ok trials =>
      simp only [Except.bind]
      cases trials.describe p <;> rfl

theorem targetKnown (c : TransformCommand) (s : Settings) {p : Platform}
    (given : c.platform = some p.tag) : c.target s = .ok p := by
  have parsed : TagTable.parse p.tag = .ok p := TagTable.parseAccepted.mpr rfl
  unfold target
  rw [given]
  show Except.mapError _ (Except.mapError _ (TagTable.parse p.tag)) = _
  rw [parsed]
  rfl

theorem resolvedAsChecked (c : TransformCommand) (s : Settings) (fs : FileSystem) {p : Platform}
    (target : c.target s = .ok p) :
    ((c.resolved s fs).map fun _ => ()) = (ValidateCommand.mk c.file).result fs := by
  unfold resolved ValidateCommand.result ValidateCommand.checked
  rw [target]
  show Except.map _ ((fs.trialConfig c.file).bind fun _ => _) = _
  cases fs.trialConfig c.file with
  | error f => rfl
  | ok trials =>
    simp only [Except.bind, ValidateCommand.check, TrialConfig.validateChecked,
      TrialConfig.describeChecked]
    cases Resolve.checked trials.trials.entries <;> rfl

/- Without a file to save to, all that can fail is what checking looks at as well. -/
theorem printing (c : TransformCommand) (s : Settings) (w : Writer) (fs : FileSystem)
    {p : Platform} (target : c.target s = .ok p) (printed : c.saveTo = none) :
    ∃ output, (c.run s w : StateM FileSystem Outcome) fs =
      (⟨output, (ValidateCommand.mk c.file).result fs⟩, fs) := by
  have same := c.resolvedAsChecked s fs target
  rw [ran]
  cases found : c.resolved s fs with
  | error f =>
    rw [found] at same
    exact ⟨"", by rw [← same]; rfl⟩
  | ok result =>
    obtain ⟨q, d⟩ := result
    rw [found] at same
    refine ⟨w.description d q (d.elements (c.layout s)), ?_⟩
    simp only [deliver, printed, ← same]
    rfl

end TransformCommand

inductive FileSystem.Verdict (fs : FileSystem) (file : String) :
    Except Failure Unit → Nat → Prop where
  | absent (gone : fs.isThere file = false) : Verdict fs file (.error (.fileNotFound file)) 3
  | unreadable {problem : FileProblem} (there : fs.isThere file = true)
      (unread : fs.readText file = .error problem) :
      Verdict fs file (.error (.unreadable file problem)) 1
  | misshapen {text : String} {v : Violation} (there : fs.isThere file = true)
      (read : fs.readText file = .ok text)
      (refused : TrialConfig.parse (.ofPath file) text = .error v) :
      Verdict fs file (.error (.violation v)) 2
  | invalid {text : String} {trials : TrialConfig} {v : Violation}
      (there : fs.isThere file = true) (read : fs.readText file = .ok text)
      (parsed : TrialConfig.parse (.ofPath file) text = .ok trials)
      (refused : trials.validate = .error v) : Verdict fs file (.error (.violation v)) 2
  | valid {text : String} {trials : TrialConfig} (there : fs.isThere file = true)
      (read : fs.readText file = .ok text)
      (parsed : TrialConfig.parse (.ofPath file) text = .ok trials)
      (accepted : trials.validate = .ok ()) : Verdict fs file (.ok ()) 0

namespace FileSystem

theorem Verdict.exits {fs : FileSystem} {file : String} {result : Except Failure Unit} {code : Nat}
    (verdict : fs.Verdict file result code) : ∀ f, result = .error f → f.exitCode = code := by
  intro f failed
  cases verdict with
  | valid => contradiction
  | _ =>
    cases failed
    rfl

theorem verdictReached (fs : FileSystem) (file : String) :
    ∃ code, fs.Verdict file ((ValidateCommand.mk file).result fs) code := by
  unfold ValidateCommand.result ValidateCommand.checked trialConfig
  cases there : fs.isThere file with
  | false => exact ⟨3, .absent there⟩
  | true =>
    cases read : fs.readText file with
    | error problem => exact ⟨1, .unreadable there read⟩
    | ok text =>
      cases parsed : TrialConfig.parse (.ofPath file) text with
      | error v =>
        refine ⟨2, ?_⟩
        simpa [TrialConfig.ofContent, parsed, Except.mapError, Except.bind, Except.map]
          using Verdict.misshapen there read parsed
      | ok trials =>
        cases accepted : trials.validate with
        | error v =>
          refine ⟨2, ?_⟩
          simpa [TrialConfig.ofContent, parsed, Except.mapError, Except.bind, Except.map,
            ValidateCommand.check, accepted] using Verdict.invalid there read parsed accepted
        | ok _ =>
          refine ⟨0, ?_⟩
          simpa [TrialConfig.ofContent, parsed, Except.mapError, Except.bind, Except.map,
            ValidateCommand.check, accepted] using Verdict.valid there read parsed accepted

end FileSystem

def FileSystem.settings (fs : FileSystem) (path : String) : Except Failure Settings :=
  if fs.isThere path then Settings.ofContent path (fs.readText path)
  else .error (.fileNotFound path)

namespace Settings

def search (fs : FileSystem) : List String → List String × Settings
  | [] => ([], {})
  | path :: rest =>
    match fs.settings path with
    | .ok s => ([], s)
    | .error f =>
      let (warnings, s) := search fs rest
      (if fs.isThere path then skippedWarning path f :: warnings else warnings, s)

theorem fileRead (path : String) (fs : FileSystem) :
    (ofFile path : StateM FileSystem (Except Failure Settings)) fs = (fs.settings path, fs) := by
  unfold FileSystem.settings
  show (if fs.isThere path then _ else _ : StateM FileSystem (Except Failure Settings)) fs = _
  cases fs.isThere path <;> rfl

theorem placesRead (places : List String) (fs : FileSystem) :
    (ofPlaces places : StateM FileSystem (List String × Settings)) fs = (search fs places, fs) := by
  induction places with
  | nil => rfl
  | cons path rest ih =>
    have now := fileRead path fs
    show (if fs.isThere path then _ else _ : StateM FileSystem (List String × Settings)) fs = _
    cases there : fs.isThere path with
    | false =>
      have gone : fs.settings path = .error (.fileNotFound path) := by
        simp [FileSystem.settings, there]
      simp only [search, gone, there]
      exact ih
    | true =>
      simp only [if_true, bind, StateT.bind, now]
      cases first : fs.settings path with
      | ok s =>
        simp only [search, first]
        rfl
      | error f =>
        simp only [search, first, there, if_true, StateT.bind, ih]
        rfl

theorem loadFile (path : String) (userDirectory : Option String) (fs : FileSystem) :
    (load (some path) userDirectory :
      StateM FileSystem (List String × Except Failure Settings)) fs =
        (([], fs.settings path), fs) := by
  simp only [load, bind, StateT.bind, fileRead]
  rfl

theorem loadPlaces (userDirectory : Option String) (fs : FileSystem) :
    (load none userDirectory : StateM FileSystem (List String × Except Failure Settings)) fs =
      let found := search fs (usualPlaces userDirectory)
      ((found.1, .ok found.2), fs) := by
  simp only [load, bind, StateT.bind, placesRead]
  rfl

theorem loadRead (file userDirectory : Option String) (fs : FileSystem) :
    ∃ result, (load file userDirectory :
      StateM FileSystem (List String × Except Failure Settings)) fs = (result, fs) := by
  cases file with
  | some path => exact ⟨_, loadFile path userDirectory fs⟩
  | none => exact ⟨_, loadPlaces userDirectory fs⟩

end Settings

namespace Program

def exit (color : Bool) (lines : List String) (o : Outcome) : Exit :=
  match o.result with
  | .ok () => ⟨0, o.output, textLines lines⟩
  | .error f => ⟨f.exitCode, o.output, textLines (lines ++ failureLines color f)⟩

theorem exitsAlike {o o' : Outcome} (same : o.result = o'.result) (color : Bool)
    (lines : List String) : (exit color lines o).code = (exit color lines o').code ∧
      (exit color lines o).errors = (exit color lines o').errors := by
  unfold exit
  rw [same]
  cases o'.result <;> exact ⟨rfl, rfl⟩

def EndAlike (fs : FileSystem) (s : Settings) (c c' : Command) : Prop :=
  ∀ (a : Arguments) (w : Writer), ∃ o o' : Outcome, o.result = o'.result ∧
    (runCommand { a with command := c } s w : StateM FileSystem Outcome) fs = (o, fs) ∧
    (runCommand { a with command := c' } s w : StateM FileSystem Outcome) fs = (o', fs)

theorem formattedAlike {fs : FileSystem} {s : Settings} {c c' : Command}
    (alike : EndAlike fs s c c') (a : Arguments) (color : Bool) :
    ∃ o o' : Outcome, o.result = o'.result ∧
      (runWith { a with command := c } s color : StateM FileSystem Outcome) fs = (o, fs) ∧
      (runWith { a with command := c' } s color : StateM FileSystem Outcome) fs = (o', fs) := by
  have unchanged : ∀ c, reportFormat { a with command := c } s = reportFormat a s := fun _ => rfl
  unfold runWith
  rw [unchanged c, unchanged c']
  cases reportFormat a s with
  | error f => exact ⟨_, _, rfl, rfl, rfl⟩
  | ok format => exact alike a ⟨format, color, a.quiet⟩

theorem runsAlike {fs : FileSystem} {c c' : Command} (alike : ∀ s, EndAlike fs s c c')
    (a : Arguments) (e : Environment) : ∃ x x' : Exit, x.code = x'.code ∧ x.errors = x'.errors ∧
      (runArguments { a with command := c } e : StateM FileSystem Exit) fs = (x, fs) ∧
      (runArguments { a with command := c' } e : StateM FileSystem Exit) fs = (x', fs) := by
  obtain ⟨⟨warnings, loaded⟩, read⟩ := Settings.loadRead a.settingsFile e.userDirectory fs
  cases loaded with
  | error f =>
    simp only [runArguments, bind, StateT.bind, read]
    exact ⟨_, _, rfl, rfl, rfl, rfl⟩
  | ok s =>
    obtain ⟨o, o', same, ran, ran'⟩ :=
      formattedAlike (alike s) a (!a.noColor && e.terminal && s.output.color)
    have exits := exitsAlike same (!a.noColor && e.terminal && s.output.color)
      (warnings ++ logLines a e s)
    refine ⟨_, _, exits.1, exits.2, ?_, ?_⟩
    · simp only [runArguments, bind, StateT.bind, read, ran]
      unfold exit
      cases o.result <;> rfl
    · simp only [runArguments, bind, StateT.bind, read, ran']
      unfold exit
      cases o'.result <;> rfl

end Program

/-- Checking a file foretells resolving it: whatever the platform, the settings and the format,
both succeed or both fail with the same failure, and so does the program. -/
theorem checkingForetells (fs : FileSystem) (file : String) :
    ∃ result code, fs.Verdict file result code ∧
      (∀ f, result = .error f → f.exitCode = code) ∧
      (∀ w : Writer, ∃ output, ((ValidateCommand.mk file).run w : StateM FileSystem Outcome) fs =
        (⟨output, result⟩, fs)) ∧
      (∀ (p : Platform) (s : Settings) (w : Writer) (bare : Bool), ∃ output,
        ((TransformCommand.mk file (some p.tag) none bare).run s w :
          StateM FileSystem Outcome) fs = (⟨output, result⟩, fs)) ∧
      ∀ (p : Platform) (bare : Bool) (a : Arguments) (e : Environment), ∃ x x' : Exit,
        x.code = x'.code ∧ x.errors = x'.errors ∧
        (Program.runArguments { a with command := .validate ⟨file⟩ } e :
          StateM FileSystem Exit) fs = (x, fs) ∧
        (Program.runArguments { a with command := .transform ⟨file, some p.tag, none, bare⟩ } e :
          StateM FileSystem Exit) fs = (x', fs) := by
  obtain ⟨code, verdict⟩ := fs.verdictReached file
  have resolving : ∀ (p : Platform) (s : Settings) (w : Writer) (bare : Bool), ∃ output,
      ((TransformCommand.mk file (some p.tag) none bare).run s w : StateM FileSystem Outcome) fs =
        (⟨output, (ValidateCommand.mk file).result fs⟩, fs) := by
    intro p s w bare
    let c : TransformCommand := ⟨file, some p.tag, none, bare⟩
    exact c.printing s w fs (c.targetKnown s rfl) rfl
  refine ⟨_, code, verdict, verdict.exits, fun w => ⟨_, ValidateCommand.ran ⟨file⟩ w fs⟩,
    resolving, ?_⟩
  intro p bare
  refine Program.runsAlike ?_
  intro s a w
  obtain ⟨output, resolved⟩ := resolving p s w bare
  refine ⟨_, _, ?_, ValidateCommand.ran ⟨file⟩ w fs, resolved⟩
  rfl

end StudyPlan
