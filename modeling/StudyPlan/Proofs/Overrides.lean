import StudyPlan.Proofs.Commands
import StudyPlan.Proofs.Settings.Files

/-! Which settings the program looks at. What the command line says itself wins over the settings:
two settings that differ only there make the program do the same, in its output, its exit code and
the files that it leaves. -/
namespace StudyPlan

namespace TransformCommand

/- Two settings between which a command cannot tell: they differ only where it has its own. -/
structure Overrides (c : TransformCommand) (s s' : Settings) : Prop where
  platform : c.platform = none → s.defaultPlatform = s'.defaultPlatform
  symbolPrefix : c.bareSymbols = false → s.output.symbolPrefix = s'.output.symbolPrefix
  elementName : s.output.elementName = s'.output.elementName

variable {c : TransformCommand} {s s' : Settings}

theorem sameTarget (same : c.Overrides s s') : c.target s = c.target s' := by
  unfold target
  cases given : c.platform with
  | none => rw [same.platform given]
  | some tag => rfl

theorem sameLayout (same : c.Overrides s s') : c.layout s = c.layout s' := by
  unfold layout OutputSettings.layout
  rw [same.elementName]
  cases bare : c.bareSymbols with
  | false => rw [same.symbolPrefix bare]
  | true => rfl

theorem runsSame {m : Type → Type} [Monad m] [FileAccess m] [Printing m] (same : c.Overrides s s')
    (w : Writer) : (c.run s w : m Outcome) = c.run s' w := by
  simp only [run, deliver, sameTarget same, sameLayout same]

end TransformCommand

def Command.Overrides (s s' : Settings) : Command → Prop
  | .transform c => c.Overrides s s'
  | .validate _ => True
  | .platforms => s.output.layout = s'.output.layout
  | .completions _ => True

structure Arguments.Overrides (a : Arguments) (s s' : Settings) : Prop where
  format : a.output = none → s.output.format = s'.output.format
  color : a.noColor = false → s.output.color = s'.output.color
  logging : a.verbosityLevel = 0 → s.logging = s'.logging
  command : a.command.Overrides s s'

namespace Program
variable {m : Type → Type} [Monad m] [FileAccess m] [Printing m] {a : Arguments} {s s' : Settings}

def runSettled (a : Arguments) (e : Environment) (warnings : List String) (s : Settings) :
    m Exit := do
  let color := !a.noColor && e.terminal && s.output.color
  return exit color (warnings ++ logLines a e s) (← runWith a s color)

theorem runsSettled {fs : FileSystem} {e : Environment} {warnings : List String}
    (loaded : (Settings.load a.settingsFile e.userDirectory : StateM FileSystem _) fs =
      ((warnings, .ok s), fs)) :
    (runArguments a e : StateM FileSystem Exit) fs =
      (runSettled a e warnings s : StateM FileSystem Exit) fs := by
  simp only [runArguments, runSettled, bind, StateT.bind, loaded]
  cases (runWith a s _ : StateM FileSystem Outcome) fs with
  | mk o after =>
    obtain ⟨output, result⟩ := o
    cases result <;> rfl

theorem sameFormat (same : a.Overrides s s') : reportFormat a s = reportFormat a s' := by
  unfold reportFormat
  cases given : a.output with
  | none =>
    simp only [OutputSettings.outputFormat, same.format given]
  | some format => rfl

theorem sameColor (same : a.Overrides s s') (e : Environment) :
    (!a.noColor && e.terminal && s.output.color) =
      (!a.noColor && e.terminal && s'.output.color) := by
  cases colorless : a.noColor with
  | false => rw [same.color colorless]
  | true => rfl

theorem sameLog (same : a.Overrides s s') (e : Environment) : logLines a e s = logLines a e s' := by
  unfold logLines logPlan
  by_cases quiet : a.verbosityLevel = 0
  · rw [same.logging quiet]
  · simp only [if_neg quiet]

theorem sameCommand (same : a.Overrides s s') (w : Writer) :
    (runCommand a s w : m Outcome) = runCommand a s' w := by
  have settled := same.command
  unfold runCommand
  cases command : a.command with
  | transform c =>
    rw [command] at settled
    exact TransformCommand.runsSame settled w
  | validate c => rfl
  | platforms =>
    rw [command] at settled
    have layouts : s.output.layout = s'.output.layout := settled
    simp only [PlatformsCommand.run, PlatformsCommand.output, layouts]
  | completions shell => rfl

theorem sameSettled (same : a.Overrides s s') (e : Environment) (warnings : List String) :
    (runSettled a e warnings s : m Exit) = runSettled a e warnings s' := by
  simp only [runSettled, runWith, sameFormat same, sameColor same, sameLog same, sameCommand same]

/-- Settings that the command line overrides are not seen. Under two settings that differ only in
them a run writes the same, ends with the same code and leaves the same files; so do two runs that
load these settings, from wherever they do. -/
theorem commandLineWins (same : a.Overrides s s') (e : Environment) (fs : FileSystem) :
    (∀ warnings, (runSettled a e warnings s : StateM FileSystem Exit) fs =
      (runSettled a e warnings s' : StateM FileSystem Exit) fs) ∧
    ∀ file file' directory directory' warnings,
      (Settings.load file directory : StateM FileSystem _) fs = ((warnings, .ok s), fs) →
      (Settings.load file' directory' : StateM FileSystem _) fs = ((warnings, .ok s'), fs) →
      (runArguments { a with settingsFile := file } { e with userDirectory := directory } :
          StateM FileSystem Exit) fs =
        (runArguments { a with settingsFile := file' } { e with userDirectory := directory' } :
          StateM FileSystem Exit) fs := by
  constructor
  · intro warnings
    rw [sameSettled same]
  · intro file file' directory directory' warnings loaded loaded'
    have run := runsSettled (a := { a with settingsFile := file })
      (e := { e with userDirectory := directory }) loaded
    have run' := runsSettled (a := { a with settingsFile := file' })
      (e := { e with userDirectory := directory' }) loaded'
    have here : Arguments.Overrides { a with settingsFile := file } s s' :=
      ⟨same.format, same.color, same.logging, same.command⟩
    rw [run, run', sameSettled here]
    rfl

/- Two settings files that differ in all that this command line overrides; the format of the second
is none that is known. -/

def bareLine : Arguments :=
  ⟨0, false, none, some .yaml, true, .transform ⟨"t", some "mac", some "out.json", true⟩⟩

def oddSettings : Settings where
  defaultPlatform := some "beos"
  output := { format := "xml", color := false, symbolPrefix := "P::" }

def oddText : String :=
  "\x7b\"default_platform\":\"beos\",\"output\":\x7b\"format\":\"xml\",\"color\":false," ++
    "\"symbol_prefix\":\"P::\"\x7d\x7d"

def twoSettings : FileSystem :=
  ((FileSystem.fresh "w").put ["w", "plain"] (.file (Text.toBytes "\x7b\x7d"))).put ["w", "odd"]
    (.file (Text.toBytes oddText))

theorem plainLoaded (directory : Option String) :
    (Settings.load (some "plain") directory : StateM FileSystem _) twoSettings =
      (([], .ok {}), twoSettings) := by
  have held : twoSettings.settings "plain" = .ok {} := by
    rw [twoSettings.settingsAt _ (FileSystem.pathChecked (by decide)) rfl rfl]
    decide +kernel
  rw [Settings.loadFile, held]

theorem oddLoaded (directory : Option String) :
    (Settings.load (some "odd") directory : StateM FileSystem _) twoSettings =
      (([], .ok oddSettings), twoSettings) := by
  have held : twoSettings.settings "odd" = .ok oddSettings := by
    rw [twoSettings.settingsAt _ (FileSystem.pathChecked (by decide)) rfl rfl]
    decide +kernel
  rw [Settings.loadFile, held]

theorem oddUnseen : bareLine.Overrides {} oddSettings ∧
    (runArguments { bareLine with settingsFile := some "plain" } {} : StateM FileSystem Exit)
        twoSettings =
      (runArguments { bareLine with settingsFile := some "odd" } {} : StateM FileSystem Exit)
        twoSettings := by
  have same : bareLine.Overrides {} oddSettings :=
    ⟨nofun, nofun, fun _ => rfl, ⟨nofun, nofun, rfl⟩⟩
  exact ⟨same, (commandLineWins same {} twoSettings).2 _ _ _ _ _ (plainLoaded _) (oddLoaded _)⟩

end Program
end StudyPlan
