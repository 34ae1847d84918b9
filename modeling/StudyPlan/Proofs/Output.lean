import StudyPlan.Document.Trial
import StudyPlan.Proofs.Commands
import StudyPlan.Proofs.Distinct
import StudyPlan.Proofs.FileSystem.Path
import StudyPlan.Proofs.Json.NumberWritten

/-! What commands write for programs to read: nothing, or one JSON document that gives back what
was to be reported. Being quiet makes no difference to it. -/
namespace StudyPlan
open Json (Value)
open Json.Value

theorem Text.trimSolid {p : Char → Bool} {s : String} {c : Char}
    (last : s.toList.getLast? = some c) (solid : p c = false) : trimEnd p s = s := by
  obtain ⟨before, spelt⟩ := List.getLast?_eq_some_iff.mp last
  unfold trimEnd
  rw [spelt, List.reverse_append]
  simp [solid, ← spelt]

theorem braceLast (text : String) : (text ++ "\x7d").toList.getLast? = some '\x7d' := by
  simp

theorem Json.Value.compactCloses (members : List (String × Value)) :
    (Value.object members).compact.toList.getLast? = some '\x7d' := by
  rw [compact]
  exact braceLast _

theorem Json.Value.prettyCloses (members : List (String × Value)) (level : Nat) :
    ((Value.object members).pretty level).toList.getLast? = some '\x7d' := by
  cases members with
  | nil => simp [pretty]
  | cons m rest =>
    rw [pretty]
    exact braceLast _

def OutputFormat.IsJson (f : OutputFormat) : Prop := f = .json ∨ f = .jsonPretty

def OutputFormat.document (f : OutputFormat) (v : Value) : String :=
  (Writer.mk f false false).data v

theorem Writer.dataDocument (w : Writer) (v : Value) : w.data v = w.format.document v := rfl

/- The output is one document, with a line break behind it if the format has one there, and it
reads back as the value. -/
structure Printed (format : OutputFormat) (output : String) (v : Value) : Prop where
  text : output = Writer.render format v ++ if format = .jsonPretty then "\n" else ""
  closed : (Writer.render format v).toList.getLast? = some '\x7d'
  alone : Value.parse (Writer.render format v) = .ok v
  parsed : Value.parse output = .ok v

theorem Printed.nonempty {format : OutputFormat} {output : String} {v : Value}
    (printed : Printed format output v) : output ≠ "" := by
  intro empty
  have closed := printed.closed
  have text := printed.text
  rw [empty] at text
  rw [(String.append_eq_empty_iff.mp text.symm).1] at closed
  contradiction

namespace Writer
variable {w : Writer}

theorem jsonMachine (json : w.format.IsJson) : w.isHuman = false := by
  unfold isHuman
  rcases json with same | same <;> rw [same] <;> rfl

theorem messageless (machine : w.isHuman = false) (message : String) :
    w.info message = "" ∧ w.success message = "" ∧ w.warning message = "" ∧
      w.error message = "" := by
  simp [info, success, warning, error, machine]

theorem renderCloses {f : OutputFormat} (json : f.IsJson) (members : List (String × Value)) :
    (render f (.object members)).toList.getLast? = some '\x7d' := by
  rcases json with same | same
  · rw [same]
    exact compactCloses members
  · rw [same]
    exact prettyCloses members 0

theorem finishAdds (json : w.format.IsJson) {text : String}
    (closed : text.toList.getLast? = some '\x7d') :
    w.finish text = text ++ if w.format = .jsonPretty then "\n" else "" := by
  unfold finish
  rcases json with same | same
  · simp [same]
  · simp [same, line, Text.trimSolid closed]

theorem documentPrinted {f : OutputFormat} (json : f.IsJson) {members : List (String × Value)}
    (lossless : (Value.object members).Lossless) :
    Printed f (f.document (.object members)) (.object members) := by
  have closed := renderCloses json members
  have text : f.document (.object members) = _ := finishAdds json closed
  rcases json with same | same
  · have read : parse (render f (.object members)) = .ok (.object members) := by
      rw [same]
      exact compactParsed lossless
    refine ⟨text, closed, read, ?_⟩
    rw [text, same, if_neg (by decide), String.append_empty, ← same]
    exact read
  · have read : ∀ gap : String, Json.Gap gap.toList →
        parse (render f (.object members) ++ gap) = .ok (.object members) := by
      intro gap blank
      rw [same]
      exact prettyParsed lossless 0 blank
    refine ⟨text, closed, ?_, ?_⟩
    · rw [← String.append_empty (s := render f (.object members))]
      exact read "" (by simp [Json.Gap])
    · rw [text, if_pos same]
      exact read "\n" (by simp [Json.Gap, Json.Cursor.isBlank])

end Writer

namespace PlatformsCommand

theorem listingLossless (layout : ElementsLayout) : (listing layout).Lossless := by
  have row : ∀ r : String × String,
      (Value.object [("tag", .string r.1), ("symbol", .string r.2)]).Lossless := by
    simp [Lossless, MembersLossless]
  have rows : ∀ rs, (rowsValue rs).Lossless := mappedLossless row
  simp [listing, Lossless, MembersLossless, rows]

end PlatformsCommand

theorem Violation.valueLossless (v : Violation) : v.toValue.Lossless := by
  obtain ⟨path, message, broken⟩ := v
  cases broken <;> simp [toValue, BrokenRule.toValue, Lossless, MembersLossless]

namespace ValidateCommand

theorem validLossless {trials : Nat} (fits : trials < Nat.pow 2 64) :
    (validReport trials).Lossless := by
  have count : (Value.natural trials).Lossless := Json.naturalExact fits
  simp [validReport, Lossless, MembersLossless, count]

theorem violationLossless (v : Violation) : (violationReport v).Lossless := by
  simp [violationReport, Lossless, MembersLossless, v.valueLossless]

end ValidateCommand

def ValidateCommand.reported? : Except Failure Nat → Option Value
  | .ok trials => some (validReport trials)
  | .error (.violation v) => some (violationReport v)
  | .error _ => none

def TransformCommand.reported? (c : TransformCommand) (s : Settings) :
    Except Failure (Platform × Description) → Option Value
  | .error _ => none
  | .ok (_, d) => if c.saveTo = none then some (d.elements (c.layout s)) else none

namespace Command

def reported? (s : Settings) (fs : FileSystem) : Command → Option Value
  | .platforms => some (PlatformsCommand.listing s.output.layout)
  | .validate c => ValidateCommand.reported? (c.checked fs)
  | .transform c => c.reported? s (c.resolved s fs)
  | .completions _ => none

inductive Answers : Command → Except Failure Unit → Prop where
  | platforms {result : Except Failure Unit} : Answers .platforms result
  | valid {c : ValidateCommand} : Answers (.validate c) (.ok ())
  | violation {c : ValidateCommand} {v : Violation} :
      Answers (.validate c) (.error (.violation v))
  | printed {c : TransformCommand} (target : c.saveTo = none) : Answers (.transform c) (.ok ())

end Command

def OutputFormat.written (f : OutputFormat) : Option Value → String
  | none => ""
  | some v => f.document v

theorem PlatformsCommand.listed {w : Writer} (machine : w.isHuman = false) (s : Settings) :
    output s w = w.format.document (listing s.output.layout) := by
  simp [output, machine, Writer.dataDocument]

namespace ValidateCommand

theorem reports {w : Writer} (machine : w.isHuman = false) (message : String)
    (checked : Except Failure Nat) :
    w.info message ++ report w checked = w.format.written (reported? checked) := by
  have messages := Writer.messageless machine
  cases checked with
  | ok trials =>
    simp [report, messages, machine, reported?, OutputFormat.written, Writer.dataDocument]
  | error f =>
    cases f <;>
      simp [report, messages, machine, reported?, OutputFormat.written, Writer.dataDocument]

theorem answers (c : ValidateCommand) (checked : Except Failure Nat) :
    (Command.validate c).Answers (checked.map fun _ => ()) ↔ (reported? checked).isSome := by
  cases checked with
  | ok trials => exact ⟨fun _ => rfl, fun _ => .valid⟩
  | error f =>
    cases f with
    | violation v => exact ⟨fun _ => rfl, fun _ => .violation⟩
    | _ => exact ⟨nofun, nofun⟩

theorem checkedSize {c : ValidateCommand} {fs : FileSystem} {trials : Nat}
    (checked : c.checked fs = .ok trials) :
    ∃ config, fs.trialConfig c.file = .ok config ∧ config.size = trials := by
  unfold ValidateCommand.checked at checked
  cases loaded : fs.trialConfig c.file with
  | error f =>
    rw [loaded] at checked
    contradiction
  | ok config =>
    rw [loaded] at checked
    change check config = .ok trials at checked
    unfold check at checked
    cases validated : config.validate with
    | error v =>
      rw [validated] at checked
      contradiction
    | ok _ =>
      rw [validated] at checked
      exact ⟨config, rfl, Except.ok.inj checked⟩

end ValidateCommand

theorem TransformCommand.reports {format : OutputFormat} (json : format.IsJson)
    (c : TransformCommand) (s : Settings) (fs : FileSystem) : ∃ result after,
    (∀ color quiet, (c.run s ⟨format, color, quiet⟩ : StateM FileSystem Outcome) fs =
      (⟨format.written (c.reported? s (c.resolved s fs)), result⟩, after)) ∧
    ((Command.transform c).Answers result ↔ (c.reported? s (c.resolved s fs)).isSome) := by
  have machine : ∀ color quiet, (Writer.mk format color quiet).isHuman = false :=
    fun _ _ => Writer.jsonMachine json
  simp only [ran]
  cases c.resolved s fs with
  | error f => exact ⟨.error f, fs, fun _ _ => rfl, nofun, nofun⟩
  | ok found =>
    obtain ⟨p, d⟩ := found
    cases target : c.saveTo with
    | none =>
      refine ⟨.ok (), fs, ?_, fun _ => ?_, fun _ => .printed target⟩
      · intro color quiet
        simp only [deliver, target, reported?, Writer.description, machine]
        rfl
      · simp [reported?, target]
    | some path =>
      -- what is saved is no report, whether or not it can be saved
      have none : c.reported? s (.ok (p, d)) = .none := by simp [reported?, target]
      obtain ⟨⟨result, after⟩, saved⟩ : ∃ x, (FileAccess.save path
          (savedText path (d.elements (c.layout s))) : StateM FileSystem _) fs = x := ⟨_, rfl⟩
      rw [none]
      cases result with
      | error problem =>
        refine ⟨.error (.io problem), after, ?_, nofun, nofun⟩
        intro color quiet
        simp only [deliver, target, bind, StateT.bind, saved]
        rfl
      | ok _ =>
        refine ⟨.ok (), after, ?_, ?_, nofun⟩
        · intro color quiet
          simp only [deliver, target, bind, StateT.bind, saved, Writer.messageless (machine _ _)]
          rfl
        · rintro ⟨⟩
          simp_all

/- The trials of a config that is to be checked are counted by a machine word, as the whole
numbers of a document are. -/
def Command.Counted (fs : FileSystem) (command : Command) : Prop :=
  ∀ c trials, command = .validate c → fs.trialConfig c.file = .ok trials →
    trials.size < Nat.pow 2 64

theorem Command.reportLossless {s : Settings} {fs : FileSystem} {command : Command} {v : Value}
    (counted : command.Counted fs) (reported : command.reported? s fs = some v) :
    ∃ members, v = .object members ∧ (Value.object members).Lossless := by
  cases command with
  | platforms =>
    cases reported
    exact ⟨_, rfl, PlatformsCommand.listingLossless _⟩
  | validate c =>
    change ValidateCommand.reported? (c.checked fs) = some v at reported
    cases checked : c.checked fs with
    | ok trials =>
      rw [checked] at reported
      cases reported
      obtain ⟨config, loaded, rfl⟩ := ValidateCommand.checkedSize checked
      exact ⟨_, rfl, ValidateCommand.validLossless (counted c config rfl loaded)⟩
    | error f =>
      rw [checked] at reported
      cases f with
      | violation v =>
        cases reported
        exact ⟨_, rfl, ValidateCommand.violationLossless v⟩
      | _ => contradiction
  | transform c =>
    change c.reported? s (c.resolved s fs) = some v at reported
    unfold TransformCommand.reported? at reported
    split at reported
    · contradiction
    · split at reported
      · cases reported
        exact ⟨_, rfl, Description.elementsLossless _ _⟩
      · contradiction
  | completions shell => contradiction

namespace Program

theorem commandReports {format : OutputFormat} (json : format.IsJson) (a : Arguments)
    (s : Settings) (fs : FileSystem) (reporting : ∀ shell, a.command ≠ .completions shell) :
    ∃ result after,
      (∀ color quiet, (runCommand a s ⟨format, color, quiet⟩ : StateM FileSystem Outcome) fs =
        (⟨format.written (a.command.reported? s fs), result⟩, after)) ∧
      (a.command.Answers result ↔ (a.command.reported? s fs).isSome) := by
  have machine : ∀ color quiet, (Writer.mk format color quiet).isHuman = false :=
    fun _ _ => Writer.jsonMachine json
  unfold runCommand
  cases command : a.command with
  | platforms =>
    refine ⟨.ok (), fs, ?_, fun _ => rfl, fun _ => .platforms⟩
    intro color quiet
    simp only [PlatformsCommand.run, PlatformsCommand.listed (machine _ _)]
    rfl
  | validate c =>
    refine ⟨c.result fs, fs, ?_, ValidateCommand.answers c (c.checked fs)⟩
    intro color quiet
    simp only [ValidateCommand.ran, ValidateCommand.reports (machine _ _)]
    rfl
  | transform c => exact TransformCommand.reports json c s fs
  | completions shell => exact absurd command (reporting shell)

/-- In the formats that programs read, a command writes nothing, or its report as one document
that reads back, however quiet it is to be. -/
theorem machineOutput {format : OutputFormat} (json : format.IsJson) (a : Arguments)
    (s : Settings) (fs : FileSystem) (reporting : ∀ shell, a.command ≠ .completions shell)
    (counted : a.command.Counted fs) :
    ∃ o after,
      (∀ color quiet, (runCommand a s ⟨format, color, quiet⟩ : StateM FileSystem Outcome) fs =
        (o, after)) ∧
      (match a.command.reported? s fs with
        | none => o.output = ""
        | some v => Printed format o.output v) ∧
      (o.output ≠ "" ↔ a.command.Answers o.result) := by
  obtain ⟨result, after, ran, answers⟩ := commandReports json a s fs reporting
  refine ⟨_, after, ran, ?_⟩
  cases reported : a.command.reported? s fs with
  | none =>
    rw [reported] at answers
    refine ⟨rfl, fun written => absurd rfl written, fun answered => ?_⟩
    exact absurd (answers.mp answered) (by simp)
  | some v =>
    obtain ⟨members, rfl, lossless⟩ := Command.reportLossless counted reported
    have printed := Writer.documentPrinted json lossless
    rw [reported] at answers
    exact ⟨printed, fun _ => answers.mpr rfl, fun _ => printed.nonempty⟩

def loneTrial : TrialConfig :=
  ⟨⟨[("\"\n😀", [{ platforms := ["mac"], experiments := [{ name := "" }] }])]⟩⟩

def loneFile : FileSystem :=
  (FileSystem.fresh "w").put ["w", "t"] (.file (Text.toBytes loneTrial.text))

def checkLone : Arguments := ⟨2, true, none, none, false, .validate ⟨"t"⟩⟩

theorem loneLocated (node : FileNode) :
    ((FileSystem.fresh "w").put ["w", "t"] node).locate "t" = .ok ["w", "t"] := by
  have good : FileSystem.checkPath "t" = .ok () := FileSystem.pathChecked (by decide)
  simp only [FileSystem.locate, good]
  rfl

theorem loneLoaded : loneFile.trialConfig "t" = .ok loneTrial := by
  have located : loneFile.locate "t" = .ok ["w", "t"] := loneLocated _
  simp only [FileSystem.trialConfig, FileSystem.isThere, FileSystem.readText, FileSystem.lookup,
    located]
  decide +kernel

theorem checkLoneOutput : checkLone.command.Counted loneFile ∧
    ∃ o after, (∀ color quiet,
        (runCommand checkLone default ⟨.jsonPretty, color, quiet⟩ : StateM FileSystem Outcome)
          loneFile = (o, after)) ∧
      Printed .jsonPretty o.output (ValidateCommand.validReport 1) ∧ o.output ≠ "" := by
  have counted : checkLone.command.Counted loneFile := by
    intro c trials same loaded
    cases same
    rw [loneLoaded] at loaded
    cases loaded
    decide
  have checked : (ValidateCommand.mk "t").checked loneFile = .ok 1 := by
    unfold ValidateCommand.checked
    rw [loneLoaded]
    decide +kernel
  have reported : checkLone.command.reported? default loneFile =
      some (ValidateCommand.validReport 1) := congrArg ValidateCommand.reported? checked
  obtain ⟨o, after, ran, output, -⟩ :=
    machineOutput (.inr rfl) checkLone default loneFile nofun counted
  rw [reported] at output
  exact ⟨counted, o, after, ran, output, output.nonempty⟩

end Program
end StudyPlan
