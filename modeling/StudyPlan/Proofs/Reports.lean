import StudyPlan.Proofs.Output
import StudyPlan.Proofs.RoundTrip
import StudyPlan.Schema.Violation

/-! The reports on trial configs, for programs to read. The one on a valid config counts its
trials. The other holds the violation in its written form, which reads back as the violation that
the command fails with. -/
namespace StudyPlan
open Json (Value)
open Json.Value
open Schema (Problem Record)

theorem BrokenRule.valueBack (b : BrokenRule) :
    readRecord Schema.brokenRuleRecord b.toValue = .ok b := by
  let r : Record Value (Except Problem) Schema.BrokenRuleDraft BrokenRule :=
    Schema.brokenRuleRecord
  have ruleField : r.field? "rule" =
      some (.of "rule" readString fun d x => { d with rule := some x }) := rfl
  have expectedField : r.field? "expected" =
      some (.of "expected" readString fun d x => { d with expected := some x }) := rfl
  have actualField : r.field? "actual" =
      some (.of "actual" readString fun d x => { d with actual := some x }) := rfl
  have text : ∀ s, readString (.string s) = .ok s := fun _ => rfl
  have built := ((Builds.one (s := r.initial) ruleField (text b.rule))
    |>.append (.one expectedField (text b.expected)) (by simp))
    |>.append (.one actualField (text b.actual)) (by simp)
  have read : readByName r [] r.initial [("rule", .string b.rule),
      ("expected", .string b.expected), ("actual", .string b.actual)] = .ok _ := built.done
  simp only [BrokenRule.toValue, readRecord]
  rw [read]
  rfl

namespace Violation

theorem brokenBack (broken : Option BrokenRule) :
    readOptional (readRecord Schema.brokenRuleRecord) ((broken.map BrokenRule.toValue).getD .null) =
      .ok broken := by
  cases broken with
  | none => rfl
  | some b => exact optionalBack nofun b.valueBack

theorem valueBack (v : Violation) :
    (Schema.violation v.toValue : Except Problem Violation) = .ok v := by
  let r : Record Value (Except Problem) Schema.ViolationDraft Violation := Schema.violationRecord
  have pathField : r.field? "path" =
      some (.of "path" readString fun d x => { d with path := some x }) := rfl
  have messageField : r.field? "message" =
      some (.of "message" readString fun d x => { d with message := some x }) := rfl
  have brokenField : r.field? "violation" = some (.of "violation"
      (readOptional (readRecord Schema.brokenRuleRecord)) fun d x =>
        { d with broken := some x }) := rfl
  have text : ∀ s, readString (.string s) = .ok s := fun _ => rfl
  have built := ((Builds.one (s := r.initial) pathField (text v.path))
    |>.append (.one messageField (text v.message)) (by simp))
    |>.append (.one brokenField (brokenBack v.broken)) (by simp)
  have read : readByName r [] r.initial [("path", .string v.path), ("message", .string v.message),
      ("violation", (v.broken.map BrokenRule.toValue).getD .null)] = .ok _ := built.done
  show readRecord Schema.violationRecord v.toValue = .ok v
  simp only [toValue, readRecord]
  rw [read]
  rfl

end Violation

namespace ValidateCommand

theorem checkedValid {c : ValidateCommand} {fs : FileSystem} {config : TrialConfig}
    (loaded : fs.trialConfig c.file = .ok config) (valid : config.validate = .ok ()) :
    c.checked fs = .ok config.size := by
  unfold checked
  rw [loaded]
  show check config = .ok config.size
  unfold check
  rw [valid]
  rfl

theorem checkedMisshapen {c : ValidateCommand} {fs : FileSystem} {v : Violation}
    (refused : fs.trialConfig c.file = .error (.violation v)) :
    c.checked fs = .error (.violation v) := by
  unfold checked
  rw [refused]
  rfl

theorem checkedInvalid {c : ValidateCommand} {fs : FileSystem} {config : TrialConfig} {v : Violation}
    (loaded : fs.trialConfig c.file = .ok config) (refused : config.validate = .error v) :
    c.checked fs = .error (.violation v) := by
  unfold checked
  rw [loaded]
  show check config = .error (.violation v)
  unfold check
  rw [refused]
  rfl

theorem ranReporting {w : Writer} (json : w.format.IsJson) (c : ValidateCommand)
    (fs : FileSystem) : (c.run w : StateM FileSystem Outcome) fs =
      (⟨w.format.written (reported? (c.checked fs)), c.result fs⟩, fs) := by
  rw [ran, reports (Writer.jsonMachine json)]

structure Gives (members : List (String × Value)) (v : Violation) : Prop where
  invalid : members.lookup "valid" = some (.bool false)
  back : ∃ member, members.lookup "violation" = some member ∧
    (Schema.violation member : Except Problem Violation) = .ok v

theorem violationGiven (v : Violation) :
    Gives [("valid", .bool false), ("violation", v.toValue)] v :=
  ⟨rfl, v.toValue, rfl, v.valueBack⟩

/-- For programs to read, a valid config is reported with the number of its trials, which is a
machine word where it is read back; and what else is wrong with a document is reported as a
violation that reads back as the one the command fails with. -/
theorem reportsFaithfully {w : Writer} (json : w.format.IsJson) (c : ValidateCommand)
    (fs : FileSystem) :
    (∀ config, fs.trialConfig c.file = .ok config → config.validate = .ok () →
      ∃ output, (c.run w : StateM FileSystem Outcome) fs = (⟨output, .ok ()⟩, fs) ∧
        output = w.format.document
          (.object [("valid", .bool true), ("trials", .natural config.size)]) ∧
        (config.size < Nat.pow 2 64 → Printed w.format output
          (.object [("valid", .bool true), ("trials", .natural config.size)]))) ∧
    ∀ v, (fs.trialConfig c.file = .error (.violation v) ∨
        ∃ config, fs.trialConfig c.file = .ok config ∧ config.validate = .error v) →
      ∃ output members,
        (c.run w : StateM FileSystem Outcome) fs = (⟨output, .error (.violation v)⟩, fs) ∧
        Printed w.format output (.object members) ∧ Gives members v := by
  refine ⟨?_, ?_⟩
  · intro config loaded valid
    have checked := checkedValid loaded valid
    refine ⟨_, ?_, rfl, fun fits => Writer.documentPrinted json (validLossless fits)⟩
    rw [ranReporting json, result, checked]
    rfl
  · intro v refused
    have checked : c.checked fs = .error (.violation v) := by
      rcases refused with misshapen | ⟨config, loaded, invalid⟩
      · exact checkedMisshapen misshapen
      · exact checkedInvalid loaded invalid
    refine ⟨_, _, ?_, Writer.documentPrinted json (violationLossless v), violationGiven v⟩
    rw [ranReporting json, result, checked]
    rfl

def oddTrial : TrialConfig :=
  ⟨⟨[("\"\n😀", [{ platforms := ["mac", "\x01é\\"], experiments := [{ name := "" }] }])]⟩⟩

def oddFile : FileSystem :=
  (FileSystem.fresh "w").put ["w", "t"] (.file (Text.toBytes oddTrial.text))

def oddViolation : Violation where
  path := "$.\"\n😀[0].platforms[1]"
  message := "unknown platform tag '\x01é\\' (expected one of: windows, mac, linux, chromeos, " ++
    "android, android_webview, ios, fuchsia)"
  broken := some ⟨"platform_tag",
    "one of: windows, mac, linux, chromeos, android, android_webview, ios, fuchsia", "\x01é\\"⟩

theorem oddReported : OutputFormat.jsonPretty.IsJson ∧ oddFile.trialConfig "t" = .ok oddTrial ∧
    oddTrial.validate = .error oddViolation ∧ ∃ output members,
      ((ValidateCommand.mk "t").run ⟨.jsonPretty, true, true⟩ : StateM FileSystem Outcome) oddFile =
        (⟨output, .error (.violation oddViolation)⟩, oddFile) ∧
      Printed .jsonPretty output (.object members) ∧ Gives members oddViolation := by
  have loaded : oddFile.trialConfig "t" = .ok oddTrial := by
    have located : oddFile.locate "t" = .ok ["w", "t"] := Program.loneLocated _
    simp only [FileSystem.trialConfig, FileSystem.isThere, FileSystem.readText, FileSystem.lookup,
      located]
    decide +kernel
  have refused : oddTrial.validate = .error oddViolation := by decide +kernel
  have reported := (reportsFaithfully (w := ⟨.jsonPretty, true, true⟩) (.inr rfl) ⟨"t"⟩ oddFile).2
    oddViolation (.inr ⟨oddTrial, loaded, refused⟩)
  exact ⟨.inr rfl, loaded, refused, reported⟩

end ValidateCommand

end StudyPlan
