import StudyPlan.Proofs.FileSystem.Writing
import StudyPlan.Proofs.Output

/-! Resolving a config with a file to save to. What is saved is what would have been printed in a
format that the path tells. -/
namespace StudyPlan
open Json (Value)

namespace TransformCommand

def savedFormat (path : String) : OutputFormat :=
  if Path.extension? path ∈ [some "yaml", some "yml"] then .yaml else .jsonPretty

theorem formatTold (path : String) : DocumentFormat.ofPath path =
    if savedFormat path = .yaml then .yaml else .json := by
  unfold DocumentFormat.ofPath savedFormat
  split
  · rename_i same
    simp [same]
  · rename_i same
    simp [same]
  · rename_i yaml yml
    have neither : Path.extension? path ∉ [some "yaml", some "yml"] := by
      simp only [List.mem_cons, List.not_mem_nil, or_false, not_or]
      exact ⟨yaml, yml⟩
    rw [if_neg neither]
    rfl

theorem savedDocument (path : String) (members : List (String × Value)) :
    savedText path (.object members) = (savedFormat path).document (.object members) := by
  unfold savedText
  rw [formatTold]
  by_cases yaml : savedFormat path = .yaml
  · rw [if_pos yaml, yaml]
    rfl
  · have json : savedFormat path = .jsonPretty := by
      unfold savedFormat at yaml ⊢
      split at yaml
      · contradiction
      · rw [if_neg (by assumption)]
    rw [if_neg yaml, json]
    exact (Writer.finishAdds (w := ⟨.jsonPretty, false, false⟩) (.inr rfl)
      (Value.prettyCloses members 0)).symm

theorem elementsSaved (path : String) (d : Description) (l : ElementsLayout) :
    savedText path (d.elements l) = (savedFormat path).document (d.elements l) :=
  savedDocument path _

inductive Ends (c : TransformCommand) (s : Settings) (w : Writer) (fs : FileSystem) :
    Outcome → FileSystem → Prop where
  | refused {f : Failure} (failed : c.resolved s fs = .error f) : Ends c s w fs ⟨"", .error f⟩ fs
  | printed {p : Platform} {d : Description} (found : c.resolved s fs = .ok (p, d))
      (target : c.saveTo = none) :
      Ends c s w fs ⟨w.description d p (d.elements (c.layout s)), .ok ()⟩ fs
  | saved {p : Platform} {d : Description} {path : String} {fs' : FileSystem}
      (found : c.resolved s fs = .ok (p, d)) (target : c.saveTo = some path)
      (saved : fs.Saved fs' path
        (Text.toBytes ((savedFormat path).document (d.elements (c.layout s))))) :
      Ends c s w fs ⟨w.success (savedMessage d p path), .ok ()⟩ fs'
  | unsaved {p : Platform} {d : Description} {path : String} {fs' : FileSystem}
      {problem : FileProblem} (found : c.resolved s fs = .ok (p, d)) (target : c.saveTo = some path)
      (grown : FileSystem.Grown (fs.OnWay path) fs fs') :
      Ends c s w fs ⟨"", .error (.io problem)⟩ fs'
  | brokenOff {p : Platform} {d : Description} {path : String} {fs' : FileSystem}
      {problem : FileProblem} {content : List UInt8} {taken : Nat}
      (found : c.resolved s fs = .ok (p, d)) (target : c.saveTo = some path)
      (breaks : fs.refusals.writing (fs.place path) content = some (taken, problem))
      (saved : fs.Saved fs' path (content.take taken)) :
      Ends c s w fs ⟨"", .error (.io problem)⟩ fs'

theorem ends (c : TransformCommand) (s : Settings) (w : Writer) (fs : FileSystem) :
    ∃ o fs', (c.run s w : StateM FileSystem Outcome) fs = (o, fs') ∧ c.Ends s w fs o fs' := by
  rw [ran]
  cases found : c.resolved s fs with
  | error f => exact ⟨_, fs, rfl, .refused found⟩
  | ok result =>
    obtain ⟨p, d⟩ := result
    cases target : c.saveTo with
    | none =>
      refine ⟨_, fs, ?_, .printed found target⟩
      simp only [deliver, target, Outcome.printAll]
    | some path =>
      obtain ⟨result, fs', saving, ends⟩ :=
        fs.saveEnds path (savedText path (d.elements (c.layout s)))
      rw [elementsSaved] at saving ends
      simp only [deliver, target, elementsSaved, bind, StateT.bind, saving]
      cases ends with
      | kept saved => exact ⟨_, fs', rfl, .saved found target saved⟩
      | refused grown => exact ⟨_, fs', rfl, .unsaved found target grown⟩
      | brokenOff breaks saved => exact ⟨_, fs', rfl, .brokenOff found target breaks saved⟩

def toPrint (c : TransformCommand) : TransformCommand := { c with saveTo := none }

theorem printsDocument {c : TransformCommand} {s : Settings} {fs : FileSystem} {p : Platform}
    {d : Description} (found : c.resolved s fs = .ok (p, d)) {w : Writer}
    (machine : w.isHuman = false) : (c.toPrint.run s w : StateM FileSystem Outcome) fs =
      (⟨w.format.document (d.elements (c.layout s)), .ok ()⟩, fs) := by
  have same : c.toPrint.resolved s fs = c.resolved s fs := rfl
  rw [ran, same, found]
  simp only [deliver, toPrint, Writer.description, machine]
  rfl

theorem savedMachine (path : String) : savedFormat path ≠ .human := by
  unfold savedFormat
  split <;> simp

end TransformCommand

def Arguments.toPrint (a : Arguments) (c : TransformCommand) (f : OutputFormat) : Arguments :=
  { a with output := some f, command := .transform c.toPrint }

namespace Program

theorem runWithEnds {a : Arguments} {c : TransformCommand} (command : a.command = .transform c)
    {s : Settings} {color : Bool} {fs fs' : FileSystem} {output : String}
    (ends : (runWith a s color : StateM FileSystem Outcome) fs = (⟨output, .ok ()⟩, fs')) :
    ∃ w, c.Ends s w fs ⟨output, .ok ()⟩ fs' := by
  unfold runWith at ends
  cases chosen : reportFormat a s with
  | error f =>
    rw [chosen] at ends
    have refused : (⟨"", .error f⟩ : Outcome) = ⟨output, .ok ()⟩ := congrArg Prod.fst ends
    simp at refused
  | ok format =>
    simp only [chosen, runCommand, command] at ends
    obtain ⟨o, after, ran, how⟩ := c.ends s ⟨format, color, a.quiet⟩ fs
    cases ran.symm.trans ends
    exact ⟨_, how⟩

theorem printedIn {a : Arguments} {c : TransformCommand} {s : Settings} {fs : FileSystem}
    {p : Platform} {d : Description} (found : c.resolved s fs = .ok (p, d)) {f : OutputFormat}
    (machine : f ≠ .human) (color : Bool) :
    (runWith (a.toPrint c f) s color : StateM FileSystem Outcome) fs =
      (⟨f.document (d.elements (c.layout s)), .ok ()⟩, fs) :=
  TransformCommand.printsDocument found (w := ⟨f, color, a.quiet⟩)
    (by simp [Writer.isHuman, machine])

/-- What is saved is what the same command prints when it is not to save: as YAML where the path
has an extension of YAML, and as indented JSON everywhere else; and then it reads back as the same
value as what is printed as JSON on one line. -/
theorem savesAsPrinted {a : Arguments} {c : TransformCommand} (command : a.command = .transform c)
    {path : String} (target : c.saveTo = some path) {s : Settings} {color : Bool}
    {fs fs' : FileSystem} {output : String}
    (saved : (runWith a s color : StateM FileSystem Outcome) fs = (⟨output, .ok ()⟩, fs')) :
    ∃ (f : OutputFormat) (printed line : String),
      f = (if Path.extension? path ∈ [some "yaml", some "yml"] then .yaml else .jsonPretty) ∧
      fs'.lookup path = .ok (.file (Text.toBytes printed)) ∧
      (∀ color, (runWith (a.toPrint c f) s color : StateM FileSystem Outcome) fs =
        (⟨printed, .ok ()⟩, fs)) ∧
      (∀ color, (runWith (a.toPrint c .json) s color : StateM FileSystem Outcome) fs =
        (⟨line, .ok ()⟩, fs)) ∧
      (f = .jsonPretty → ∃ v, Value.parse line = .ok v ∧ Value.parse printed = .ok v) := by
  obtain ⟨w, ends⟩ := runWithEnds command saved
  cases ends with
  | printed found none =>
    rw [target] at none
    contradiction
  | @saved p d path' _ found target' saved =>
    cases target.symm.trans target'
    refine ⟨TransformCommand.savedFormat path, _, _, rfl, saved.held,
      printedIn found (TransformCommand.savedMachine path), printedIn found (by simp), ?_⟩
    intro json
    have lossless : (d.elements (c.layout s)).Lossless := Description.elementsLossless _ _
    rw [json]
    exact ⟨_, (Writer.documentPrinted (.inl rfl) lossless).parsed,
      (Writer.documentPrinted (.inr rfl) lossless).parsed⟩

def keepLone : TransformCommand := ⟨"t", some "mac", some "out/r.json", true⟩

def keepLoneLine : Arguments := ⟨0, false, none, some .yaml, false, .transform keepLone⟩

theorem keepLoneKept (text : String) : ∃ fs',
    (FileAccess.save "out/r.json" text : StateM FileSystem (Except FileProblem Unit)) loneFile =
      (.ok (), fs') := by
  have directory : FileSystem.checkPath "out" = .ok () := FileSystem.pathChecked (by decide)
  have path : FileSystem.checkPath "out/r.json" = .ok () := FileSystem.pathChecked (by decide)
  have made : loneFile.makeDirectories "out" =
      (.ok (), loneFile.put ["w", "out"] .directory) := by
    simp only [FileSystem.makeDirectories, directory]
    rfl
  have target : (loneFile.put ["w", "out"] .directory).target "out/r.json" =
      .ok ["w", "out", "r.json"] := by
    simp only [FileSystem.target, path]
    rfl
  have makes : (FileAccess.makeDirectories ((Path.parent? "out/r.json").getD "") :
      StateM FileSystem (Except FileProblem Unit)) loneFile = _ := made
  simp only [FileAccess.save, bind, StateT.bind, makes]
  show ∃ fs', FileSystem.writeText _ "out/r.json" text = (.ok (), fs')
  rw [FileSystem.writeText, target]
  exact ⟨_, rfl⟩

theorem keepLoneSaves : ∃ output fs', (runWith keepLoneLine {} false :
    StateM FileSystem Outcome) loneFile = (⟨output, .ok ()⟩, fs') := by
  have good : (keepLone.resolved {} loneFile).isOk = true := by
    unfold TransformCommand.resolved
    rw [show keepLone.file = "t" from rfl, loneLoaded]
    decide +kernel
  cases found : keepLone.resolved {} loneFile with
  | error f =>
    rw [found] at good
    contradiction
  | ok result =>
    obtain ⟨p, d⟩ := result
    obtain ⟨fs', kept⟩ := keepLoneKept
      (TransformCommand.savedText "out/r.json" (d.elements (keepLone.layout {})))
    let w : Writer := ⟨.yaml, false, false⟩
    refine ⟨w.success (TransformCommand.savedMessage d p "out/r.json"), fs', ?_⟩
    show (keepLone.run {} w : StateM FileSystem Outcome) loneFile = _
    have target : keepLone.saveTo = some "out/r.json" := rfl
    simp only [TransformCommand.ran, found, TransformCommand.deliver, target, bind, StateT.bind,
      kept]
    rfl

theorem keepLoneAsPrinted : keepLoneLine.command = .transform keepLone ∧
    keepLone.saveTo = some "out/r.json" ∧ ∃ output fs',
      (runWith keepLoneLine {} false : StateM FileSystem Outcome) loneFile =
        (⟨output, .ok ()⟩, fs') ∧
      ∃ printed line : String,
        fs'.lookup "out/r.json" = .ok (.file (Text.toBytes printed)) ∧
        (∀ color, (runWith (keepLoneLine.toPrint keepLone .jsonPretty) {} color :
          StateM FileSystem Outcome) loneFile = (⟨printed, .ok ()⟩, loneFile)) ∧
        (∀ color, (runWith (keepLoneLine.toPrint keepLone .json) {} color :
          StateM FileSystem Outcome) loneFile = (⟨line, .ok ()⟩, loneFile)) ∧
        ∃ v, Value.parse line = .ok v ∧ Value.parse printed = .ok v := by
  obtain ⟨output, fs', saved⟩ := keepLoneSaves
  obtain ⟨f, printed, line, format, held, pretty, compact, same⟩ :=
    savesAsPrinted (c := keepLone) rfl rfl saved
  have json : f = .jsonPretty := by
    rw [format]
    decide +kernel
  subst json
  exact ⟨rfl, rfl, output, fs', saved, printed, line, held, pretty, compact, same rfl⟩

end Program

end StudyPlan
