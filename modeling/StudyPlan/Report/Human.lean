import StudyPlan.Description
import StudyPlan.Violation

/-! Descriptions and violations for people to read. -/
namespace StudyPlan

def listed (texts : List String) : String := ", ".intercalate texts

def textLines (lines : List String) : String := String.join (lines.map (· ++ "\n"))

namespace StudyExperiment

def optionalLine {α : Type} (label : String) (text : α → String) : Option α → List String
  | none => []
  | some x => ["      " ++ label ++ ": " ++ text x]

def humanLines (e : StudyExperiment) : List String :=
  ["  • " ++ e.name] ++
    optionalLine "Params" (fun ps => listed (ps.map fun p => p.key ++ "=" ++ p.value)) e.params ++
    optionalLine "Enable" listed e.enableFeatures ++
    optionalLine "Disable" listed e.disableFeatures ++
    optionalLine "Forcing flag" id e.forcingFlag ++
    optionalLine "Low-end device" OptionalBool.symbol (some e.isLowEndDevice) ++
    optionalLine "Form factors" (fun fs => listed (fs.map (·.symbol)))
      (if e.formFactors.isEmpty then none else some e.formFactors)

end StudyExperiment

def Study.humanLines (s : Study) : List String :=
  ["", "📦 " ++ s.name] ++ s.experiments.flatMap (·.humanLines)

def Description.human (d : Description) (p : Platform) : String :=
  textLines <|
    ["═══ " ++ p.tag ++ " (" ++ p.symbol ++ ") ═══"] ++
      if d.isEmpty then ["No studies target this platform"]
      else
        [toString d.size ++ " studies, " ++ toString d.experimentCount ++ " experiments"] ++
          d.studies.flatMap (·.humanLines)

def BrokenRule.humanLines (b : BrokenRule) : List String :=
  ["  • Rule: " ++ b.rule, "    Expected: " ++ b.expected, "    Actual: " ++ b.actual]

def Violation.human (v : Violation) : String :=
  textLines <|
    ["📍 Path: " ++ v.path, "💬 Message: " ++ v.message] ++
      ((v.broken.map BrokenRule.humanLines).getD [])

end StudyPlan
