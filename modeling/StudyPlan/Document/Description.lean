import StudyPlan.Description
import StudyPlan.Json.Printer

/-! The written forms of descriptions: as they are, with bare symbols, and as the
elements document that a code generator reads, where a namespace stands in front
of every symbol. Each form has a writer of its own: the first lists the members that
are there, the second sets one member after the other. -/
namespace StudyPlan
open Json (Value)

def Param.toValue (p : Param) : Value :=
  .object [("key", .string p.key), ("value", .string p.value)]

def StudyExperiment.toValue (e : StudyExperiment) : Value :=
  .object <|
    [("name", .string e.name),
      ("platforms", .array (e.platforms.map fun p => .string p.symbol))] ++
    Value.optionalMember "params" (fun ps => .array (ps.map Param.toValue)) e.params ++
    Value.optionalMember "enable_features" Value.strings e.enableFeatures ++
    Value.optionalMember "disable_features" Value.strings e.disableFeatures ++
    Value.optionalMember "forcing_flag" .string e.forcingFlag ++
    [("is_low_end_device", .string e.isLowEndDevice.symbol),
      ("form_factors", .array (e.formFactors.map fun f => .string f.symbol))]

def Study.toValue (s : Study) : Value :=
  .object [("name", .string s.name), ("experiments", .array (s.experiments.map (·.toValue)))]

structure ElementsLayout where
  elementName : String
  symbolPrefix : String
  deriving DecidableEq, Repr

namespace ElementsLayout

def standard : ElementsLayout := ⟨"kFieldTrialConfig", "Study::"⟩

def bare : ElementsLayout := { standard with symbolPrefix := "" }

def symbol (l : ElementsLayout) (name : String) : Value := .string (l.symbolPrefix ++ name)

def param (p : Param) : Value := .object [("key", .string p.key), ("value", .string p.value)]

def experimentMembers (l : ElementsLayout) (e : StudyExperiment) : List (String × Value) :=
  let named := Value.setMember "name" (.string e.name) []
  let targeted :=
    Value.setMember "platforms" (.array (e.platforms.map fun p => l.symbol p.symbol)) named
  let valued := Value.setPresent "params" (fun ps => .array (ps.map param)) e.params targeted
  let enabled := Value.setPresent "enable_features" Value.strings e.enableFeatures valued
  let disabled := Value.setPresent "disable_features" Value.strings e.disableFeatures enabled
  let flagged := Value.setPresent "forcing_flag" .string e.forcingFlag disabled
  let limited := Value.setMember "is_low_end_device" (l.symbol e.isLowEndDevice.symbol) flagged
  Value.setMember "form_factors" (.array (e.formFactors.map fun f => l.symbol f.symbol)) limited

def experiment (l : ElementsLayout) (e : StudyExperiment) : Value :=
  .object (l.experimentMembers e)

def study (l : ElementsLayout) (s : Study) : Value :=
  .object [("name", .string s.name), ("experiments", .array (s.experiments.map l.experiment))]

end ElementsLayout

namespace Description

def toValue (d : Description) : Value :=
  .object [("studies", .array (d.studies.map (·.toValue)))]

def text (d : Description) : String := d.toValue.compact

def elements (d : Description) (l : ElementsLayout) : Value :=
  let elements :=
    Value.setMember l.elementName (.object [("studies", .array (d.studies.map l.study))]) []
  .object [("elements", .object elements)]

end Description
end StudyPlan
