import StudyPlan.Trial
import StudyPlan.Json.Printer

/-! The written form of trial configs: absent fields and empty form-factor lists are
left out, everything else is kept, in order. -/
namespace StudyPlan
open Json (Value)

def OrderedMap.toValue {α : Type} (encode : α → Value) (m : OrderedMap α) : Value :=
  .object (m.entries.map fun (key, x) => (key, encode x))

def Experiment.toValue (e : Experiment) : Value :=
  .object <|
    [("name", .string e.name)] ++
    Value.optionalMember "params" (OrderedMap.toValue .string) e.params ++
    Value.optionalMember "enable_features" Value.strings e.enableFeatures ++
    Value.optionalMember "disable_features" Value.strings e.disableFeatures ++
    Value.optionalMember "forcing_flag" .string e.forcingFlag

def PlatformEntry.toValue (e : PlatformEntry) : Value :=
  .object <|
    [("platforms", Value.strings e.platforms)] ++
    (if e.formFactors.isEmpty then [] else [("form_factors", Value.strings e.formFactors)]) ++
    Value.optionalMember "is_low_end_device" .bool e.isLowEndDevice ++
    [("experiments", .array (e.experiments.map Experiment.toValue))]

namespace TrialConfig

def entriesValue (entries : List PlatformEntry) : Value :=
  .array (entries.map PlatformEntry.toValue)

def toValue (c : TrialConfig) : Value := c.trials.toValue entriesValue

def text (c : TrialConfig) : String := c.toValue.compact

end TrialConfig
end StudyPlan
