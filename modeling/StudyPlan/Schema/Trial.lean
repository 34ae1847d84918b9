import StudyPlan.Schema.Format
import StudyPlan.Trial

/-! The schema of trial configs. It fixes shapes only: which tags are known and which
lists must hold something is for the resolution to say. -/
namespace StudyPlan.Schema
variable {Node : Type} {Result : Type → Type} [Format Node Result]

structure ExperimentDraft where
  name : Option String := none
  params : Option (OrderedMap String) := none
  enableFeatures : Option (List String) := none
  disableFeatures : Option (List String) := none
  forcingFlag : Option String := none

namespace ExperimentDraft

def finish (d : ExperimentDraft) : Except Nat Experiment :=
  match d.name with
  | none => .error 0
  | some name => .ok ⟨name, d.params, d.enableFeatures, d.disableFeatures, d.forcingFlag⟩

end ExperimentDraft

def strings : Node → Result (List String) := Format.list Format.string

def experimentRecord : Record Node Result ExperimentDraft Experiment where
  name := "Experiment"
  fields := [
    .of "name" Format.string fun d x => { d with name := some x },
    .of "params" (Format.optional (Format.dictionary Format.string)) fun d x =>
      { d with params := x },
    .of "enable_features" (Format.optional strings) fun d x => { d with enableFeatures := x },
    .of "disable_features" (Format.optional strings) fun d x => { d with disableFeatures := x },
    .of "forcing_flag" (Format.optional Format.string) fun d x => { d with forcingFlag := x }]
  refusesUnknown := true
  initial := {}
  finish := fun _ => ExperimentDraft.finish

structure EntryDraft where
  platforms : Option (List String) := none
  formFactors : List String := []
  isLowEndDevice : Option Bool := none
  experiments : Option (List Experiment) := none

namespace EntryDraft

def finish (d : EntryDraft) : Except Nat PlatformEntry :=
  match d.platforms, d.experiments with
  | none, _ => .error 0
  | _, none => .error 3
  | some platforms, some experiments =>
    .ok ⟨platforms, d.formFactors, d.isLowEndDevice, experiments⟩

end EntryDraft

def entryRecord : Record Node Result EntryDraft PlatformEntry where
  name := "PlatformConfig"
  fields := [
    .of "platforms" strings fun d x => { d with platforms := some x },
    .of "form_factors" strings fun d x => { d with formFactors := x },
    .of "is_low_end_device" (Format.optional Format.bool) fun d x =>
      { d with isLowEndDevice := x },
    .of "experiments" (Format.list (Format.record experimentRecord)) fun d x =>
      { d with experiments := some x }]
  refusesUnknown := true
  initial := {}
  finish := fun _ => EntryDraft.finish

def trialConfig (node : Node) : Result TrialConfig :=
  TrialConfig.mk <$> Format.dictionary (Format.list (Format.record entryRecord)) node

end StudyPlan.Schema
