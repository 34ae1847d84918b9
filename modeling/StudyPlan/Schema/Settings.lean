import StudyPlan.Schema.Format
import StudyPlan.Settings.Basic

/-! The schema of settings files. No setting has to be given, and members that are no
settings are passed over. -/
namespace StudyPlan.Schema
variable {Node : Type} {Result : Type → Type} [Format Node Result]

def optionalString : Node → Result (Option String) := Format.optional Format.string

def overlay {σ : Type} (name : String) (defaults : σ) (fields : List (Field Node Result σ)) :
    Record Node Result σ σ where
  name := name
  fields := fields
  refusesUnknown := false
  initial := defaults
  finish := fun _ settings => .ok settings

def outputRecord : Record Node Result OutputSettings OutputSettings :=
  overlay "OutputConfig" {} [
    .of "format" Format.string fun s x => { s with format := x },
    .of "color" Format.bool fun s x => { s with color := x },
    .of "symbol_prefix" Format.string fun s x => { s with symbolPrefix := x },
    .of "element_name" Format.string fun s x => { s with elementName := x }]

def logRecord : Record Node Result LogSettings LogSettings :=
  overlay "LoggingConfig" {} [
    .of "level" optionalString fun s x => { s with level := x },
    .of "format" optionalString fun s x => { s with format := x }]

def settingsRecord : Record Node Result Settings Settings :=
  overlay "Config" {} [
    .of "default_platform" optionalString fun s x => { s with defaultPlatform := x },
    .of "output" (Format.record outputRecord) fun s x => { s with output := x },
    .of "logging" (Format.record logRecord) fun s x => { s with logging := x }]

def settings (node : Node) : Result Settings := Format.record settingsRecord node

end StudyPlan.Schema
