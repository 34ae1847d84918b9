import StudyPlan.Symbol
import StudyPlan.Document.Format
import StudyPlan.Text.Quoted

/-! What loading and resolving report while they run, as data. `Event.line` is the
log line of an event; inside a resolution the line names the platform and the
number of trials of the whole run. -/
namespace StudyPlan

inductive Event where
  | selected (trial : String) (entry : Nat)
  | omitted (trial : String)
  | translating (experiment : String)
  | resolved (studies omitted : Nat)
  | valid (trials : Nat)
  | loading (path : String) (bytes : Nat) (format : DocumentFormat)
  deriving DecidableEq, Repr

namespace Event

structure Span where
  platform : Platform
  trials : Nat
  deriving DecidableEq, Repr

def level : Event → String
  | selected .. => "DEBUG"
  | omitted _ => "DEBUG"
  | translating _ => "TRACE"
  | resolved .. => " INFO"
  | valid _ => "DEBUG"
  | loading .. => "DEBUG"

@[simp] theorem selectedLevel (trial : String) (entry : Nat) :
    (selected trial entry).level = "DEBUG" := rfl

@[simp] theorem omittedLevel (trial : String) : (omitted trial).level = "DEBUG" := rfl

@[simp] theorem translatingLevel (experiment : String) :
    (translating experiment).level = "TRACE" := rfl

@[simp] theorem resolvedLevel (studies skipped : Nat) :
    (resolved studies skipped).level = " INFO" := rfl

def source : Event → String
  | loading .. => "fieldtrial_core::config"
  | _ => "fieldtrial_core::transform"

def message : Event → String
  | selected trial entry =>
    "Selected platform config trial=" ++ Text.Quoted.encode trial ++ " entry=" ++ toString entry
  | omitted trial =>
    "No platform config targets platform, omitting trial trial=" ++ Text.Quoted.encode trial
  | translating experiment => "Translating experiment experiment=" ++ experiment
  | resolved studies skipped =>
    "Resolved trial config studies=" ++ toString studies ++ " omitted=" ++ toString skipped
  | valid trials => "Trial config is valid trials=" ++ toString trials
  | loading path bytes format =>
    "Loading trial config path=" ++ path ++ " bytes=" ++ toString bytes ++
      " format=" ++ format.label

def Span.text (s : Span) : String :=
  "transform_for\x7bplatform=" ++ s.platform.tag ++ " trials=" ++ toString s.trials ++ "\x7d: "

def line (span : Option Span) (e : Event) : String :=
  e.level ++ " " ++ (span.map Span.text).getD "" ++ e.source ++ ": " ++ e.message

end Event
end StudyPlan
