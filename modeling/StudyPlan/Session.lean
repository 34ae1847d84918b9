import StudyPlan.Document.Load

/-! A session on one config, which is built up and replaced step by step. Each step says
how it went and leaves a config behind. -/
namespace StudyPlan

inductive Document where
  | text (format : DocumentFormat) (content : String)
  | bytes (content : List UInt8)
  | value (content : Json.Value)

def Document.load : Document → Except Violation TrialConfig
  | .text format content => TrialConfig.parse format content
  | .bytes content => TrialConfig.ofJsonBytes content
  | .value content => TrialConfig.ofValue content

namespace Session

abbrev Outcome := Except Violation Unit

inductive Step where
  | insert (name : String) (entries : List PlatformEntry)
  | extend (name : String) (entries : List PlatformEntry)
  | load (document : Document)
  | clear

def insertHere (name : String) (entries : List PlatformEntry) (c : TrialConfig) :
    Outcome × TrialConfig :=
  if c.trials.contains name then (.error (.duplicateTrial name), c)
  else (.ok (), ⟨c.trials.insertNew name entries⟩)

def replace (next : Except Violation TrialConfig) (c : TrialConfig) : Outcome × TrialConfig :=
  match next with
  | .ok next => (.ok (), next)
  | .error v => (.error v, c)

def Step.perform : Step → TrialConfig → Outcome × TrialConfig
  | .insert name entries, c => insertHere name entries c
  | .extend name entries, c => replace (c.insertTrial name entries) c
  | .load document, c => replace document.load c
  | .clear, _ => (.ok (), .empty)

def run : List Step → TrialConfig → List (Step × Outcome) × TrialConfig
  | [], c => ([], c)
  | step :: rest, c =>
    let (outcome, next) := step.perform c
    let (log, last) := run rest next
    ((step, outcome) :: log, last)

end Session
end StudyPlan
