import StudyPlan.Command.Failure
import StudyPlan.Json.Printer
import StudyPlan.Logging.Filter
import StudyPlan.Settings.Basic

/-! How the program logs. The plan starts from how verbose the program is asked to be; the
settings and then the environment change it. -/
namespace StudyPlan
open Json (Value)

inductive LogFormat where
  | compact | full | json
  deriving DecidableEq, Repr

namespace LogFormat

def all : List LogFormat := [.compact, .full, .json]

def name : LogFormat → String
  | compact => "compact"
  | full => "full"
  | json => "json"

def ofName? (name : String) : Option LogFormat :=
  all.find? (·.name == name.map Char.toLower)

end LogFormat

structure LogPlan where
  level : String := "warn"
  format : LogFormat := .compact
  console : Bool := true
  threadIds : Bool := false
  sourceLocation : Bool := false
  spanEvents : Bool := false
  deriving DecidableEq, Repr

structure LogEnvironment where
  level : Option String := none
  format : Option String := none
  console : Option String := none
  deriving DecidableEq, Repr

namespace LogPlan

def ofVerbosity : Nat → LogPlan
  | 0 => {}
  | 1 => { level := "info" }
  | 2 => { level := "debug", sourceLocation := true }
  | _ =>
    { level := "trace", format := .full, sourceLocation := true, threadIds := true,
      spanEvents := true }

def useFormat (p : LogPlan) (origin : String) : Option String → List String × LogPlan
  | none => ([], p)
  | some name =>
    match LogFormat.ofName? name with
    | some format => ([], { p with format })
    | none => (["Warning: invalid log format '" ++ name ++ "'" ++ origin ++ ", using default"], p)

def withSettings (p : LogPlan) (s : LogSettings) : List String × LogPlan :=
  { p with level := s.level.getD p.level }.useFormat " in config file" s.format

def isYes (s : String) : Bool := s.map Char.toLower = "true" || s = "1"

def withEnvironment (p : LogPlan) (e : LogEnvironment) : List String × LogPlan :=
  let (warnings, p) := { p with level := e.level.getD p.level }.useFormat "" e.format
  (warnings, { p with console := (e.console.map isYes).getD p.console })

def quietened (p : LogPlan) : LogPlan := { p with level := "error", console := false }

def check (p : LogPlan) : Except Failure Unit :=
  (LogFilter.check p.level).mapError fun problem =>
    .config ("Invalid log filter '" ++ p.level ++ "': " ++ problem.text)

def toValue (p : LogPlan) : Value :=
  .object
    [("level", .string p.level), ("format", .string p.format.name), ("console", .bool p.console),
      ("thread_ids", .bool p.threadIds), ("source_location", .bool p.sourceLocation),
      ("span_events", .bool p.spanEvents)]

end LogPlan
end StudyPlan
