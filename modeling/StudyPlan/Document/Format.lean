import StudyPlan.FileSystem.Path

/-! The formats of trial configs. -/
namespace StudyPlan

inductive DocumentFormat where
  | json | yaml
  deriving DecidableEq, Repr

namespace DocumentFormat

def ofPath (path : String) : DocumentFormat :=
  match Path.extension? path with
  | some "yaml" => yaml
  | some "yml" => yaml
  | _ => json

def name : DocumentFormat → String
  | json => "JSON"
  | yaml => "YAML"

def label : DocumentFormat → String
  | json => "Json"
  | yaml => "Yaml"

end DocumentFormat
end StudyPlan
