/-! The formats of reports. -/
namespace StudyPlan

inductive OutputFormat where
  | human | json | yaml | jsonPretty
  deriving DecidableEq, Repr

namespace OutputFormat

def all : List OutputFormat := [.human, .json, .yaml, .jsonPretty]

def name : OutputFormat → String
  | human => "human"
  | json => "json"
  | yaml => "yaml"
  | jsonPretty => "json-pretty"

def ofName? (name : String) : Option OutputFormat := all.find? (·.name == name)

def ofAnyCase? (name : String) : Option OutputFormat := ofName? (name.map Char.toLower)

end OutputFormat
end StudyPlan
