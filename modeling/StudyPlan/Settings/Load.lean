import StudyPlan.Command.Failure
import StudyPlan.FileSystem.Access
import StudyPlan.Report.Format
import StudyPlan.Schema.Settings

/-! Loading settings: from a file that is named, or else from the first of the usual places
that holds a good one. -/
namespace StudyPlan.Settings

inductive FileFormat where
  | toml | yaml | json
  deriving DecidableEq, Repr

def FileFormat.ofPath (path : String) : FileFormat :=
  match Path.extension? path with
  | some "toml" => toml
  | some "yaml" => yaml
  | some "yml" => yaml
  | _ => json

def parse (format : FileFormat) (text : String) : Except Failure Settings :=
  match format with
  | .toml => (Toml.readText Schema.settings text).mapError (.toml text)
  | .yaml => (Yaml.readText Schema.settings text).mapError .yaml
  | .json => (Json.Node.readText Schema.settings (Text.Glyph.ofString text)).mapError .json

def ofContent (path : String) : Except FileProblem String → Except Failure Settings
  | .error problem => .error (.io problem)
  | .ok text => parse (.ofPath path) text

def usualPlaces (userDirectory : Option String) : List String :=
  let hidden := [".fieldtrial.toml", ".fieldtrial.yaml", ".fieldtrial.json"]
  match userDirectory with
  | none => hidden
  | some directory =>
    hidden ++ ["config.toml", "config.yaml", "config.json"].map
      ((directory ++ (if Path.endsInSlash directory then "" else "/") ++ "fieldtrial/") ++ ·)

def skippedWarning (path : String) (f : Failure) : String :=
  "Warning: Failed to load config from " ++ path ++ ": " ++ f.text

section
variable {m : Type → Type} [Monad m] [FileAccess m]

def ofFile (path : String) : m (Except Failure Settings) := do
  if ← FileAccess.isThere path then ofContent path <$> FileAccess.readText path
  else return .error (.fileNotFound path)

def ofPlaces : List String → m (List String × Settings)
  | [] => return ([], {})
  | path :: rest => do
    if ← FileAccess.isThere path then
      match ← ofFile path with
      | .ok settings => return ([], settings)
      | .error f =>
        let (warnings, settings) ← ofPlaces rest
        return (skippedWarning path f :: warnings, settings)
    else ofPlaces rest

def load (file : Option String) (userDirectory : Option String) :
    m (List String × Except Failure Settings) := do
  match file with
  | some path => return ([], ← ofFile path)
  | none =>
    let (warnings, settings) ← ofPlaces (usualPlaces userDirectory)
    return (warnings, .ok settings)

end

end Settings

def OutputSettings.outputFormat (o : OutputSettings) : Except Failure OutputFormat :=
  match OutputFormat.ofAnyCase? o.format with
  | some format => .ok format
  | none =>
    .error (.config ("unknown output format '" ++ o.format ++
      "' (expected human, json, json-pretty or yaml)"))

end StudyPlan
