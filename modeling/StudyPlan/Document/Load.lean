import StudyPlan.Document.Format
import StudyPlan.Json.Read
import StudyPlan.Yaml.Read
import StudyPlan.Schema.Trial

/-! Loading trial configs. Whatever keeps a document from being read becomes a
violation at the root, with the reader's message as its detail. -/
namespace StudyPlan.TrialConfig
open Text (Glyph)

def structural (format : DocumentFormat) (detail : String) : Violation :=
  .structural format.name detail

def ofGlyphs (text : List Glyph) : Except Violation TrialConfig :=
  (Json.Node.readText Schema.trialConfig text).mapError fun e => structural .json e.text

def ofJson (text : String) : Except Violation TrialConfig := ofGlyphs (Glyph.ofString text)

def ofJsonBytes (bytes : List UInt8) : Except Violation TrialConfig :=
  ofGlyphs (Glyph.ofBytes bytes)

def ofValue (value : Json.Value) : Except Violation TrialConfig :=
  ((Schema.trialConfig value : Except Schema.Problem TrialConfig)).mapError fun e =>
    structural .json (e.text .json)

def ofYaml (text : String) : Except Violation TrialConfig :=
  (Yaml.readText Schema.trialConfig text).mapError fun e => structural .yaml e.text

def parse (format : DocumentFormat) (text : String) : Except Violation TrialConfig :=
  match format with
  | .json => ofJson text
  | .yaml => ofYaml text

end StudyPlan.TrialConfig
