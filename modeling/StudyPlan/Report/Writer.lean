import StudyPlan.Report.Format
import StudyPlan.Report.Human
import StudyPlan.Report.Style
import StudyPlan.Report.Table
import StudyPlan.Document.Description
import StudyPlan.Document.Violation
import StudyPlan.Yaml.Printer

/-! What the program writes, as text. Messages, headings and tables are for people alone: in
the other formats, which programs read, they come to nothing, and only data is written. -/
namespace StudyPlan
open Json (Value)

structure Writer where
  format : OutputFormat
  color : Bool
  quiet : Bool
  deriving DecidableEq, Repr

namespace Writer

def isHuman (w : Writer) : Bool := w.format == .human

def line (text : String) : String := text ++ "\n"

def styled (w : Writer) (s : Style) (text : String) : String :=
  if w.color then s.paint text else text

/-! ### Messages -/

def info (w : Writer) (message : String) : String :=
  if w.quiet || !w.isHuman then ""
  else line ((if w.color then Style.blue.paint "ℹ" ++ " " else "INFO: ") ++ message)

def success (w : Writer) (message : String) : String :=
  if w.quiet || !w.isHuman then "" else line (w.styled .green message)

def warning (w : Writer) (message : String) : String :=
  if !w.isHuman then ""
  else line (if w.color then Style.yellow.paint message else "WARNING: " ++ message)

def error (w : Writer) (message : String) : String :=
  if !w.isHuman then ""
  else line (if w.color then Style.red.paint message else "ERROR: " ++ message)

def heading (w : Writer) (title : String) : String :=
  if w.quiet || !w.isHuman then ""
  else
    line "" ++
      line (if w.color then Style.brightBlue.paint ("═══ " ++ title ++ " ═══")
        else "=== " ++ title ++ " ===")

def table (w : Writer) (t : Table) : String :=
  if !w.isHuman then ""
  else textLines (t.lines (w.styled .bold))

/-! ### Data -/

def render (f : OutputFormat) (v : Value) : String :=
  match f with
  | .human => v.pretty 0
  | .json => v.compact
  | .yaml => Yaml.write v
  | .jsonPretty => v.pretty 0

/-- A text as its format ends it: for people and in indented JSON with one line break, in the
other formats as it is. -/
def finish (w : Writer) (text : String) : String :=
  match w.format with
  | .human => line (Text.trimEnd (· = '\n') text)
  | .jsonPretty => line (Text.trimEnd (· = '\n') text)
  | _ => text

def data (w : Writer) (v : Value) : String := w.finish (render w.format v)

def description (w : Writer) (d : Description) (p : Platform) (elements : Value) : String :=
  w.finish (if w.isHuman then d.human p else render w.format elements)

def violation (w : Writer) (v : Violation) : String :=
  w.finish (if w.isHuman then v.human else render w.format v.toValue)

end Writer
end StudyPlan
