import StudyPlan.Command.Outcome
import StudyPlan.Report.Writer
import StudyPlan.Settings.Basic

/-! The command that lists the tags that trial configs may use. -/
namespace StudyPlan
open Json (Value)

namespace PlatformsCommand

def rows (α : Type) [TagTable α] (layout : ElementsLayout) : List (String × String) :=
  (TagTable.all : List α).map fun x => (TagTable.tag x, layout.symbolPrefix ++ TagTable.symbol x)

def rowsValue (rows : List (String × String)) : Value :=
  .array (rows.map fun (tag, symbol) => .object [("tag", .string tag), ("symbol", .string symbol)])

def rowsTable (rows : List (String × String)) : Table :=
  ⟨["Tag", "Symbol"], rows.map fun (tag, symbol) => [tag, symbol]⟩

def listing (layout : ElementsLayout) : Value :=
  .object [("platforms", rowsValue (rows Platform layout)),
    ("form_factors", rowsValue (rows FormFactor layout))]

def output (s : Settings) (w : Writer) : String :=
  let layout := s.output.layout
  if w.isHuman then
    w.heading "Platforms" ++ w.table (rowsTable (rows Platform layout)) ++
      w.heading "Form factors" ++ w.table (rowsTable (rows FormFactor layout))
  else w.data (listing layout)

def run {m : Type → Type} [Monad m] [Printing m] (s : Settings) (w : Writer) : m Outcome :=
  Outcome.print (output s w) (.ok ())

end PlatformsCommand
end StudyPlan
