import StudyPlan.Text.Blank

/-! Tables: a line of headers, a line below it, and a line for each row. A column is as
wide as its widest cell; the lines have no blanks at their ends. -/
namespace StudyPlan

structure Table where
  headers : List String
  rows : List (List String)
  deriving DecidableEq, Repr

namespace Table

def widen : List Nat → List String → List Nat
  | [], _ => []
  | widths, [] => widths
  | w :: widths, cell :: cells => max w cell.length :: widen widths cells

/-- A header counts with its bytes, a cell with its characters. -/
def widths (t : Table) : List Nat := t.rows.foldl widen (t.headers.map (·.utf8ByteSize))

def pad (width : Nat) (text : String) : String :=
  text ++ String.ofList (List.replicate (width - text.length) ' ')

def padded : List Nat → List String → List String
  | _, [] => []
  | [], cells => cells
  | w :: widths, cell :: cells => pad w cell :: padded widths cells

def line (widths : List Nat) (cells : List String) : String :=
  Text.trimEnd Text.isBlank (" │ ".intercalate (padded widths cells))

def separator (widths : List Nat) : String :=
  "─┼─".intercalate (widths.map fun w => String.ofList (List.replicate w '─'))

def lines (style : String → String) (t : Table) : List String :=
  style (line t.widths t.headers) :: separator t.widths :: t.rows.map (line t.widths)

end Table
end StudyPlan
