import StudyPlan.Yaml.Cursor

/-! Why a text is not YAML: a problem with its place, and what was being read when it
was met, with the place where that began. -/
namespace StudyPlan.Yaml

structure Failure where
  problem : String
  mark : Mark
  context : Option (String × Mark)
  deriving DecidableEq, Repr

namespace Failure

def during (context : String) (start : Mark) (problem : String) (mark : Mark) : Failure :=
  ⟨problem, mark, some (context, start)⟩

def plain (problem : String) (mark : Mark) : Failure := ⟨problem, mark, none⟩

def text (f : Failure) : String :=
  f.problem ++ (if f.mark.isStart then "" else " at " ++ f.mark.text) ++
    match f.context with
    | none => ""
    | some (context, start) =>
      ", " ++ context ++
        if start.isStart || start.sameSpot f.mark then "" else " at " ++ start.text

end Failure
end StudyPlan.Yaml
