/-! Where a value sits inside a trial config, written from the root `$`: a named
member adds a dot and its name, a list element its index in brackets. -/
namespace StudyPlan

inductive PathStep where
  | member (name : String)
  | index (i : Nat)
  deriving DecidableEq, Repr

structure SchemaPath where
  steps : List PathStep
  deriving DecidableEq, Repr

def PathStep.text : PathStep → String
  | .member name => "." ++ name
  | .index i => "[" ++ toString i ++ "]"

namespace SchemaPath

def root : SchemaPath := ⟨[]⟩

def child (p : SchemaPath) (name : String) : SchemaPath := ⟨p.steps ++ [.member name]⟩

def index (p : SchemaPath) (i : Nat) : SchemaPath := ⟨p.steps ++ [.index i]⟩

def text (p : SchemaPath) : String := p.steps.foldl (fun s step => s ++ step.text) "$"

theorem childText (p : SchemaPath) (name : String) :
    (p.child name).text = p.text ++ ("." ++ name) := by
  simp [text, child, PathStep.text]

theorem indexText (p : SchemaPath) (i : Nat) :
    (p.index i).text = p.text ++ ("[" ++ toString i ++ "]") := by
  simp [text, index, PathStep.text]

end SchemaPath
end StudyPlan
