import StudyPlan.Command.Outcome

/-! A system: files, and an output that keeps what it has taken and may break off. -/
namespace StudyPlan

structure Output where
  written : String := ""
  /-- Where the output breaks off, from what it has and what it is given. -/
  breaksOff : String → String → Option (Nat × FileProblem) := fun _ _ => none

namespace Output

def take (o : Output) (text : String) : Output := { o with written := o.written ++ text }

def print (o : Output) (text : String) : Option (Nat × FileProblem) × Output :=
  if text.isEmpty then (none, o)
  else
    match o.breaksOff o.written text with
    | none => (none, o.take text)
    | some (taken, problem) => (some (taken, problem), o.take (Text.front taken text))

end Output

structure System where
  files : FileSystem
  output : Output := {}

namespace System

def onFiles {α : Type} (action : StateM FileSystem α) : StateM System α := fun y =>
  let (result, files) := action y.files
  (result, { y with files })

instance : FileAccess (StateM System) where
  isThere path := onFiles (FileAccess.isThere path)
  readText path := onFiles (FileAccess.readText path)
  makeDirectories path := onFiles (FileAccess.makeDirectories path)
  writeText path text := onFiles (FileAccess.writeText path text)

instance : Printing (StateM System) where
  print text := fun y =>
    let (broken, output) := y.output.print text
    (broken, { y with output })

end System
end StudyPlan
