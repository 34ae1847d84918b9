import StudyPlan.FileSystem.Path
import StudyPlan.FileSystem.Problem
import StudyPlan.Text.Glyph

/-! A file system: what stands at each location below the top directory, and what is refused
there. Paths are walked step by step, and every place that a step leaves has to be a directory,
the ones that a double dot leaves again included. -/
namespace StudyPlan

inductive FileNode where
  | directory
  | file (content : List UInt8)
  deriving DecidableEq, Repr

def FileNode.text : FileNode → Except FileProblem String
  | directory => .error .isDirectory
  | file content =>
    match Text.ofBytes? content with
    | some text => .ok text
    | none => .error .notText

/-- What fails at a location although the path to it is good: rights that are missing, a disk that
is full. A file that has been opened for writing is empty, and when the writing breaks off it has
the bytes that were taken until then. -/
structure Refusals where
  reading : List String → Option FileProblem := fun _ => none
  making : List String → Option FileProblem := fun _ => none
  opening : List String → Option FileProblem := fun _ => none
  writing : List String → List UInt8 → Option (Nat × FileProblem) := fun _ _ => none

structure FileSystem where
  workingDirectory : List String
  node? : List String → Option FileNode
  refusals : Refusals := {}

namespace FileSystem

def fresh (workingDirectory : String) : FileSystem where
  workingDirectory := [workingDirectory]
  node? := fun location => if location = [workingDirectory] then some .directory else none

def nodeAt (fs : FileSystem) (location : List String) : Option FileNode :=
  if location.isEmpty then some .directory else fs.node? location

def put (fs : FileSystem) (location : List String) (node : FileNode) : FileSystem :=
  { fs with node? := fun l => if l = location then some node else fs.node? l }

def step (location : List String) (name : String) : List String :=
  if name = "." then location
  else if name = ".." then location.dropLast
  else location ++ [name]

def walk (fs : FileSystem) (location : List String) : List String → Except FileProblem (List String)
  | [] => .ok location
  | name :: rest =>
    match fs.nodeAt location with
    | none => .error .notFound
    | some (.file _) => .error .notDirectory
    | some .directory =>
      if 255 < name.utf8ByteSize then .error .nameTooLong
      else walk fs (step location name) rest

def origin (fs : FileSystem) (path : String) : List String :=
  if Path.isAbsolute path then [] else fs.workingDirectory

def checkPath (path : String) : Except FileProblem Unit :=
  if path.contains '\x00' then .error .nulInName
  else if path.isEmpty then .error .notFound
  else if 4095 < path.utf8ByteSize then .error .nameTooLong
  else .ok ()

/-- The location of a path; a slash at its end asks for a directory. -/
def locate (fs : FileSystem) (path : String) : Except FileProblem (List String) := do
  checkPath path
  fs.walk (fs.origin path) (Path.components path ++ if Path.endsInSlash path then ["."] else [])

def lookup (fs : FileSystem) (path : String) : Except FileProblem FileNode := do
  match fs.nodeAt (← fs.locate path) with
  | some node => return node
  | none => throw .notFound

def isThere (fs : FileSystem) (path : String) : Bool := (fs.lookup path).isOk

def readNode (fs : FileSystem) (location : List String) (node : FileNode) :
    Except FileProblem String :=
  match fs.refusals.reading location with
  | some problem => .error problem
  | none => node.text

def readText (fs : FileSystem) (path : String) : Except FileProblem String := do
  let location ← fs.locate path
  match fs.nodeAt location with
  | some node => fs.readNode location node
  | none => throw .notFound

def makeDirectory (fs : FileSystem) (start steps : List String) :
    Except FileProblem FileSystem := do
  let location ← fs.walk start steps
  match fs.nodeAt location, fs.refusals.making location with
  | some _, _ => throw .taken
  | none, some problem => throw problem
  | none, none => return fs.put location .directory

def isDirectory (fs : FileSystem) (start steps : List String) : Bool :=
  match fs.walk start steps with
  | .ok location => fs.nodeAt location == some .directory
  | .error _ => false

def settle (fs : FileSystem) (start steps : List String) :
    Except FileProblem FileSystem → Except FileProblem Unit × FileSystem
  | .ok made => (.ok (), made)
  | .error problem => (if fs.isDirectory start steps then .ok () else .error problem, fs)

/-- Make the directory at the end of some steps, given last step first, and those on the
way to it. Directories made on the way stay when a later one is refused. -/
def makeDirectoriesFrom (fs : FileSystem) (start : List String) :
    List String → Except FileProblem Unit × FileSystem
  | [] => (.ok (), fs)
  | name :: before =>
    let steps := (name :: before).reverse
    match fs.makeDirectory start steps with
    | .error .notFound =>
      match fs.makeDirectoriesFrom start before with
      | (.error problem, fs) => (.error problem, fs)
      | (.ok (), fs) => fs.settle start steps (fs.makeDirectory start steps)
    | attempt => fs.settle start steps attempt

def makeDirectories (fs : FileSystem) (path : String) : Except FileProblem Unit × FileSystem :=
  if path.isEmpty then (.ok (), fs)
  else
    match checkPath path with
    | .error problem => (.error problem, fs)
    | .ok () => fs.makeDirectoriesFrom (fs.origin path) (Path.steps path).reverse

def target (fs : FileSystem) (path : String) : Except FileProblem (List String) := do
  checkPath path
  let location ← fs.walk (fs.origin path) (Path.components path)
  if fs.nodeAt location = some .directory || Path.endsInSlash path then throw .isDirectory
  return location

def fill (fs : FileSystem) (location : List String) (content : List UInt8) :
    Except FileProblem Unit × FileSystem :=
  match fs.refusals.writing location content with
  | some (taken, problem) => (.error problem, fs.put location (.file (content.take taken)))
  | none => (.ok (), fs.put location (.file content))

def writeText (fs : FileSystem) (path text : String) : Except FileProblem Unit × FileSystem :=
  match fs.target path with
  | .error problem => (.error problem, fs)
  | .ok location =>
    match fs.refusals.opening location with
    | some problem => (.error problem, fs)
    | none => fs.fill location (Text.toBytes text)

end FileSystem
end StudyPlan
