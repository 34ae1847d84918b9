/-! Paths as text. Blank segments and single dots name no place of their own, so the
file name of a path is its last other segment. -/
namespace StudyPlan.Path

def segments (path : List Char) : List (List Char) :=
  match path with
  | [] => [[]]
  | c :: rest =>
    if c = '/' then [] :: segments rest
    else
      match segments rest with
      | [] => [[c]]
      | first :: others => (c :: first) :: others

def components (path : String) : List String :=
  ((segments path.toList).map String.ofList).filter (· != "")

def steps (path : String) : List String := (components path).filter (· != ".")

def endsInSlash (path : String) : Bool := path.toList.getLast? == some '/'

def isAbsolute (path : String) : Bool := path.toList.head? == some '/'

/-- The path of the directory that the last step starts from; it is blank when that is
where the path itself starts, and absent when the path has no step from the top. -/
def parent? (path : String) : Option String :=
  let text := "/".intercalate (steps path).dropLast
  if isAbsolute path then if (steps path).isEmpty then none else some ("/" ++ text)
  else some text

def fileName? (path : String) : Option String :=
  match (steps path).getLast? with
  | some name => if name = ".." then none else some name
  | none => none

def extensionOf? (name : List Char) : Option (List Char) :=
  let reversed := name.reverse
  let after := (reversed.takeWhile (· ≠ '.')).reverse
  match reversed.dropWhile (· ≠ '.') with
  | [] => none
  | [_] => none
  | _ :: _ => some after

def extension? (path : String) : Option String :=
  (fileName? path).bind fun name => (extensionOf? name.toList).map String.ofList

end StudyPlan.Path
