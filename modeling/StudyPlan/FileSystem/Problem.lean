/-! Why a file cannot be read or written, in the words of the system. -/
namespace StudyPlan

inductive FileProblem where
  | notFound
  | taken
  | notDirectory
  | isDirectory
  | nameTooLong
  | nulInName
  | notText
  | other (message : String)
  deriving DecidableEq, Repr

namespace FileProblem

def numbered (message : String) (n : Nat) : String :=
  message ++ " (os error " ++ toString n ++ ")"

def text : FileProblem → String
  | notFound => numbered "No such file or directory" 2
  | taken => numbered "File exists" 17
  | notDirectory => numbered "Not a directory" 20
  | isDirectory => numbered "Is a directory" 21
  | nameTooLong => numbered "File name too long" 36
  | nulInName => "file name contained an unexpected NUL byte"
  | notText => "stream did not contain valid UTF-8"
  | other message => message

end FileProblem
end StudyPlan
