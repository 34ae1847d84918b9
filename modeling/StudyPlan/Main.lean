import StudyPlan.Program

/-! The program on a real system: its files, its environment and its terminal. -/
namespace StudyPlan

def FileProblem.ofNumber (number : UInt32) (message : String) : FileProblem :=
  match number.toNat with
  | 2 => .notFound
  | 17 => .taken
  | 20 => .notDirectory
  | 21 => .isDirectory
  | 36 => .nameTooLong
  | _ => .other message

def FileProblem.ofError (e : IO.Error) : FileProblem :=
  match e with
  | .noFileOrDirectory _ number _ => ofNumber number (toString e)
  | .alreadyExists _ number _ => ofNumber number (toString e)
  | .inappropriateType _ number _ => ofNumber number (toString e)
  | .invalidArgument _ number _ => ofNumber number (toString e)
  | _ => .other (toString e)

def attempt {α : Type} (action : IO α) : IO (Except FileProblem α) := do
  try
    return .ok (← action)
  catch e => return .error (.ofError e)

instance : FileAccess IO where
  isThere path := do
    match ← attempt (IO.FS.Handle.mk path .read) with
    | .ok _ => return true
    | .error problem => return problem != .notFound && problem != .notDirectory
  readText path := do
    match ← attempt (IO.FS.readBinFile path) with
    | .error problem => return .error problem
    | .ok content =>
      match Text.ofBytes? content.toList with
      | some text => return .ok text
      | none => return .error .notText
  makeDirectories path := if path.isEmpty then return .ok () else attempt (IO.FS.createDirAll path)
  writeText path text := attempt (IO.FS.writeFile path text)

instance : Printing IO where
  print text := do
    if text.isEmpty then return none
    let output ← IO.getStdout
    match ← attempt (output.putStr text *> output.flush) with
    | .ok () => return none
    | .error problem => return some (0, problem)

def userDirectory : IO (Option String) := do
  match ← IO.getEnv "XDG_CONFIG_HOME" with
  | some directory => if Path.isAbsolute directory then return some directory else home
  | none => home
where
  home : IO (Option String) := do
    return (← IO.getEnv "HOME").map (· ++ "/.config")

def environment : IO Environment := do
  return {
    settingsFile := ← IO.getEnv "FIELDTRIAL_CONFIG"
    userDirectory := ← userDirectory
    logging := {
      level := ← IO.getEnv "RUST_LOG"
      format := ← IO.getEnv "FIELDTRIAL_LOG_FORMAT"
      console := ← IO.getEnv "FIELDTRIAL_LOG_CONSOLE" }
    terminal := ← (← IO.getStdout).isTty }

end StudyPlan

def main (words : List String) : IO UInt32 := do
  let exit : StudyPlan.Exit ← StudyPlan.Program.run (← StudyPlan.environment) words
  (← IO.getStderr).putStr exit.errors
  return UInt32.ofNat exit.code
