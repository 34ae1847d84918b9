import StudyPlan.Command.Transform
import StudyPlan.Command.Validate
import StudyPlan.CommandLine.Level

/-! Reading a whole command line. What stands behind the command comes in front of what
stands before it, also for how often more output is asked for; the environment may name the
settings file when neither does. -/
namespace StudyPlan

inductive Command where
  | transform (c : TransformCommand)
  | validate (c : ValidateCommand)
  | platforms
  | completions (shell : Shell)
  deriving DecidableEq, Repr

structure Arguments where
  verbosity : Nat
  quiet : Bool
  settingsFile : Option String
  output : Option OutputFormat
  noColor : Bool
  command : Command
  deriving DecidableEq, Repr

def Arguments.verbosityLevel (a : Arguments) : Nat := if a.quiet then 0 else a.verbosity

namespace CommandLine

/-- The words before the command, and the command with the words behind it. Words before the
command are read to tell it from the value of an option. -/
def splitAtCommand (p : Progress) :
    List String → Except UsageProblem (Progress × Option (CommandName × List String))
  | [] => .ok (p, none)
  | word :: rest =>
    if p.ended || p.awaits?.isSome then next p word rest
    else
      match CommandName.ofWord? word with
      | some name => .ok (p, some (name, rest))
      | none => if word = "help" then .error (helpProblem rest) else next p word rest
where
  next (p : Progress) (word : String) (rest : List String) :
      Except UsageProblem (Progress × Option (CommandName × List String)) :=
    match p.read .top word with
    | .ok p => splitAtCommand p rest
    | .error e => .error e
  helpProblem : List String → UsageProblem
    | [] => .helpAsked none
    | [word] =>
      match CommandName.ofWord? word with
      | some name => .helpAsked (some name)
      | none => if word = "help" then .helpAsked none else .invalidSubcommand
    | _ => .invalidSubcommand

def close (environment : Option String) (p : Progress) : Except UsageProblem Given := do
  let given := (← p.settle).given
  if (given.value? .settingsFile).isNone && environment = some "" then throw .invalidValue
  return given

def check (l : Level) (g : Given) : Except UsageProblem Unit :=
  if g.flags.contains .quiet && 0 < g.verbosity then .error .argumentConflict
  else
    match l.positional? with
    | none => .ok ()
    | some slot => if (g.value? slot).isSome then .ok () else .error .missingArgument

def command? (g : Given) : CommandName → Option Command
  | .transform =>
    (g.value? .trialFile).map fun file =>
      .transform ⟨file, g.value? .platform, g.value? .saveTo, g.flags.contains .bareSymbols⟩
  | .validate => (g.value? .trialFile).map fun file => .validate ⟨file⟩
  | .platforms => some .platforms
  | .completions => ((g.value? .shell).bind Shell.ofWord?).map .completions

def combine (environment : Option String) (top inner : Given) (command : Command) : Arguments where
  verbosity := if inner.verbosity = 0 then top.verbosity else inner.verbosity
  quiet := inner.flags.contains .quiet || top.flags.contains .quiet
  settingsFile := inner.value? .settingsFile <|> top.value? .settingsFile <|> environment
  output := (inner.value? .output <|> top.value? .output).bind OutputFormat.ofName?
  noColor := inner.flags.contains .noColor || top.flags.contains .noColor
  command

def parse (environment : Option String) (words : List String) : Except UsageProblem Arguments := do
  match ← splitAtCommand (.start .top) words with
  | (p, none) =>
    let given ← close environment p
    throw (if given.isEmpty && environment.isNone then .nothingAsked else .missingSubcommand)
  | (p, some (name, rest)) =>
    let level := Level.command name
    let inner ← close environment (← (Progress.start level).readAll level rest)
    check level inner
    let top ← close environment p
    check .top top
    match command? inner name with
    | some command => return combine environment top inner command
    | none => throw .missingArgument

end CommandLine
end StudyPlan
