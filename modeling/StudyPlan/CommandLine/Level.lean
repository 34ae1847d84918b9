import StudyPlan.CommandLine.Words

/-! Reading the words of one level of the command line. A value is looked at only when the
next word has been seen, so that of two faults the one in front does not always win. -/
namespace StudyPlan

inductive UsageProblem where
  | unknownArgument
  | invalidSubcommand
  | invalidValue
  | tooManyValues
  | argumentConflict
  | missingArgument
  | missingSubcommand
  | nothingAsked
  | helpAsked (about : Option CommandName)
  | versionAsked (about : Level)
  deriving DecidableEq, Repr

namespace UsageProblem

def exitCode : UsageProblem → Nat
  | helpAsked _ => 0
  | versionAsked _ => 0
  | _ => 2

end UsageProblem

structure Given where
  verbosity : Nat := 0
  flags : List Flag := []
  values : List (Slot × String) := []
  deriving DecidableEq, Repr

namespace Given

def isEmpty (g : Given) : Bool := g.verbosity = 0 && g.flags.isEmpty && g.values.isEmpty

def value? (g : Given) (slot : Slot) : Option String := g.values.lookup slot

def fill (g : Given) (slot : Slot) (text : String) : Except UsageProblem Given :=
  if (g.value? slot).isSome then .error .argumentConflict
  else if slot.accepts text then .ok { g with values := g.values ++ [(slot, text)] }
  else .error .invalidValue

def raise (l : Level) (g : Given) : Flag → Except UsageProblem Given
  | .help =>
    .error (.helpAsked (match l with
      | .top => none
      | .command name => some name))
  | .version => .error (.versionAsked l)
  | .verbose => .ok { g with verbosity := min (g.verbosity + 1) 255 }
  | flag =>
    if g.flags.contains flag then .error .argumentConflict
    else .ok { g with flags := g.flags ++ [flag] }

end Given

structure Progress where
  given : Given := {}
  pending : Option (Slot × Option String) := none
  ended : Bool := false
  positional : Option Slot
  deriving DecidableEq, Repr

namespace Progress

def start (l : Level) : Progress := { positional := l.positional? }

def settle (p : Progress) : Except UsageProblem Progress :=
  match p.pending with
  | none => .ok p
  | some (_, none) => .error .invalidValue
  | some (slot, some text) =>
    (p.given.fill slot text).map fun given => { p with given, pending := none }

def awaits? (p : Progress) : Option Slot :=
  match p.pending with
  | some (slot, none) => some slot
  | _ => none

def raise (l : Level) (p : Progress) (flag : Flag) : Except UsageProblem Progress := do
  let p ← p.settle
  return { p with given := ← p.given.raise l flag }

def await (p : Progress) (slot : Slot) : Except UsageProblem Progress := do
  return { ← p.settle with pending := some (slot, none) }

def fill (p : Progress) (slot : Slot) (text : String) : Except UsageProblem Progress := do
  let p ← p.settle
  return { p with given := ← p.given.fill slot text }

def readShort (l : Level) (p : Progress) : List Char → Except UsageProblem Progress
  | [] => .ok p
  | c :: rest =>
    match l.shortFlag? c with
    | some flag =>
      match p.raise l flag with
      | .ok p => p.readShort l rest
      | .error e => .error e
    | none =>
      match l.shortOption? c, rest with
      | none, _ => .error .unknownArgument
      | some slot, [] => p.await slot
      | some slot, '=' :: text => p.fill slot (String.ofList text)
      | some slot, text => p.fill slot (String.ofList text)

def readLong (l : Level) (p : Progress) (word : List Char) : Except UsageProblem Progress :=
  let name := String.ofList (word.takeWhile (· ≠ '='))
  match l.longFlag? name, l.longOption? name, word.dropWhile (· ≠ '=') with
  | some flag, _, [] => p.raise l flag
  | some _, _, _ => .error .tooManyValues
  | none, some slot, [] => p.await slot
  | none, some slot, _ :: text => p.fill slot (String.ofList text)
  | none, none, _ => .error .unknownArgument

def place (l : Level) (p : Progress) (word : String) : Except UsageProblem Progress :=
  match p.positional with
  | some slot => do
    return { ← p.settle with pending := some (slot, some word), positional := none }
  | none =>
    .error <|
      match l with
      | .command _ => .unknownArgument
      | .top =>
        if p.ended && ((CommandName.ofWord? word).isSome || word = "help") then .unknownArgument
        else .invalidSubcommand

def read (l : Level) (p : Progress) (word : String) : Except UsageProblem Progress :=
  if p.ended then p.place l word
  else
    match word.toList with
    | ['-', '-'] => .ok { p with ended := true }
    | '-' :: '-' :: rest => p.readLong l rest
    | '-' :: c :: rest => p.readShort l (c :: rest)
    | _ =>
      match p.awaits? with
      | some slot => .ok { p with pending := some (slot, some word) }
      | none => p.place l word

def readAll (l : Level) (p : Progress) : List String → Except UsageProblem Progress
  | [] => .ok p
  | word :: rest =>
    match p.read l word with
    | .ok p => p.readAll l rest
    | .error e => .error e

end Progress
end StudyPlan
