import StudyPlan.Report.Format

/-! The words of the command line: commands, flags, and slots for values. A flag takes no
value; a slot takes one, either as an option or by its position. Some words may be given in
front of the command as well as behind it. -/
namespace StudyPlan

inductive Shell where
  | bash | zsh | fish | powerShell | elvish
  deriving DecidableEq, Repr

namespace Shell

def all : List Shell := [.bash, .zsh, .fish, .powerShell, .elvish]

def word : Shell → String
  | bash => "bash"
  | zsh => "zsh"
  | fish => "fish"
  | powerShell => "power-shell"
  | elvish => "elvish"

def name : Shell → String
  | powerShell => "powershell"
  | shell => shell.word

def ofWord? (word : String) : Option Shell := all.find? (·.word == word)

end Shell

inductive CommandName where
  | transform | validate | platforms | completions
  deriving DecidableEq, Repr

namespace CommandName

def all : List CommandName := [.transform, .validate, .platforms, .completions]

def word : CommandName → String
  | transform => "transform"
  | validate => "validate"
  | platforms => "platforms"
  | completions => "completions"

def ofWord? (word : String) : Option CommandName := all.find? (·.word == word)

end CommandName

inductive Flag where
  | verbose | quiet | noColor | bareSymbols | help | version
  deriving DecidableEq, Repr

namespace Flag

def short? : Flag → Option Char
  | verbose => some 'v'
  | quiet => some 'q'
  | help => some 'h'
  | version => some 'V'
  | _ => none

def long : Flag → String
  | verbose => "verbose"
  | quiet => "quiet"
  | noColor => "no-color"
  | bareSymbols => "bare-symbols"
  | help => "help"
  | version => "version"

end Flag

inductive Slot where
  | settingsFile | output | platform | saveTo | trialFile | shell
  deriving DecidableEq, Repr

namespace Slot

def short? : Slot → Option Char
  | settingsFile => some 'c'
  | output => some 'o'
  | platform => some 'p'
  | _ => none

def long? : Slot → Option String
  | settingsFile => some "config"
  | output => some "output"
  | platform => some "platform"
  | saveTo => some "save-to"
  | _ => none

def accepts (slot : Slot) (text : String) : Bool :=
  match slot with
  | platform => true
  | output => (OutputFormat.ofName? text).isSome
  | shell => (Shell.ofWord? text).isSome
  | _ => !text.isEmpty

end Slot

inductive Level where
  | top
  | command (name : CommandName)
  deriving DecidableEq, Repr

namespace Level

def flags : Level → List Flag
  | command .transform => [.bareSymbols, .verbose, .quiet, .noColor, .help, .version]
  | _ => [.verbose, .quiet, .noColor, .help, .version]

def options : Level → List Slot
  | command .transform => [.platform, .saveTo, .settingsFile, .output]
  | _ => [.settingsFile, .output]

def positional? : Level → Option Slot
  | command .transform => some .trialFile
  | command .validate => some .trialFile
  | command .completions => some .shell
  | _ => none

def shortFlag? (l : Level) (c : Char) : Option Flag := l.flags.find? (·.short? == some c)

def longFlag? (l : Level) (name : String) : Option Flag := l.flags.find? (·.long == name)

def shortOption? (l : Level) (c : Char) : Option Slot := l.options.find? (·.short? == some c)

def longOption? (l : Level) (name : String) : Option Slot := l.options.find? (·.long? == some name)

end Level
end StudyPlan
