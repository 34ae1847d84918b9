import StudyPlan.CommandLine.Level

/-! What the program says of its version. The texts of help, of usage problems and of completion
scripts are those of the library that reads the command line, and are left out. -/
namespace StudyPlan

def Level.programName : Level → String
  | top => "fieldtrial"
  | command name => "fieldtrial-" ++ name.word

def UsageProblem.output : UsageProblem → String
  | versionAsked l => l.programName ++ " 0.1.0\n"
  | _ => ""

end StudyPlan
