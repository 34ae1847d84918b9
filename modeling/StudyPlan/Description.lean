import StudyPlan.Symbol

/-! What a config comes to on one platform: the studies, in trial order, with
the experiments of the entry that was selected for each. -/
namespace StudyPlan

structure Param where
  key : String
  value : String
  deriving DecidableEq, Repr

structure StudyExperiment where
  name : String
  platforms : List Platform
  params : Option (List Param)
  enableFeatures : Option (List String)
  disableFeatures : Option (List String)
  forcingFlag : Option String
  isLowEndDevice : OptionalBool
  formFactors : List FormFactor
  deriving DecidableEq, Repr

structure Study where
  name : String
  experiments : List StudyExperiment
  deriving DecidableEq, Repr

structure Description where
  studies : List Study
  deriving DecidableEq, Repr

namespace Description

def size (d : Description) : Nat := d.studies.length

def isEmpty (d : Description) : Bool := d.studies.isEmpty

def study? (d : Description) (name : String) : Option Study := d.studies.find? (·.name == name)

def experimentCount (d : Description) : Nat := (d.studies.map (·.experiments.length)).foldr (· + ·) 0

end Description
end StudyPlan
