import StudyPlan.OrderedMap
import StudyPlan.Violation

/-! A trial config: each trial name maps to the entries that declare, platform by
platform, which experiments the trial runs. Names are unique; everything keeps
the order in which it was written. -/
namespace StudyPlan

/-- One experiment group. An absent field differs from a present empty one. -/
structure Experiment where
  name : String
  params : Option (OrderedMap String) := none
  enableFeatures : Option (List String) := none
  disableFeatures : Option (List String) := none
  forcingFlag : Option String := none
  deriving DecidableEq, Repr

structure PlatformEntry where
  platforms : List String
  formFactors : List String := []
  isLowEndDevice : Option Bool := none
  experiments : List Experiment
  deriving DecidableEq, Repr

structure TrialConfig where
  trials : OrderedMap (List PlatformEntry)
  deriving DecidableEq, Repr

namespace Experiment

def addParam (e : Experiment) (key value : String) : Experiment :=
  { e with params := some ((e.params.getD .empty).insertNew key value) }

def addParams (e : Experiment) (pairs : List (String × String)) : Experiment :=
  pairs.foldl (fun e p => e.addParam p.1 p.2) e

end Experiment

namespace TrialConfig

def empty : TrialConfig := ⟨.empty⟩

instance : Inhabited TrialConfig := ⟨empty⟩

def size (c : TrialConfig) : Nat := c.trials.size

def isEmpty (c : TrialConfig) : Bool := c.trials.isEmpty

def names (c : TrialConfig) : List String := c.trials.keys

def trial? (c : TrialConfig) (name : String) : Option (List PlatformEntry) := c.trials.get? name

def insertTrial (c : TrialConfig) (name : String) (entries : List PlatformEntry) :
    Except Violation TrialConfig :=
  match c.trials.insert? name entries with
  | some trials => .ok ⟨trials⟩
  | none => .error (.duplicateTrial name)

def insertTrials (c : TrialConfig) :
    List (String × List PlatformEntry) → Except Violation TrialConfig
  | [] => .ok c
  | (name, entries) :: rest =>
    match c.insertTrial name entries with
    | .ok c => c.insertTrials rest
    | .error v => .error v

end TrialConfig
end StudyPlan
