import StudyPlan.Trial
import StudyPlan.Description
import StudyPlan.Event

/-! Resolving a config for one platform. Every entry of a trial is checked before
one is selected, so an entry that no platform reaches can still refuse the whole
config; the entry used is the first one that lists the platform. A run gives its
events together with its result. -/
namespace StudyPlan

structure ResolvedEntry where
  index : Nat
  platforms : List Platform
  formFactors : List FormFactor
  isLowEndDevice : OptionalBool
  experiments : List Experiment
  deriving DecidableEq, Repr

structure Run (α : Type) where
  events : List Event
  omitted : Nat
  result : Except Violation α

namespace Resolve

def tags {α : Type} [TagTable α] (path : SchemaPath) (rule : String) (i : Nat) :
    List String → Except Violation (List α)
  | [] => .ok []
  | text :: rest =>
    match TagTable.parse text with
    | .error unknown => .error (unknown.toViolation (path.index i).text rule)
    | .ok tag =>
      match tags path rule (i + 1) rest with
      | .error v => .error v
      | .ok found => .ok (tag :: found)

def entry (path : SchemaPath) (i : Nat) (e : PlatformEntry) : Except Violation ResolvedEntry := do
  if e.platforms.isEmpty then
    throw (.emptyList (path.child "platforms") "platform config declares no platforms" "platform")
  let platforms ← tags (path.child "platforms") "platform_tag" 0 e.platforms
  let formFactors ← tags (path.child "form_factors") "form_factor_tag" 0 e.formFactors
  if e.experiments.isEmpty then
    throw (.emptyList (path.child "experiments") "platform config declares no experiments"
      "experiment")
  return ⟨i, platforms, formFactors, .ofOption e.isLowEndDevice, e.experiments⟩

def entriesFrom (path : SchemaPath) (i : Nat) :
    List PlatformEntry → Except Violation (List ResolvedEntry)
  | [] => .ok []
  | e :: rest =>
    match entry (path.index i) i e with
    | .error v => .error v
    | .ok resolved =>
      match entriesFrom path (i + 1) rest with
      | .error v => .error v
      | .ok found => .ok (resolved :: found)

def trial (name : String) (entries : List PlatformEntry) : Except Violation (List ResolvedEntry) :=
  let path := SchemaPath.root.child name
  if entries.isEmpty then
    .error (.emptyList path "trial has no platform configs" "platform config")
  else entriesFrom path 0 entries

def select (p : Platform) (entries : List ResolvedEntry) : Option ResolvedEntry :=
  entries.find? (·.platforms.contains p)

def params (m : OrderedMap String) : Option (List Param) :=
  if m.isEmpty then none else some (m.entries.map fun (key, value) => ⟨key, value⟩)

def experiment (p : Platform) (e : ResolvedEntry) (x : Experiment) : StudyExperiment where
  name := x.name
  platforms := [p]
  params := x.params.bind params
  enableFeatures := x.enableFeatures
  disableFeatures := x.disableFeatures
  forcingFlag := x.forcingFlag
  isLowEndDevice := e.isLowEndDevice
  formFactors := e.formFactors

def study (p : Platform) (name : String) (e : ResolvedEntry) : Study :=
  ⟨name, e.experiments.map (experiment p e)⟩

def studies (p : Platform) : List (String × List PlatformEntry) → Run (List Study)
  | [] => ⟨[], 0, .ok []⟩
  | (name, entries) :: rest =>
    match trial name entries with
    | .error v => ⟨[], 0, .error v⟩
    | .ok resolved =>
      let tail := studies p rest
      match select p resolved with
      | none => ⟨.omitted name :: tail.events, tail.omitted + 1, tail.result⟩
      | some e =>
        ⟨.selected name e.index :: e.experiments.map (.translating ·.name) ++ tail.events,
          tail.omitted, tail.result.map (study p name e :: ·)⟩

end Resolve

namespace TrialConfig

def run (c : TrialConfig) (p : Platform) : Run Description :=
  let r := Resolve.studies p c.trials.entries
  match r.result with
  | .error v => ⟨r.events, r.omitted, .error v⟩
  | .ok studies =>
    ⟨r.events ++ [.resolved studies.length r.omitted], r.omitted, .ok ⟨studies⟩⟩

def describe (c : TrialConfig) (p : Platform) : Except Violation Description := (c.run p).result

def log (c : TrialConfig) (p : Platform) : List String :=
  (c.run p).events.map (Event.line (some ⟨p, c.size⟩))

def platform (tag : String) : Except Violation Platform :=
  (TagTable.parse tag).mapError (·.toViolation "platform" "platform_tag")

def describeTag (c : TrialConfig) (tag : String) : Except Violation Description := do
  c.describe (← platform tag)

def describeAll (c : TrialConfig) :
    List Platform → Except Violation (List (Platform × Description))
  | [] => .ok []
  | p :: rest =>
    match c.describe p with
    | .error v => .error v
    | .ok d => (c.describeAll rest).map ((p, d) :: ·)

def validateTrials : List (String × List PlatformEntry) → Except Violation Unit
  | [] => .ok ()
  | (name, entries) :: rest =>
    match Resolve.trial name entries with
    | .error v => .error v
    | .ok _ => validateTrials rest

def validate (c : TrialConfig) : Except Violation Unit := validateTrials c.trials.entries

def validationEvents (c : TrialConfig) : List Event :=
  match c.validate with
  | .ok _ => [.valid c.size]
  | .error _ => []

end TrialConfig
end StudyPlan
