import StudyPlan.Proofs.Json.Reading

/-! Which JSON values are trial configs, and which config each of them is. What is said of
them does not go through the readers: an object gives its members in any order, an array
gives the fields from the first on, and the fields say what they hold. -/
namespace StudyPlan
open Json (Value)
open Schema (Problem Record)

namespace Json.Value

def IsStrings (v : Value) (texts : List String) : Prop := v = .array (texts.map .string)

def IsParams (v : Value) (m : OrderedMap String) : Prop :=
  v = .object (m.entries.map fun (key, s) => (key, .string s)) ∧ m.WellFormed

structure ExperimentGiven (members : List (String × Value)) (x : Experiment) : Prop where
  name : members.lookup "name" = some (.string x.name)
  params : Optional IsParams (members.lookup "params") x.params
  enableFeatures : Optional IsStrings (members.lookup "enable_features") x.enableFeatures
  disableFeatures : Optional IsStrings (members.lookup "disable_features") x.disableFeatures
  forcingFlag : Optional (fun v s => v = .string s) (members.lookup "forcing_flag") x.forcingFlag

def IsExperiment (v : Value) (x : Experiment) : Prop :=
  ∃ members, Gives ["name", "params", "enable_features", "disable_features", "forcing_flag"] v
    members ∧ ExperimentGiven members x

/- Form factors may be absent, but not null. The experiments are the last of the fields, so
that an array has to give all four. -/
structure EntryGiven (members : List (String × Value)) (e : PlatformEntry) : Prop where
  platforms : members.lookup "platforms" = some (.array (e.platforms.map .string))
  formFactors : members.lookup "form_factors" = some (.array (e.formFactors.map .string)) ∨
    members.lookup "form_factors" = none ∧ e.formFactors = []
  lowEnd : Optional (fun v b => v = .bool b) (members.lookup "is_low_end_device") e.isLowEndDevice
  experiments : ∃ values, members.lookup "experiments" = some (.array values) ∧
    List.Forall₂ IsExperiment values e.experiments

def IsEntry (v : Value) (e : PlatformEntry) : Prop :=
  ∃ members, Gives ["platforms", "form_factors", "is_low_end_device", "experiments"] v members ∧
    EntryGiven members e

def IsTrial (m : String × Value) (trial : String × List PlatformEntry) : Prop :=
  m.1 = trial.1 ∧ ∃ values, m.2 = .array values ∧ List.Forall₂ IsEntry values trial.2

def IsConfig (v : Value) (c : TrialConfig) : Prop :=
  c.trials.WellFormed ∧ ∃ members, v = .object members ∧
    List.Forall₂ IsTrial members c.trials.entries

theorem stringsAccepted {v : Value} {texts : List String} :
    Schema.strings v = .ok texts ↔ IsStrings v texts := by
  have each : (fun v s => readString v = .ok s) = fun v s => v = .string s := by
    funext v s
    exact propext stringAccepted
  show readList readString v = .ok texts ↔ _
  rw [listAccepted, each]
  simp only [mappedFrom, exists_eq_right, IsStrings]

theorem paramsAccepted {v : Value} {m : OrderedMap String} :
    readDictionary readString v = .ok m ↔ IsParams v m := by
  have each : EntryRead readString = fun member entry => member = (entry.1, .string entry.2) := by
    funext member entry
    simp [EntryRead, stringAccepted, Prod.ext_iff]
  rw [dictionaryAccepted, each, IsParams, and_comm]
  simp only [mappedFrom, exists_eq_right]

def experimentReading : Record Value (Except Problem) Schema.ExperimentDraft Experiment :=
  Schema.experimentRecord

def entryReading : Record Value (Except Problem) Schema.EntryDraft PlatformEntry :=
  Schema.entryRecord

theorem experimentStored {members : List (String × Value)} {d : Schema.ExperimentDraft}
    (distinct : (members.map Prod.fst).Nodup)
    (given : readByName experimentReading [] experimentReading.initial members = .ok d) :
    Stored members "name" readString some none d.name ∧
    Stored members "params" (readOptional (readDictionary readString)) id none d.params ∧
    Stored members "enable_features" (readOptional Schema.strings) id none d.enableFeatures ∧
    Stored members "disable_features" (readOptional Schema.strings) id none d.disableFeatures ∧
    Stored members "forcing_flag" (readOptional readString) id none d.forcingFlag := by
  refine ⟨partStored (·.name) some ⟨⟨_, rfl, fun _ _ => rfl⟩, ?_⟩ distinct given,
    partStored (·.params) id ⟨⟨_, rfl, fun _ _ => rfl⟩, ?_⟩ distinct given,
    partStored (·.enableFeatures) id ⟨⟨_, rfl, fun _ _ => rfl⟩, ?_⟩ distinct given,
    partStored (·.disableFeatures) id ⟨⟨_, rfl, fun _ _ => rfl⟩, ?_⟩ distinct given,
    partStored (·.forcingFlag) id ⟨⟨_, rfl, fun _ _ => rfl⟩, ?_⟩ distinct given⟩
  all_goals simp [experimentReading, Schema.experimentRecord, ofName, apartOf]

theorem entryStored {members : List (String × Value)} {d : Schema.EntryDraft}
    (distinct : (members.map Prod.fst).Nodup)
    (given : readByName entryReading [] entryReading.initial members = .ok d) :
    Stored members "platforms" Schema.strings some none d.platforms ∧
    Stored members "form_factors" Schema.strings id [] d.formFactors ∧
    Stored members "is_low_end_device" (readOptional readBool) id none d.isLowEndDevice ∧
    Stored members "experiments" (readList (readRecord experimentReading)) some none
      d.experiments := by
  refine ⟨partStored (·.platforms) some ⟨⟨_, rfl, fun _ _ => rfl⟩, ?_⟩ distinct given,
    partStored (·.formFactors) id ⟨⟨_, rfl, fun _ _ => rfl⟩, ?_⟩ distinct given,
    partStored (·.isLowEndDevice) id ⟨⟨_, rfl, fun _ _ => rfl⟩, ?_⟩ distinct given,
    partStored (·.experiments) some ⟨⟨_, rfl, fun _ _ => rfl⟩, ?_⟩ distinct given⟩
  all_goals simp [entryReading, Schema.entryRecord, ofName, apartOf]

theorem experimentGiven {members : List (String × Value)} {x : Experiment} :
    ExperimentGiven members x ↔
      Stored members "name" readString some none (some x.name) ∧
      Stored members "params" (readOptional (readDictionary readString)) id none x.params ∧
      Stored members "enable_features" (readOptional Schema.strings) id none x.enableFeatures ∧
      Stored members "disable_features" (readOptional Schema.strings) id none x.disableFeatures ∧
      Stored members "forcing_flag" (readOptional readString) id none x.forcingFlag := by
  have params : ∀ v m, readDictionary readString v = .ok m ↔ IsParams v m :=
    fun _ _ => paramsAccepted
  have strings : ∀ v texts, Schema.strings v = .ok texts ↔ IsStrings v texts :=
    fun _ _ => stringsAccepted
  have string : ∀ v s, readString v = .ok s ↔ v = .string s := fun _ _ => stringAccepted
  rw [requiredStored, optionalStored params (by simp [IsParams]), optionalStored strings nofun,
    optionalStored strings nofun, optionalStored string nofun]
  simp only [stringAccepted, exists_eq_right]
  exact ⟨fun h => ⟨h.1, h.2, h.3, h.4, h.5⟩, fun h => ⟨h.1, h.2.1, h.2.2.1, h.2.2.2.1, h.2.2.2.2⟩⟩

theorem experimentAccepted {v : Value} {x : Experiment} :
    readRecord experimentReading v = .ok x ↔ IsExperiment v x := by
  have once : experimentReading.fieldNames.Nodup := by decide
  rw [recordAccepted rfl once rfl]
  refine exists_congr fun members => and_congr_right fun given => ?_
  have distinct := given.distinct once
  rw [experimentGiven]
  constructor
  · rintro ⟨d, read, finished⟩
    have stored := experimentStored distinct read
    change d.finish = .ok x at finished
    unfold Schema.ExperimentDraft.finish at finished
    split at finished
    · contradiction
    · rename_i name present
      cases finished
      rwa [present] at stored
  · rintro ⟨name, params, enable, disable, flag⟩
    obtain ⟨d, read⟩ := givenReads rfl once given (by
      simp only [experimentReading, Schema.experimentRecord, List.forall_mem_cons]
      exact ⟨storedReads distinct name, storedReads distinct params, storedReads distinct enable,
        storedReads distinct disable, storedReads distinct flag, by simp⟩)
    obtain ⟨name', params', enable', disable', flag'⟩ := experimentStored distinct read
    refine ⟨d, read, ?_⟩
    change d.finish = .ok x
    rw [Schema.ExperimentDraft.finish, storedOnce name' name, storedOnce params' params,
      storedOnce enable' enable, storedOnce disable' disable, storedOnce flag' flag]

theorem entryGiven {members : List (String × Value)} {e : PlatformEntry} :
    EntryGiven members e ↔
      Stored members "platforms" Schema.strings some none (some e.platforms) ∧
      Stored members "form_factors" Schema.strings id [] e.formFactors ∧
      Stored members "is_low_end_device" (readOptional readBool) id none e.isLowEndDevice ∧
      Stored members "experiments" (readList (readRecord experimentReading)) some none
        (some e.experiments) := by
  have bool : ∀ v b, readBool v = .ok b ↔ v = .bool b := fun _ _ => boolAccepted
  have each : (fun v x => readRecord experimentReading v = .ok x) = IsExperiment := by
    funext v x
    exact propext experimentAccepted
  have factors : Stored members "form_factors" Schema.strings id [] e.formFactors ↔
      members.lookup "form_factors" = some (.array (e.formFactors.map .string)) ∨
        members.lookup "form_factors" = none ∧ e.formFactors = [] := by
    unfold Stored
    cases members.lookup "form_factors" <;> simp [stringsAccepted, IsStrings]
  rw [requiredStored, requiredStored, factors, optionalStored bool nofun]
  simp only [stringsAccepted, listAccepted, each, IsStrings, exists_eq_right]
  constructor
  · rintro ⟨platforms, formFactors, lowEnd, values, given, experiments⟩
    exact ⟨platforms, formFactors, lowEnd, _, given, values, rfl, experiments⟩
  · rintro ⟨platforms, formFactors, lowEnd, _, given, values, rfl, experiments⟩
    exact ⟨platforms, formFactors, lowEnd, values, given, experiments⟩

theorem entryAccepted {v : Value} {e : PlatformEntry} :
    readRecord entryReading v = .ok e ↔ IsEntry v e := by
  have once : entryReading.fieldNames.Nodup := by decide
  rw [recordAccepted rfl once rfl]
  refine exists_congr fun members => and_congr_right fun given => ?_
  have distinct := given.distinct once
  rw [entryGiven]
  constructor
  · rintro ⟨d, read, finished⟩
    have stored := entryStored distinct read
    change d.finish = .ok e at finished
    unfold Schema.EntryDraft.finish at finished
    split at finished
    · contradiction
    · contradiction
    · rename_i platforms experiments first last
      cases finished
      rwa [first, last] at stored
  · rintro ⟨platforms, formFactors, lowEnd, experiments⟩
    obtain ⟨d, read⟩ := givenReads rfl once given (by
      simp only [entryReading, Schema.entryRecord, List.forall_mem_cons]
      exact ⟨storedReads distinct platforms, storedReads distinct formFactors,
        storedReads distinct lowEnd, storedReads distinct experiments, by simp⟩)
    obtain ⟨platforms', formFactors', lowEnd', experiments'⟩ := entryStored distinct read
    refine ⟨d, read, ?_⟩
    change d.finish = .ok e
    rw [Schema.EntryDraft.finish, storedOnce platforms' platforms,
      storedOnce formFactors' formFactors, storedOnce lowEnd' lowEnd,
      storedOnce experiments' experiments]

theorem configAccepted {v : Value} {c : TrialConfig} :
    (Schema.trialConfig v : Except Problem TrialConfig) = .ok c ↔ IsConfig v c := by
  have entries : (fun v e => readRecord entryReading v = .ok e) = IsEntry := by
    funext v e
    exact propext entryAccepted
  have trials : EntryRead (readList (readRecord entryReading)) = IsTrial := by
    funext m trial
    simp only [EntryRead, listAccepted, entries, IsTrial]
  have whole : (Schema.trialConfig v : Except Problem TrialConfig) = .ok c ↔
      readDictionary (readList (readRecord entryReading)) v = .ok c.trials := by
    show (readDictionary (readList (readRecord entryReading)) v).map TrialConfig.mk = .ok c ↔ _
    cases readDictionary (readList (readRecord entryReading)) v with
    | error problem => simp [Except.map]
    | ok m =>
      obtain ⟨trials⟩ := c
      simp [Except.map]
  rw [whole, dictionaryAccepted, trials, IsConfig]

end Json.Value

namespace TrialConfig

/-- A value is loaded if and only if it is a trial config, and then as that config. Any other
value is refused at the root, with what the schema has against it as the detail. -/
theorem acceptsExactly (v : Value) :
    (∀ c, ofValue v = .ok c ↔ v.IsConfig c) ∧
      ((¬ ∃ c, v.IsConfig c) → ∃ problem : Problem, Schema.trialConfig v = .error problem ∧
        ofValue v = .error ⟨"$", "invalid JSON trial config: " ++ problem.text .json,
          some ⟨"structure", "a document matching the trial config schema",
            problem.text .json⟩⟩) := by
  constructor
  · intro c
    rw [← Json.Value.configAccepted, ofValue]
    cases (Schema.trialConfig v : Except Problem TrialConfig) <;> simp [Except.mapError]
  · intro none
    cases read : (Schema.trialConfig v : Except Problem TrialConfig) with
    | ok c => exact absurd ⟨c, Json.Value.configAccepted.mp read⟩ none
    | error problem =>
      refine ⟨problem, rfl, ?_⟩
      rw [ofValue, read]
      rfl

example : ofValue (.object [("t", .array [.array [.array [.string "linux"], .array [], .null,
    .array [.array [.string "on", .null]]]])]) =
      .ok ⟨⟨[("t", [⟨["linux"], [], none, [⟨"on", none, none, none, none⟩]⟩])]⟩⟩ := rfl

end TrialConfig
end StudyPlan
