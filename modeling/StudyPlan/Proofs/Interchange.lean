import StudyPlan.Proofs.Commands
import StudyPlan.Proofs.Yaml.Spelling

/-! A config that is written as JSON is read alike whatever the format it is taken for, as long
as its texts are printable ASCII and its keys are short: two parsers that share nothing meet on
one text, and what looks like the syntax of one of them in a string stays a string. -/
namespace StudyPlan
open Json (Value)
open Json.Value

namespace Experiment

def paramKeys (x : Experiment) : List String := (x.params.map OrderedMap.keys).getD []

def strings (x : Experiment) : List String :=
  x.name :: (x.paramKeys ++ (x.params.map fun m => m.entries.map Prod.snd).getD [] ++
    x.enableFeatures.getD [] ++ x.disableFeatures.getD [] ++ x.forcingFlag.toList)

end Experiment

def PlatformEntry.strings (e : PlatformEntry) : List String :=
  e.platforms ++ e.formFactors ++ e.experiments.flatMap Experiment.strings

namespace TrialConfig

def strings (c : TrialConfig) : List String :=
  c.trials.entries.flatMap fun trial => trial.1 :: trial.2.flatMap PlatformEntry.strings

def keys (c : TrialConfig) : List String :=
  c.trials.entries.flatMap fun trial =>
    trial.1 :: trial.2.flatMap fun e => e.experiments.flatMap Experiment.paramKeys

end TrialConfig

theorem stringsCommon {texts : List String} (printable : ∀ s ∈ texts, Printable s) :
    (Value.strings texts).Common := by
  refine itemsCommon ?_
  intro v member
  obtain ⟨s, inside, rfl⟩ := List.mem_map.mp member
  exact ⟨rfl, printable s inside⟩

theorem memberCommon {name : String} {v : Value} (keyable : Keyable name) (common : v.Common) :
    ∀ m ∈ [(name, v)], Keyable m.1 ∧ m.2.Common := by
  intro m member
  cases List.mem_singleton.mp member
  exact ⟨keyable, common⟩

theorem optionalCommon {α : Type} {name : String} {encode : α → Value} {x? : Option α}
    (keyable : Keyable name) (common : ∀ x ∈ x?, (encode x).Common) :
    ∀ m ∈ optionalMember name encode x?, Keyable m.1 ∧ m.2.Common := by
  cases x? with
  | none => simp [optionalMember]
  | some x => exact memberCommon keyable (common x rfl)

theorem paramsCommon {m : OrderedMap String} (keyable : ∀ key ∈ m.keys, Keyable key)
    (printable : ∀ s ∈ m.entries.map Prod.snd, Printable s) : (m.toValue .string).Common := by
  refine membersCommon ?_
  intro member inside
  obtain ⟨entry, there, rfl⟩ := List.mem_map.mp inside
  exact ⟨keyable _ (List.mem_map_of_mem there), printable _ (List.mem_map_of_mem there)⟩

theorem Experiment.valueCommon {x : Experiment} (printable : ∀ s ∈ x.strings, Printable s)
    (short : ∀ key ∈ x.paramKeys, key.length ≤ 500) : x.toValue.Common := by
  simp only [strings, List.forall_mem_cons, List.forall_mem_append] at printable
  obtain ⟨name, ⟨⟨⟨keys, values⟩, enable⟩, disable⟩, flag⟩ := printable
  have params : ∀ m ∈ x.params, (m.toValue .string).Common := by
    intro m given
    simp only [paramKeys, Option.mem_def.mp given, Option.map_some, Option.getD_some] at *
    exact paramsCommon (fun key member => ⟨keys key member, short key member⟩) values
  have enabled : ∀ texts ∈ x.enableFeatures, (Value.strings texts).Common := by
    intro texts given
    rw [Option.mem_def.mp given] at enable
    exact stringsCommon enable
  have disabled : ∀ texts ∈ x.disableFeatures, (Value.strings texts).Common := by
    intro texts given
    rw [Option.mem_def.mp given] at disable
    exact stringsCommon disable
  have flagged : ∀ s ∈ x.forcingFlag, (Value.string s).Common :=
    fun s given => flag s (Option.mem_toList.mpr given)
  refine membersCommon ?_
  simp only [List.forall_mem_append]
  exact ⟨⟨⟨⟨memberCommon (by decide) name, optionalCommon (by decide) params⟩,
    optionalCommon (by decide) enabled⟩, optionalCommon (by decide) disabled⟩,
    optionalCommon (by decide) flagged⟩

theorem PlatformEntry.valueCommon {e : PlatformEntry} (printable : ∀ s ∈ e.strings, Printable s)
    (short : ∀ x ∈ e.experiments, ∀ key ∈ x.paramKeys, key.length ≤ 500) : e.toValue.Common := by
  simp only [strings, List.forall_mem_append, List.forall_mem_flatMap] at printable
  obtain ⟨⟨platforms, formFactors⟩, experiments⟩ := printable
  have lowEnd : ∀ b ∈ e.isLowEndDevice, (Value.bool b).Common := fun _ _ => trivial
  have experimentsCommon : (Value.array (e.experiments.map Experiment.toValue)).Common := by
    refine itemsCommon ?_
    intro v member
    obtain ⟨x, inside, rfl⟩ := List.mem_map.mp member
    exact ⟨rfl, x.valueCommon (experiments x inside) (short x inside)⟩
  have formFactorsCommon : ∀ m ∈ (if e.formFactors.isEmpty then [] else
      [("form_factors", Value.strings e.formFactors)]), Keyable m.1 ∧ m.2.Common := by
    split
    · simp
    · exact memberCommon (by decide) (stringsCommon formFactors)
  refine membersCommon ?_
  simp only [List.forall_mem_append]
  exact ⟨⟨⟨memberCommon (by decide) (stringsCommon platforms), formFactorsCommon⟩,
    optionalCommon (by decide) lowEnd⟩, memberCommon (by decide) experimentsCommon⟩

namespace TrialConfig

theorem valueCommon {c : TrialConfig} (printable : ∀ s ∈ c.strings, Printable s)
    (short : ∀ key ∈ c.keys, key.length ≤ 500) : c.toValue.Common := by
  simp only [strings, List.forall_mem_flatMap, List.forall_mem_cons] at printable
  simp only [keys, List.forall_mem_flatMap, List.forall_mem_cons] at short
  refine membersCommon ?_
  intro member inside
  obtain ⟨trial, there, rfl⟩ := List.mem_map.mp inside
  obtain ⟨name, texts⟩ := printable trial there
  obtain ⟨bound, bounds⟩ := short trial there
  refine ⟨⟨name, bound⟩, itemsCommon ?_⟩
  intro v inside
  obtain ⟨e, entry, rfl⟩ := List.mem_map.mp inside
  exact ⟨rfl, e.valueCommon (texts e entry) (bounds e entry)⟩

theorem yamlBack {c : TrialConfig} (distinct : c.WellFormed) (common : c.toValue.Common) :
    ofYaml c.text = .ok c := by
  obtain ⟨root, document, spelt⟩ := Yaml.Document.documentRead common
  have yields := Yaml.trialConfigFollows spelt c (valueBack distinct)
  have read : Yaml.readText Schema.trialConfig c.text = .ok c := by
    show Yaml.readText Schema.trialConfig (Value.object _).compact = _
    simp only [Yaml.readText, document, Option.getD_some, yields _ .root 0]
    rfl
  rw [ofYaml, read]
  rfl

theorem jsonBack {c : TrialConfig} (distinct : c.WellFormed) : ofJson c.text = .ok c := by
  have read := (Json.textAgrees Json.trialConfigAgrees c.valueLegible c).mpr (valueBack distinct)
  simp only [ofJson, ofGlyphs, text, read]
  rfl

theorem parsedBack {c : TrialConfig} (distinct : c.WellFormed) (common : c.toValue.Common)
    (format : DocumentFormat) : parse format c.text = .ok c := by
  cases format with
  | json => exact jsonBack distinct
  | yaml => exact yamlBack distinct common

end TrialConfig

theorem FileSystem.thereIfRead {fs : FileSystem} {path text : String}
    (read : fs.readText path = .ok text) : fs.isThere path = true := by
  unfold readText at read
  cases located : fs.locate path with
  | error problem => simp [located, bind, Except.bind] at read
  | ok location =>
    cases here : fs.nodeAt location with
    | none => simp [located, here, bind, Except.bind, throw, throwThe, MonadExceptOf.throw] at read
    | some node =>
      simp [isThere, lookup, located, here, bind, Except.bind, pure, Except.pure, Except.isOk,
        Except.toBool]

theorem FileSystem.configBack {fs : FileSystem} {path : String} {c : TrialConfig}
    (distinct : c.WellFormed) (common : c.toValue.Common) (read : fs.readText path = .ok c.text) :
    fs.trialConfig path = .ok c := by
  simp only [trialConfig, thereIfRead read, read, TrialConfig.ofContent,
    TrialConfig.parsedBack distinct common]
  rfl

/-- The loaders agree on what is written for a config as JSON. So the name of the file does not
matter, and whatever is resolved from it comes out the same. -/
theorem TrialConfig.loadsAlike (c : TrialConfig) (distinct : c.WellFormed)
    (printable : ∀ s ∈ c.strings, Printable s) (short : ∀ key ∈ c.keys, key.length ≤ 500) :
    ofYaml c.text = .ok c ∧ ofJson c.text = .ok c ∧
      (∀ path, ofContent path (.ok c.text) = .ok c) ∧
      ∀ (t : TransformCommand) (s : Settings) (w : Writer) (fs : FileSystem) (path : String),
        fs.readText path = .ok c.text → fs.readText t.file = .ok c.text →
        (({ t with file := path } : TransformCommand).run s w : StateM FileSystem Outcome) fs =
          (t.run s w : StateM FileSystem Outcome) fs := by
  have common := valueCommon printable short
  refine ⟨yamlBack distinct common, jsonBack distinct, ?_, ?_⟩
  · intro path
    simp only [ofContent, parsedBack distinct common]
    rfl
  · intro t s w fs path read read'
    have resolved :
        ({ t with file := path } : TransformCommand).resolved s fs = t.resolved s fs := by
      simp only [TransformCommand.resolved, FileSystem.configBack distinct common read,
        FileSystem.configBack distinct common read']
      rfl
    rw [TransformCommand.ran, TransformCommand.ran, resolved]
    rfl

namespace TrialConfig

def lookalike : TrialConfig where
  trials := ⟨[
    ("~", []),
    ("\"\\: # -", [
      { platforms := ["null", "- a", " # b "], formFactors := ["\x7b\x7d[],&*!|>'%@"]
        isLowEndDevice := some true
        experiments := [
          { name := "yes: no", params := some ⟨[("1e3", "0x1F"), ("", "\\n")]⟩
            enableFeatures := some [], disableFeatures := some ["<<", "---", "..."]
            forcingFlag := some "" }] }])]⟩

def quotes (n : Nat) : String := String.ofList (List.replicate n '"')

theorem quotesKeyable {n : Nat} (bound : n ≤ 500) : Keyable (quotes n) where
  printable := by
    intro c member
    rw [quotes, String.toList_ofList] at member
    rw [List.eq_of_mem_replicate member]
    decide
  short := by rwa [quotes, String.length_ofList, List.length_replicate]

theorem lookalikeLoads :
    (lookalike.WellFormed ∧ (∀ s ∈ lookalike.strings, Printable s) ∧
      ∀ key ∈ lookalike.keys, key.length ≤ 500) ∧
    ofYaml lookalike.text = .ok lookalike ∧
    ofYaml (TrialConfig.mk ⟨[(quotes 500, [])]⟩).text = .ok ⟨⟨[(quotes 500, [])]⟩⟩ := by
  have distinct : lookalike.WellFormed := ⟨by decide, by decide⟩
  have printable : ∀ s ∈ lookalike.strings, Printable s := by decide
  have short : ∀ key ∈ lookalike.keys, key.length ≤ 500 := by decide
  have keyable : Keyable (quotes 500) := quotesKeyable (Nat.le_refl 500)
  have distinct' : WellFormed ⟨⟨[(quotes 500, [])]⟩⟩ :=
    ⟨List.nodup_singleton _, by simp⟩
  have printable' : ∀ s ∈ strings ⟨⟨[(quotes 500, [])]⟩⟩, Printable s := by
    simp [strings, keyable.printable]
  have short' : ∀ key ∈ keys ⟨⟨[(quotes 500, [])]⟩⟩, key.length ≤ 500 := by
    simp [keys, keyable.short]
  exact ⟨⟨distinct, printable, short⟩, (loadsAlike lookalike distinct printable short).1,
    (loadsAlike ⟨⟨[(quotes 500, [])]⟩⟩ distinct' printable' short').1⟩

end TrialConfig
end StudyPlan
