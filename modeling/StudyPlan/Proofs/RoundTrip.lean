import StudyPlan.Document.Load
import StudyPlan.Document.Trial
import StudyPlan.Proofs.Json.TextWritten

/-! Writing a config and reading it back, as a value and as text on one line, gives the
config again: with every order it had, and with what is absent kept apart from what is
empty. -/
namespace StudyPlan
open Json (Value)
open Schema (Problem Record Field)

structure TrialConfig.WellFormed (c : TrialConfig) : Prop where
  names : c.trials.WellFormed
  params : ∀ trial ∈ c.trials.entries, ∀ entry ∈ trial.2, ∀ x ∈ entry.experiments,
    ∀ m ∈ x.params, m.WellFormed

namespace Json.Value
variable {σ α : Type}

theorem itemsBack {read : Value → Except Problem α} {encode : α → Value} {xs : List α}
    (back : ∀ x ∈ xs, read (encode x) = .ok x) : readItems read (xs.map encode) = .ok xs := by
  induction xs with
  | nil => rfl
  | cons x xs ih =>
    have head := back x (by simp)
    have tail := ih fun y member => back y (by simp [member])
    simp [readItems, head, tail, Except.map]

theorem stringsBack (texts : List String) : Schema.strings (strings texts) = .ok texts :=
  itemsBack fun _ _ => rfl

theorem entriesBack {read : Value → Except Problem α} {encode : α → Value}
    (entries : List (String × α)) (before : OrderedMap α)
    (back : ∀ entry ∈ entries, read (encode entry.2) = .ok entry.2)
    (distinct : OrderedMap.WellFormed ⟨before.entries ++ entries⟩) :
    readEntries read before (entries.map fun (key, x) => (key, encode x)) =
      .ok ⟨before.entries ++ entries⟩ := by
  induction entries generalizing before with
  | nil => simp [readEntries]
  | cons entry entries ih =>
    obtain ⟨key, x⟩ := entry
    have head : read (encode x) = .ok x := back (key, x) (by simp)
    have fresh : before.contains key = false := by
      cases taken : before.contains key with
      | false => rfl
      | true =>
        have member := OrderedMap.containsListed.mp taken
        simp only [OrderedMap.WellFormed, OrderedMap.keys, List.map_append, List.map_cons] at distinct
        exact absurd rfl ((List.nodup_append.mp distinct).2.2 key member key (by simp))
    have tail := ih (before.push key x) (fun entry member => back entry (by simp [member]))
      (by simpa [OrderedMap.push] using distinct)
    simp only [List.map_cons, readEntries, head, OrderedMap.insert?, fresh]
    simpa [OrderedMap.push] using tail

theorem dictionaryBack {read : Value → Except Problem α} {encode : α → Value} {m : OrderedMap α}
    (back : ∀ entry ∈ m.entries, read (encode entry.2) = .ok entry.2) (distinct : m.WellFormed) :
    readDictionary read (m.toValue encode) = .ok m := by
  have all := entriesBack m.entries .empty back (by simpa [OrderedMap.empty] using distinct)
  simpa [readDictionary, OrderedMap.toValue, OrderedMap.empty] using all

theorem optionalBack {read : Value → Except Problem α} {v : Value} {x : α} (present : v ≠ .null)
    (back : read v = .ok x) : readOptional read v = .ok (some x) := by
  cases v <;> simp_all [readOptional, Except.map]

variable {β : Type} {r : Record Value (Except Problem) σ β}

/- Members that take a record from one state to another. They are named by `names`,
though some of the names may be left out. -/
def Builds (r : Record Value (Except Problem) σ β) (names : List String)
    (members : List (String × Value)) (s t : σ) : Prop :=
  ∀ seen, (∀ name ∈ names, name ∉ seen) → ∃ seen', seen' ⊆ names ++ seen ∧
    ∀ rest, readByName r seen s (members ++ rest) = readByName r seen' t rest

namespace Builds
variable {name : String} {s t u : σ}

theorem done {names : List String} {members : List (String × Value)}
    (built : Builds r names members s t) : readByName r [] s members = .ok t := by
  obtain ⟨seen, -, read⟩ := built [] (by simp)
  have whole := read []
  rw [List.append_nil] at whole
  rw [whole]
  rfl

theorem append {left right : List String} {before after : List (String × Value)}
    (first : Builds r left before s t) (second : Builds r right after t u)
    (apart : ∀ name ∈ right, name ∉ left) : Builds r (left ++ right) (before ++ after) s u := by
  intro seen fresh
  obtain ⟨seen₁, bound₁, read₁⟩ := first seen fun name member => fresh name (by simp [member])
  obtain ⟨seen₂, bound₂, read₂⟩ := second seen₁ (by
    intro name member taken
    rcases List.mem_append.mp (bound₁ taken) with named | old
    · exact apart name member named
    · exact fresh name (by simp [member]) old)
  refine ⟨seen₂, ?_, ?_⟩
  · intro name member
    rcases List.mem_append.mp (bound₂ member) with named | taken
    · simp [named]
    · rcases List.mem_append.mp (bound₁ taken) with named | old
      · simp [named]
      · simp [old]
  · intro rest
    rw [List.append_assoc, read₁, read₂]

theorem one {read : Value → Except Problem α} {store : σ → α → σ}
    (field : r.field? name = some (.of name read store)) {v : Value} {x : α}
    (back : read v = .ok x) : Builds r [name] [(name, v)] s (store s x) := by
  intro seen fresh
  have new : name ∉ seen := fresh name (by simp)
  refine ⟨name :: seen, List.Subset.refl _, ?_⟩
  intro rest
  simp [readByName, field, new, Field.of, back]

theorem none (same : s = t) : Builds r [name] [] s t := by
  intro seen _
  exact ⟨seen, List.subset_cons_self .., fun rest => by rw [same, List.nil_append]⟩

theorem optional {read : Value → Except Problem α} {encode : α → Value}
    {store : σ → Option α → σ} (field : r.field? name = some (.of name (readOptional read) store))
    {x? : Option α} (back : ∀ x ∈ x?, encode x ≠ .null ∧ read (encode x) = .ok x)
    (absent : store s .none = s) :
    Builds r [name] (optionalMember name encode x?) s (store s x?) := by
  cases x? with
  | none => exact none absent.symm
  | some x => exact one field (optionalBack (back x rfl).1 (back x rfl).2)

end Builds
end Json.Value

open Json.Value

theorem Experiment.valueBack (e : Experiment) (distinct : ∀ m ∈ e.params, m.WellFormed) :
    readRecord Schema.experimentRecord e.toValue = .ok e := by
  let r : Record Value (Except Problem) Schema.ExperimentDraft Experiment := Schema.experimentRecord
  have nameField : r.field? "name" =
      some (.of "name" readString fun d x => { d with name := some x }) := rfl
  have paramsField : r.field? "params" = some (.of "params"
      (readOptional (readDictionary readString)) fun d x => { d with params := x }) := rfl
  have enableField : r.field? "enable_features" = some (.of "enable_features"
      (readOptional Schema.strings) fun d x => { d with enableFeatures := x }) := rfl
  have disableField : r.field? "disable_features" = some (.of "disable_features"
      (readOptional Schema.strings) fun d x => { d with disableFeatures := x }) := rfl
  have flagField : r.field? "forcing_flag" = some (.of "forcing_flag"
      (readOptional readString) fun d x => { d with forcingFlag := x }) := rfl
  have paramsBack : ∀ m ∈ e.params, m.toValue .string ≠ .null ∧
      readDictionary readString (m.toValue .string) = .ok m :=
    fun m member => ⟨nofun, dictionaryBack (fun _ _ => rfl) (distinct m member)⟩
  have listBack : ∀ texts? : Option (List String), ∀ texts ∈ texts?, strings texts ≠ .null ∧
      Schema.strings (strings texts) = .ok texts :=
    fun _ texts _ => ⟨nofun, stringsBack texts⟩
  have flagBack : ∀ s ∈ e.forcingFlag, Value.string s ≠ .null ∧ readString (.string s) = .ok s :=
    fun _ _ => ⟨nofun, rfl⟩
  have nameRead : readString (.string e.name) = .ok e.name := rfl
  have built := ((((Builds.one (s := r.initial) nameField nameRead)
    |>.append (.optional paramsField paramsBack rfl) (by simp))
    |>.append (.optional enableField (listBack e.enableFeatures) rfl) (by simp))
    |>.append (.optional disableField (listBack e.disableFeatures) rfl) (by simp))
    |>.append (.optional flagField flagBack rfl) (by simp)
  have read := built.done
  simp only [Experiment.toValue, readRecord]
  rw [read]
  rfl

theorem PlatformEntry.valueBack (e : PlatformEntry)
    (distinct : ∀ x ∈ e.experiments, ∀ m ∈ x.params, m.WellFormed) :
    readRecord Schema.entryRecord e.toValue = .ok e := by
  let r : Record Value (Except Problem) Schema.EntryDraft PlatformEntry := Schema.entryRecord
  have platformsField : r.field? "platforms" =
      some (.of "platforms" Schema.strings fun d x => { d with platforms := some x }) := rfl
  have formFactorsField : r.field? "form_factors" =
      some (.of "form_factors" Schema.strings fun d x => { d with formFactors := x }) := rfl
  have lowEndField : r.field? "is_low_end_device" = some (.of "is_low_end_device"
      (readOptional readBool) fun d x => { d with isLowEndDevice := x }) := rfl
  have experimentsField : r.field? "experiments" = some (.of "experiments"
      (readList (readRecord Schema.experimentRecord)) fun d x =>
        { d with experiments := some x }) := rfl
  have lowEndBack : ∀ b ∈ e.isLowEndDevice, Value.bool b ≠ .null ∧ readBool (.bool b) = .ok b :=
    fun _ _ => ⟨nofun, rfl⟩
  have experimentsBack : readList (readRecord Schema.experimentRecord)
      (.array (e.experiments.map Experiment.toValue)) = .ok e.experiments :=
    itemsBack fun x member => x.valueBack (distinct x member)
  -- an empty list of form factors is left out, and is also the default
  have formFactors : Builds r ["form_factors"]
      (if e.formFactors.isEmpty then [] else [("form_factors", strings e.formFactors)])
      { platforms := some e.platforms } { platforms := some e.platforms,
                                          formFactors := e.formFactors } := by
    split
    · rename_i empty
      rw [List.isEmpty_iff.mp empty]
      exact .none rfl
    · exact .one formFactorsField (stringsBack e.formFactors)
  have built := (((Builds.one (s := r.initial) platformsField (stringsBack e.platforms))
    |>.append formFactors (by simp))
    |>.append (.optional lowEndField lowEndBack rfl) (by simp))
    |>.append (.one experimentsField experimentsBack) (by simp)
  simp only [PlatformEntry.toValue, readRecord]
  rw [built.done]
  rfl

theorem optionalLegible {α : Type} {name : String} {encode : α → Value} {x? : Option α}
    (legible : ∀ x, (encode x).Legible) : ∀ m ∈ optionalMember name encode x?, m.2.Legible := by
  cases x? with
  | none => simp [optionalMember]
  | some x => simp [optionalMember, legible x]

theorem paramsLegible (m : OrderedMap String) : (m.toValue .string).Legible := by
  refine membersLegible ?_
  intro member inside
  obtain ⟨param, -, rfl⟩ := List.mem_map.mp inside
  trivial

theorem Experiment.valueLegible (e : Experiment) : e.toValue.Legible := by
  have flagLegible : ∀ s, (Value.string s).Legible := fun _ => trivial
  refine membersLegible ?_
  simp only [List.mem_append, List.mem_singleton]
  rintro m ((((rfl | params) | enable) | disable) | flag)
  · trivial
  · exact optionalLegible paramsLegible m params
  · exact optionalLegible stringsLegible m enable
  · exact optionalLegible stringsLegible m disable
  · exact optionalLegible flagLegible m flag

theorem PlatformEntry.valueLegible (e : PlatformEntry) : e.toValue.Legible := by
  have lowEndLegible : ∀ b, (Value.bool b).Legible := fun _ => trivial
  refine membersLegible ?_
  simp only [List.mem_append, List.mem_singleton]
  rintro m (((rfl | formFactors) | lowEnd) | rfl)
  · exact stringsLegible e.platforms
  · split at formFactors
    · contradiction
    · rw [List.mem_singleton.mp formFactors]
      exact stringsLegible e.formFactors
  · exact optionalLegible lowEndLegible m lowEnd
  · refine itemsLegible ?_
    intro value inside
    obtain ⟨x, -, rfl⟩ := List.mem_map.mp inside
    exact x.valueLegible

namespace TrialConfig

theorem valueBack {c : TrialConfig} (distinct : c.WellFormed) :
    (Schema.trialConfig c.toValue : Except Problem TrialConfig) = .ok c := by
  have trials : readDictionary (readList (readRecord Schema.entryRecord)) c.toValue =
      .ok c.trials := by
    refine dictionaryBack ?_ distinct.names
    intro trial member
    exact itemsBack fun entry inside => entry.valueBack (distinct.params trial member entry inside)
  show TrialConfig.mk <$> readDictionary (readList (readRecord Schema.entryRecord)) c.toValue = _
  rw [trials]
  rfl

theorem valueLegible (c : TrialConfig) : c.toValue.Legible := by
  refine membersLegible ?_
  intro member inside
  obtain ⟨trial, -, rfl⟩ := List.mem_map.mp inside
  refine itemsLegible ?_
  intro value inside
  obtain ⟨entry, -, rfl⟩ := List.mem_map.mp inside
  exact entry.valueLegible

/-- Reading undoes writing. -/
theorem readsBack (c : TrialConfig) (distinct : c.WellFormed) :
    ofJson c.text = .ok c ∧ ofValue c.toValue = .ok c := by
  have value := valueBack distinct
  have text := (Json.textAgrees Json.trialConfigAgrees c.valueLegible c).mpr value
  constructor
  · simp only [ofJson, ofGlyphs, TrialConfig.text, text]
    rfl
  · simp only [ofValue, value]
    rfl

def awkward : TrialConfig where
  trials := ⟨[
    ("", []),
    ("\"\\/\x08\x0c\n\r\t\x00\x1f\x7f", [
      { platforms := [], experiments := [] },
      { platforms := ["windows", "windows", ""], formFactors := ["é\u2028"]
        isLowEndDevice := some false
        experiments := [
          { name := "" },
          { name := "😀", params := some ⟨[]⟩, enableFeatures := some []
            disableFeatures := some ["b", "a", "b"], forcingFlag := some "" },
          { name := "null", params := some ⟨[("z", "\x01"), ("a", "\\u0041"), ("", "\x7d")]⟩ }] }])]⟩

theorem awkwardReadsBack : awkward.WellFormed ∧
    ofJson awkward.text = .ok awkward ∧ ofValue awkward.toValue = .ok awkward := by
  have distinct : awkward.WellFormed := ⟨by decide, by decide⟩
  exact ⟨distinct, readsBack awkward distinct⟩

end TrialConfig

end StudyPlan
