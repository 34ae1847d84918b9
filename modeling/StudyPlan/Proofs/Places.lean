import StudyPlan.Proofs.Text.Parts
import StudyPlan.Proofs.Verdict

/-! What a violation tells about its place. A path alone may belong to several places, as names of
trials stand in it as they are and may look like the rest of a path. With the rule and the message
it belongs to one: these tell what kind of defect it is, and then the path can be read from its
right end. -/
namespace StudyPlan
open Resolve

inductive Defect.Kind where
  | noEntries | noPlatforms | platformTag | formFactorTag | noExperiments
  deriving DecidableEq, Repr

namespace Defect.Kind

def rule : Kind → String
  | platformTag => "platform_tag"
  | formFactorTag => "form_factor_tag"
  | _ => "non_empty"

def message? : Kind → Option String
  | noEntries => some "trial has no platform configs"
  | noPlatforms => some "platform config declares no platforms"
  | noExperiments => some "platform config declares no experiments"
  | _ => none

def path (kind : Kind) (trial : String) (i j : Nat) : String :=
  let entry := "$." ++ trial ++ "[" ++ toString i ++ "]"
  match kind with
  | noEntries => "$." ++ trial
  | noPlatforms => entry ++ ".platforms"
  | platformTag => entry ++ ".platforms" ++ "[" ++ toString j ++ "]"
  | formFactorTag => entry ++ ".form_factors" ++ "[" ++ toString j ++ "]"
  | noExperiments => entry ++ ".experiments"

end Defect.Kind

/- The place of a defect. Indices that a kind of defect does not have are zero. -/
structure Place where
  kind : Defect.Kind
  trial : String
  entry : Nat
  tag : Nat
  deriving DecidableEq, Repr

namespace Defect

def kind : Defect → Kind
  | noEntries .. => .noEntries
  | inEntry _ _ _ .noPlatforms => .noPlatforms
  | inEntry _ _ _ (.platformTag ..) => .platformTag
  | inEntry _ _ _ (.formFactorTag ..) => .formFactorTag
  | inEntry _ _ _ .noExperiments => .noExperiments

def trial : Defect → String
  | noEntries _ trial => trial
  | inEntry _ trial _ _ => trial

def place (d : Defect) : Place := ⟨d.kind, d.trial, d.entryPlace, d.tagPlace⟩

theorem ruleKind (d : Defect) : d.violation.rule = some d.kind.rule := by
  cases d with
  | noEntries => rfl
  | inEntry t trial i f => cases f <;> rfl

theorem messageKind (d : Defect) : ∀ message ∈ d.kind.message?, d.violation.message = message := by
  intro message known
  cases d with
  | noEntries =>
    cases known
    rfl
  | inEntry t trial i f => cases f <;> cases known <;> rfl

theorem pathKind (d : Defect) : d.violation.path = d.kind.path d.trial d.entryPlace d.tagPlace := by
  cases d with
  | noEntries => rfl
  | inEntry t trial i f => cases f <;> rfl

theorem kindTold {d d' : Defect} (rule : d.violation.rule = d'.violation.rule)
    (message : d.violation.message = d'.violation.message) : d.kind = d'.kind := by
  have told := d.messageKind
  have told' := d'.messageKind
  rw [ruleKind, ruleKind, Option.some.injEq] at rule
  rw [message] at told
  generalize d.kind = k at *
  generalize d'.kind = k' at *
  cases k <;> cases k' <;> simp_all [Kind.rule, Kind.message?]

end Defect

/- Paths are read from the right: the digits in the last brackets hold no bracket. -/
theorem indexTold {s s' : String} {i i' : Nat}
    (same : s ++ "[" ++ toString i ++ "]" = s' ++ "[" ++ toString i' ++ "]") : s = s' ∧ i = i' := by
  have texts : s.toList ++ '[' :: Nat.toDigits 10 i = s'.toList ++ '[' :: Nat.toDigits 10 i' := by
    simpa using congrArg String.toList (endingTold same)
  obtain ⟨before, index⟩ := numberTold rfl texts
  exact ⟨String.toList_inj.mp before, index⟩

namespace Defect

theorem entryTold {name name' : String} {i i' : Nat}
    (same : "$." ++ name ++ "[" ++ toString i ++ "]" = "$." ++ name' ++ "[" ++ toString i' ++ "]") :
    name = name' ∧ i = i' := by
  obtain ⟨before, index⟩ := indexTold same
  exact ⟨behindTold before, index⟩

theorem placeTold {d d' : Defect} (kind : d.kind = d'.kind)
    (path : d.violation.path = d'.violation.path) : d.place = d'.place := by
  rw [pathKind, pathKind, kind] at path
  cases d with
  | noEntries t name =>
    cases d' with
    | noEntries t' name' => rw [place, place, behindTold path]; rfl
    | inEntry t' name' i' f' => cases f' <;> contradiction
  | inEntry t name i f =>
    cases d' with
    | noEntries t' name' => cases f <;> contradiction
    | inEntry t' name' i' f' =>
      cases f with
      | noPlatforms =>
        cases f' <;> try contradiction
        obtain ⟨rfl, rfl⟩ := entryTold (endingTold path)
        rfl
      | platformTag j tag =>
        cases f' <;> try contradiction
        obtain ⟨before, rfl⟩ := indexTold path
        obtain ⟨rfl, rfl⟩ := entryTold (endingTold before)
        rfl
      | formFactorTag j tag =>
        cases f' <;> try contradiction
        obtain ⟨before, rfl⟩ := indexTold path
        obtain ⟨rfl, rfl⟩ := entryTold (endingTold before)
        rfl
      | noExperiments =>
        cases f' <;> try contradiction
        obtain ⟨rfl, rfl⟩ := entryTold (endingTold path)
        rfl

end Defect

def PlatformEntry.sound : PlatformEntry where
  platforms := ["windows"]
  experiments := [{ name := "" }]

def Fault.entry : Fault → PlatformEntry
  | noPlatforms => { PlatformEntry.sound with platforms := [] }
  | platformTag j tag =>
    { PlatformEntry.sound with platforms := List.replicate j "windows" ++ [tag] }
  | formFactorTag j tag =>
    { PlatformEntry.sound with formFactors := List.replicate j "desktop" ++ [tag] }
  | noExperiments => { PlatformEntry.sound with experiments := [] }

theorem tagAlone {α : Type} [TagTable α] {known tag other : String} {j k : Nat}
    (listed : known ∈ TagTable.tags α) (unknown : other ∉ TagTable.tags α)
    (here : (List.replicate j known ++ [tag])[k]? = some other) : k = j ∧ other = tag := by
  rw [List.getElem?_append] at here
  split at here
  · rw [List.getElem?_replicate] at here
    split at here <;> simp_all
  · rename_i behind
    simp only [List.length_replicate, List.getElem?_singleton] at here behind
    split at here
    · exact ⟨by omega, (Option.some.inj here).symm⟩
    · contradiction

namespace PlatformEntry

theorem soundValid : sound.Valid := by decide

theorem faultAlone {f g : Fault} (h : f.entry.HasFault g) : g = f := by
  have windows : "windows" ∈ TagTable.tags Platform := by decide
  have desktop : "desktop" ∈ TagTable.tags FormFactor := by decide
  cases f with
  | noPlatforms => cases h <;> simp_all [Fault.entry, sound]
  | platformTag j tag =>
    cases h with
    | noPlatforms empty => simp [Fault.entry] at empty
    | platformTag here unknown =>
      obtain ⟨rfl, rfl⟩ := tagAlone windows unknown here
      rfl
    | formFactorTag here => simp [Fault.entry, sound] at here
    | noExperiments empty => simp [Fault.entry, sound] at empty
  | formFactorTag j tag =>
    cases h with
    | noPlatforms empty => simp [Fault.entry, sound] at empty
    | platformTag here unknown =>
      have listed := soundValid.platforms _ (List.mem_of_getElem? here)
      contradiction
    | formFactorTag here unknown =>
      obtain ⟨rfl, rfl⟩ := tagAlone desktop unknown here
      rfl
    | noExperiments empty => simp [Fault.entry, sound] at empty
  | noExperiments =>
    cases h with
    | noPlatforms empty => simp [Fault.entry, sound] at empty
    | platformTag here unknown =>
      have listed := soundValid.platforms _ (List.mem_of_getElem? here)
      contradiction
    | formFactorTag here => simp [Fault.entry, sound] at here
    | noExperiments => rfl

theorem faultKept {e : PlatformEntry} {f : Fault} (h : e.HasFault f) : f.entry.HasFault f := by
  cases h with
  | noPlatforms => exact .noPlatforms rfl
  | platformTag _ unknown => exact .platformTag (by simp [Fault.entry]) unknown
  | formFactorTag _ unknown => exact .formFactorTag (by simp [Fault.entry]) unknown
  | noExperiments => exact .noExperiments rfl

end PlatformEntry

namespace Defect

def nameBefore (name : String) (t : Nat) : String :=
  name ++ String.ofList (List.replicate (t + 1) '+')

theorem nameBeforeLength (name : String) (t : Nat) :
    (nameBefore name t).length = name.length + (t + 1) := by
  simp [nameBefore]

def faultyEntries : Defect → List PlatformEntry
  | noEntries .. => []
  | inEntry _ _ i f => List.replicate i .sound ++ [f.entry]

def alone (d : Defect) : TrialConfig :=
  ⟨⟨(List.range d.trialPlace).map (fun t => (nameBefore d.trial t, [.sound])) ++
    [(d.trial, d.faultyEntries)]⟩⟩

theorem aloneNames (d : Defect) : d.alone.trials.WellFormed := by
  have keys : d.alone.trials.keys =
      (List.range d.trialPlace).map (nameBefore d.trial) ++ [d.trial] := by
    simp [alone, OrderedMap.keys, Function.comp_def]
  rw [OrderedMap.WellFormed, keys, List.nodup_append]
  refine ⟨List.pairwise_map.mpr (List.nodup_range.imp ?_), by simp, ?_⟩
  · intro t t' other same
    have lengths := congrArg String.length same
    rw [nameBeforeLength, nameBeforeLength] at lengths
    omega
  · intro name before last member same
    obtain ⟨t, _, rfl⟩ := List.mem_map.mp before
    have lengths := congrArg String.length same
    rw [List.mem_singleton.mp member, nameBeforeLength] at lengths
    omega

theorem aloneHere (d : Defect) :
    d.alone.trials.entries[d.trialPlace]? = some (d.trial, d.faultyEntries) := by
  simp [alone]

theorem aloneKept {c : TrialConfig} {d : Defect} (h : c.HasDefect d) : d.alone.HasDefect d := by
  cases h with
  | noEntries => exact .noEntries (aloneHere (.noEntries _ _))
  | inEntry _ _ faulty =>
    exact .inEntry (aloneHere (.inEntry _ _ _ _)) (by simp [faultyEntries])
      (PlatformEntry.faultKept faulty)

theorem aloneThere {d : Defect} {t : Nat} {x : String × List PlatformEntry}
    (here : d.alone.trials.entries[t]? = some x) (invalid : ¬ PlatformEntry.AllValid x.2) :
    t = d.trialPlace ∧ x = (d.trial, d.faultyEntries) := by
  simp only [alone, List.getElem?_append, List.length_map, List.length_range] at here
  split at here
  · rw [List.getElem?_map] at here
    obtain ⟨_, _, rfl⟩ := Option.map_eq_some_iff.mp here
    exact absurd ⟨by simp, by simpa using PlatformEntry.soundValid⟩ invalid
  · rename_i behind
    rw [List.getElem?_singleton] at here
    split at here
    · exact ⟨by omega, (Option.some.inj here).symm⟩
    · contradiction

theorem aloneOnly {d e : Defect} (h : d.alone.HasDefect e) : e = d := by
  obtain ⟨x, here, invalid⟩ := TrialConfig.defectInvalid h
  obtain ⟨place, rfl⟩ := aloneThere here invalid
  cases h with
  | noEntries found =>
    cases place
    obtain ⟨rfl, empty⟩ := Prod.mk.inj (Option.some.inj (here.symm.trans found))
    cases d with
    | noEntries => rfl
    | inEntry => simp [faultyEntries] at empty
  | @inEntry t name entries i entry f found listed faulty =>
    cases place
    obtain ⟨rfl, rfl⟩ := Prod.mk.inj (Option.some.inj (here.symm.trans found))
    cases d with
    | noEntries => simp [faultyEntries] at listed
    | inEntry t name i' f' =>
      rw [faultyEntries, List.getElem?_append] at listed
      split at listed
      · rename_i before
        rw [List.getElem?_replicate_of_lt (by simpa using before)] at listed
        cases listed
        exact absurd PlatformEntry.soundValid (PlatformEntry.faultInvalid faulty)
      · rename_i behind
        simp only [List.length_replicate, List.getElem?_singleton] at listed behind
        split at listed <;> try contradiction
        cases listed
        rw [PlatformEntry.faultAlone faulty, show i = i' by omega]
        rfl

theorem aloneFirst {c : TrialConfig} {d : Defect} (h : c.HasDefect d) : d.alone.FirstDefect d :=
  ⟨aloneKept h, fun _ defect => .inl (aloneOnly defect)⟩

/- What checking builds for a defect: it is reported for every config with this defect in front of
all others, and there is such a config. -/
structure Built (d : Defect) (v : Violation) : Prop where
  reported : ∀ c : TrialConfig, c.FirstDefect d → c.validate = .error v
  met : ∃ c : TrialConfig, c.trials.WellFormed ∧ c.FirstDefect d

theorem built {c : TrialConfig} {d : Defect} (h : c.HasDefect d) : d.Built d.violation where
  reported _ first :=
    TrialConfig.validateRefuses.mpr (TrialConfig.checkedRejects.mpr ⟨d, first, rfl⟩)
  met := ⟨d.alone, d.aloneNames, aloneFirst h⟩

end Defect

namespace TrialConfig

/-- Of two defects, in one config or in two, the violations that checking builds have the same
path, rule and message only when the defects are at the same place, whatever the trial names. -/
theorem violationsTellPlaces {c c' : TrialConfig} {d d' : Defect} (here : c.HasDefect d)
    (there : c'.HasDefect d') : ∃ v v', d.Built v ∧ d'.Built v' ∧
      (v.path = v'.path → v.rule = v'.rule → v.message = v'.message → d.place = d'.place) := by
  refine ⟨d.violation, d'.violation, Defect.built here, Defect.built there, ?_⟩
  intro path rule message
  exact Defect.placeTold (Defect.kindTold rule message) path

/- The name of a trial may look like the path of a list in another one. -/
example : (Defect.noEntries 0 "A[0].platforms").violation.path =
    (Defect.inEntry 3 "A" 0 .noPlatforms).violation.path := rfl

def misspelt (tags : List String) : List PlatformEntry :=
  [.sound, { PlatformEntry.sound with platforms := tags ++ ["win"] }]

def misspeltFirst : TrialConfig := ⟨⟨[("a[1].platforms[0]", misspelt ["mac"])]⟩⟩

def misspeltLater : TrialConfig := ⟨⟨[("", []), ("a[1].platforms[0]", misspelt ["ios"])]⟩⟩

def misspeltDefect (t : Nat) : Defect := .inEntry t "a[1].platforms[0]" 1 (.platformTag 1 "win")

theorem misspeltPlace : misspeltFirst.HasDefect (misspeltDefect 0) ∧
    misspeltLater.HasDefect (misspeltDefect 1) ∧
    ∃ v v', (misspeltDefect 0).Built v ∧ (misspeltDefect 1).Built v' ∧
      (v.path = v'.path → v.rule = v'.rule → v.message = v'.message →
        (misspeltDefect 0).place = (misspeltDefect 1).place) := by
  have here : misspeltFirst.HasDefect (misspeltDefect 0) :=
    .inEntry rfl rfl (.platformTag rfl (by decide))
  have there : misspeltLater.HasDefect (misspeltDefect 1) :=
    .inEntry rfl rfl (.platformTag rfl (by decide))
  exact ⟨here, there, violationsTellPlaces here there⟩

end TrialConfig
end StudyPlan
