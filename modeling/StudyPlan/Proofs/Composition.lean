import Mathlib.Data.List.Perm.Basic
import StudyPlan.Proofs.Building
import StudyPlan.Proofs.Description

/-! Configs in parts. What a run makes of trials one behind the other is what it makes of those in
front and then of those behind, up to the first violation; and each trial of a valid config comes
to the same study wherever it stands. -/
namespace StudyPlan
open Resolve

namespace Run

def andThen (front behind : Run (List Study)) : Run (List Study) :=
  match front.result with
  | .error v => ⟨front.events, front.omitted, .error v⟩
  | .ok studies =>
    ⟨front.events ++ behind.events, front.omitted + behind.omitted,
      behind.result.map (studies ++ ·)⟩

theorem nothingThen (r : Run (List Study)) : andThen ⟨[], 0, .ok []⟩ r = r := by
  obtain ⟨events, omitted, result⟩ := r
  cases result <;> simp [andThen, Except.map]

theorem andThenGrouped (r s t : Run (List Study)) :
    (r.andThen s).andThen t = r.andThen (s.andThen t) := by
  obtain ⟨events, omitted, result⟩ := r
  obtain ⟨events', omitted', result'⟩ := s
  obtain ⟨events'', omitted'', result''⟩ := t
  cases result with
  | error v => rfl
  | ok studies =>
    cases result' with
    | error v => rfl
    | ok studies' => cases result'' <;> simp [andThen, Except.map, Nat.add_assoc]

end Run

namespace Resolve

theorem studiesStep (p : Platform) (t : String × List PlatformEntry)
    (rest : List (String × List PlatformEntry)) :
    studies p (t :: rest) = (studies p [t]).andThen (studies p rest) := by
  obtain ⟨name, entries⟩ := t
  simp only [studies]
  cases trial name entries with
  | error v => rfl
  | ok rs =>
    generalize studies p rest = tail
    obtain ⟨events, omitted, result⟩ := tail
    cases chosen : select p rs with
    | none => cases result <;> simp [chosen, Run.andThen, Except.map, Nat.add_comm]
    | some r => cases result <;> simp [chosen, Run.andThen, Except.map]

theorem studiesInTurn (p : Platform) (front behind : List (String × List PlatformEntry)) :
    studies p (front ++ behind) = (studies p front).andThen (studies p behind) := by
  induction front with
  | nil => exact (Run.nothingThen _).symm
  | cons t rest ih =>
    rw [List.cons_append, studiesStep, ih, ← Run.andThenGrouped, ← studiesStep]

def studyOn? (p : Platform) (t : String × List PlatformEntry) : Option Study :=
  match trial t.1 t.2 with
  | .error _ => none
  | .ok rs => (select p rs).map (study p t.1)

theorem studyNamed {p : Platform} {t : String × List PlatformEntry} {s : Study}
    (found : studyOn? p t = some s) : s.name = t.1 := by
  unfold studyOn? at found
  split at found
  · contradiction
  · obtain ⟨r, -, rfl⟩ := Option.map_eq_some_iff.mp found
    rfl

theorem studiesEach {trials : List (String × List PlatformEntry)}
    (valid : ∀ t ∈ trials, PlatformEntry.AllValid t.2) (p : Platform) :
    (studies p trials).result = .ok (trials.filterMap (studyOn? p)) := by
  induction trials with
  | nil => rfl
  | cons t rest ih =>
    obtain ⟨name, entries⟩ := t
    obtain ⟨head, tail⟩ := List.forall_mem_cons.mp valid
    obtain ⟨rs, resolved⟩ := trialResolves.mpr head
    have passed : trial name entries = .ok rs := trialAccepted.mpr resolved
    simp only [studies, passed]
    cases chosen : select p rs with
    | none => simp [ih tail, studyOn?, passed, chosen]
    | some r => simp [ih tail, studyOn?, passed, chosen, Except.map]

theorem studyFound {trials : List (String × List PlatformEntry)}
    (distinct : (trials.map Prod.fst).Nodup) (p : Platform) {t : String × List PlatformEntry}
    (member : t ∈ trials) :
    (trials.filterMap (studyOn? p)).find? (·.name == t.1) = studyOn? p t := by
  induction trials with
  | nil => contradiction
  | cons head rest ih =>
    obtain ⟨fresh, others⟩ := List.nodup_cons.mp distinct
    rcases List.mem_cons.mp member with same | later
    · subst same
      have absent : (rest.filterMap (studyOn? p)).find? (·.name == t.1) = none := by
        rw [List.find?_eq_none]
        intro s written same
        obtain ⟨u, inside, found⟩ := List.mem_filterMap.mp written
        have name : u.1 = t.1 := (studyNamed found).symm.trans (by simpa using same)
        exact fresh (name ▸ List.mem_map_of_mem inside)
      cases found : studyOn? p t with
      | none => simp [found, absent]
      | some s => simp [found, studyNamed found]
    · have apart : head.1 ≠ t.1 := fun same => fresh (same ▸ List.mem_map_of_mem later)
      cases found : studyOn? p head with
      | none => simpa [found] using ih others later
      | some s => simpa [found, studyNamed found, apart] using ih others later

end Resolve

namespace TrialConfig

theorem describeRun (c : TrialConfig) (p : Platform) :
    c.describe p = (studies p c.trials.entries).result.map Description.mk := by
  unfold describe run
  cases result : (studies p c.trials.entries).result <;> simp [result, Except.map]

theorem describedEach {c : TrialConfig} (valid : c.Valid) (p : Platform) :
    c.describe p = .ok ⟨c.trials.entries.filterMap (studyOn? p)⟩ := by
  rw [describeRun, studiesEach valid]
  rfl

theorem describedInTurn (p : Platform) (front behind : List (String × List PlatformEntry)) :
    describe ⟨⟨front ++ behind⟩⟩ p = (describe ⟨⟨front⟩⟩ p).bind fun d =>
      (describe ⟨⟨behind⟩⟩ p).map fun d' => ⟨d.studies ++ d'.studies⟩ := by
  simp only [describeRun, studiesInTurn, Run.andThen]
  cases (studies p front).result with
  | error v => rfl
  | ok found => cases (studies p behind).result <;> rfl

theorem insertedApart {c c' : TrialConfig} (distinct : c.trials.WellFormed)
    (distinct' : c'.trials.WellFormed) (apart : c.names.Disjoint c'.names) :
    c.insertTrials c'.trials.entries = .ok ⟨⟨c.trials.entries ++ c'.trials.entries⟩⟩ := by
  have names : (c.trials.keys ++ c'.trials.entries.map Prod.fst).Nodup :=
    distinct.append distinct' apart
  rcases OrderedMap.offered distinct c'.trials.entries with ⟨-, offering⟩ | ⟨name, first, -⟩
  · rw [trialsOffered, offering]
  · exact absurd names first.repeats

theorem describedMoved {c moved : TrialConfig} (valid : c.Valid) (distinct : c.trials.WellFormed)
    (same : moved.trials.entries.Perm c.trials.entries) (p : Platform) {d : Description}
    (described : c.describe p = .ok d) :
    ∃ d', moved.describe p = .ok d' ∧ d'.studies = moved.names.filterMap d.study? ∧
      d'.studies.Perm d.studies := by
  have valid' : moved.Valid := fun t member => valid t (same.mem_iff.mp member)
  rw [describedEach valid] at described
  cases Except.ok.inj described
  refine ⟨_, describedEach valid' p, ?_, same.filterMap (studyOn? p)⟩
  have names : moved.names = moved.trials.entries.map Prod.fst := rfl
  rw [names, List.filterMap_map]
  refine List.filterMap_congr ?_
  intro t member
  exact (studyFound distinct p (same.mem_iff.mp member)).symm

/-- A config with the trials of one config and then those of another, of other names, comes to the
studies of the first and then those of the second; it fails with the violation of the first that
fails. And when the trials of a valid config change places, their studies change places with them. -/
theorem describesByParts {c : TrialConfig} (distinct : c.trials.WellFormed) (p : Platform) :
    (∀ c' : TrialConfig, c'.trials.WellFormed → c.names.Disjoint c'.names →
      ∃ whole, c.insertTrials c'.trials.entries = .ok whole ∧
        whole.trials.entries = c.trials.entries ++ c'.trials.entries ∧
        (∀ d d', c.describe p = .ok d → c'.describe p = .ok d' →
          whole.describe p = .ok ⟨d.studies ++ d'.studies⟩) ∧
        (∀ v, c.describe p = .error v → whole.describe p = .error v) ∧
        ∀ d v, c.describe p = .ok d → c'.describe p = .error v → whole.describe p = .error v) ∧
    (c.Valid → ∃ d, c.describe p = .ok d ∧ ∀ moved : TrialConfig,
      moved.trials.entries.Perm c.trials.entries → ∃ d', moved.describe p = .ok d' ∧
        d'.studies = moved.names.filterMap d.study? ∧ d'.studies.Perm d.studies) := by
  constructor
  · intro c' distinct' apart
    have inTurn := describedInTurn p c.trials.entries c'.trials.entries
    refine ⟨_, insertedApart distinct distinct' apart, rfl, ?_, ?_, ?_⟩
    · intro d d' front behind
      rw [inTurn, front, behind]
      rfl
    · intro v front
      rw [inTurn, front]
      rfl
    · intro d v front behind
      rw [inTurn, front, behind]
      rfl
  · intro valid
    have described := describedEach valid p
    exact ⟨_, described, fun moved same => describedMoved valid distinct same p described⟩

def early : TrialConfig :=
  ⟨⟨[("A", [.plain ["mac"] ["x"]]), ("B", [.plain ["windows"] ["x"]]),
    ("C", [.plain ["ios", "mac"] ["x"]])]⟩⟩

def late : TrialConfig := ⟨⟨[("D", [.plain ["mac", "mac"] ["x"]])]⟩⟩

def spoilt : TrialConfig := ⟨⟨[("E", [.plain ["Mac"] ["x"]]), ("F", [])]⟩⟩

def turned : TrialConfig := ⟨⟨early.trials.entries.reverse⟩⟩

theorem earlyByParts : early.trials.WellFormed ∧ early.Valid ∧
    early.names.Disjoint late.names ∧ early.names.Disjoint spoilt.names ∧
    (∃ whole d, early.insertTrials late.trials.entries = .ok whole ∧ whole.describe .mac = .ok d ∧
      d.studies.map (·.name) = ["A", "C", "D"]) ∧
    (∃ whole v, early.insertTrials spoilt.trials.entries = .ok whole ∧
      spoilt.describe .mac = .error v ∧ whole.describe .mac = .error v) ∧
    ∃ d, turned.describe .mac = .ok d ∧ d.studies.map (·.name) = ["C", "A"] := by
  have distinct : early.trials.WellFormed := by decide
  have valid : early.Valid := by decide
  have apart : early.names.Disjoint late.names := by simp [names, OrderedMap.keys, early, late]
  have apart' : early.names.Disjoint spoilt.names := by
    simp [names, OrderedMap.keys, early, spoilt]
  obtain ⟨parts, moves⟩ := describesByParts distinct .mac
  obtain ⟨whole, inserted, -, both, -⟩ := parts late (by decide) apart
  obtain ⟨whole', inserted', -, -, -, behind⟩ := parts spoilt (by decide) apart'
  obtain ⟨d, described, moved⟩ := moves valid
  obtain ⟨d', described', studies, -⟩ := moved turned early.trials.entries.reverse_perm
  refine ⟨distinct, valid, apart, apart', ⟨whole, _, inserted, both _ _ rfl rfl, rfl⟩,
    ⟨whole', _, inserted', rfl, behind _ _ rfl rfl⟩, d', described', ?_⟩
  cases Except.ok.inj (described.symm.trans (rfl : early.describe .mac = .ok _))
  rw [studies]
  rfl

end TrialConfig
end StudyPlan
