import StudyPlan.Proofs.Checking

/-! What the description of a config is, said without the resolution: of each trial the
first entry that lists the platform, with the fields that its experiments take over. -/
namespace StudyPlan
open Scan Resolve

structure ExperimentOf (p : Platform) (e : PlatformEntry) (x : Experiment)
    (y : StudyExperiment) : Prop where
  name : y.name = x.name
  platforms : y.platforms = [p]
  params : y.params.map (List.map fun q => (q.key, q.value)) =
    (x.params.map OrderedMap.entries).filter (!·.isEmpty)
  enableFeatures : y.enableFeatures = x.enableFeatures
  disableFeatures : y.disableFeatures = x.disableFeatures
  forcingFlag : y.forcingFlag = x.forcingFlag
  lowEnd : y.isLowEndDevice =
    match e.isLowEndDevice with
    | none => .missing
    | some true => .yes
    | some false => .no
  formFactors : y.formFactors.map FormFactor.tag = e.formFactors

def StudyOf (p : Platform) (name : String) (entries : List PlatformEntry) (s : Study) : Prop :=
  s.name = name ∧ ∃ i e, First (p.tag ∈ ·.platforms) entries i e ∧
    List.Forall₂ (ExperimentOf p e) e.experiments s.experiments

inductive StudiesOf (p : Platform) : List (String × List PlatformEntry) → List Study → Prop where
  | nil : StudiesOf p [] []
  | kept {name entries rest s studies} (study : StudyOf p name entries s)
      (tail : StudiesOf p rest studies) : StudiesOf p ((name, entries) :: rest) (s :: studies)
  | omitted {name entries rest studies} (unlisted : ∀ e ∈ entries, p.tag ∉ e.platforms)
      (tail : StudiesOf p rest studies) : StudiesOf p ((name, entries) :: rest) studies

namespace Resolve

theorem targetListed {p : Platform} {i : Nat} {e : PlatformEntry} {r : ResolvedEntry}
    (h : Resolved i e r) : r.platforms.contains p = true ↔ p.tag ∈ e.platforms := by
  rw [← h.platforms, List.contains_iff_mem, List.mem_map_of_injective]
  intro x y same
  exact TagTable.tagInjective same

theorem selectFirst {p : Platform} {entries : List PlatformEntry} {rs : List ResolvedEntry}
    (h : ResolvedAll entries rs) {r : ResolvedEntry} (chosen : select p rs = some r) :
    ∃ i e, First (p.tag ∈ ·.platforms) entries i e ∧ Resolved i e r := by
  obtain ⟨i, first⟩ := firstFound chosen
  obtain ⟨e, here, resolved⟩ := pairedLeft h.2 first.here
  refine ⟨i, e, ⟨here, (targetListed resolved).mp first.holds, ?_⟩, resolved⟩
  intro j d lt found listed
  obtain ⟨q, at', earlier⟩ := pairedRight h.2 found
  exact first.before j q lt at' ((targetListed earlier).mpr listed)

theorem selectNone {p : Platform} {entries : List PlatformEntry} {rs : List ResolvedEntry}
    (h : ResolvedAll entries rs) (none : select p rs = none) :
    ∀ e ∈ entries, p.tag ∉ e.platforms := by
  intro e member listed
  obtain ⟨i, here⟩ := List.mem_iff_getElem?.mp member
  obtain ⟨r, at', resolved⟩ := pairedRight h.2 here
  have missed := List.find?_eq_none.mp none r (List.mem_of_getElem? at')
  exact missed ((targetListed resolved).mpr listed)

theorem pairsWritten {qs : List Param} {pairs : List (String × String)} :
    qs.map (fun q => (q.key, q.value)) = pairs ↔ pairs.map (fun (k, v) => Param.mk k v) = qs := by
  constructor <;> rintro rfl <;> simp [Function.comp_def]

theorem paramsWritten (m : Option (OrderedMap String)) (ps : Option (List Param)) :
    ps.map (List.map fun q => (q.key, q.value)) =
        (m.map OrderedMap.entries).filter (!·.isEmpty) ↔ m.bind params = ps := by
  cases m with
  | none => cases ps <;> simp
  | some m =>
    by_cases empty : m.entries = []
    · cases ps <;> simp [params, OrderedMap.isEmpty, empty, Option.filter]
    · have filled : m.entries.isEmpty = false := by simpa using empty
      cases ps <;> simp [params, OrderedMap.isEmpty, filled, Option.filter, pairsWritten]

theorem experimentWritten {p : Platform} {i : Nat} {e : PlatformEntry} {r : ResolvedEntry}
    (h : Resolved i e r) (x : Experiment) (y : StudyExperiment) :
    ExperimentOf p e x y ↔ experiment p r x = y := by
  constructor
  · intro written
    have formFactors : r.formFactors = y.formFactors := by
      have same := h.formFactors.trans written.formFactors.symm
      exact List.map_injective_iff.mpr (fun _ _ => TagTable.tagInjective) same
    have lowEnd : r.isLowEndDevice = y.isLowEndDevice := by
      rw [h.lowEnd, written.lowEnd]
      rfl
    obtain ⟨name, platforms, ps, enable, disable, flag, low, forms⟩ := y
    simp only [experiment, StudyExperiment.mk.injEq]
    exact ⟨written.name.symm, written.platforms.symm, (paramsWritten _ _).mp written.params,
      written.enableFeatures.symm, written.disableFeatures.symm, written.forcingFlag.symm,
      lowEnd, formFactors⟩
  · rintro rfl
    exact ⟨rfl, rfl, (paramsWritten _ _).mpr rfl, rfl, rfl, rfl, h.lowEnd, h.formFactors⟩

theorem studyWritten {p : Platform} {name : String} {entries : List PlatformEntry}
    {rs : List ResolvedEntry} (h : ResolvedAll entries rs) {r : ResolvedEntry}
    (chosen : select p rs = some r) (s : Study) :
    StudyOf p name entries s ↔ study p name r = s := by
  obtain ⟨i, e, first, resolved⟩ := selectFirst h chosen
  have experiments (ys : List StudyExperiment) :
      List.Forall₂ (ExperimentOf p e) e.experiments ys ↔
        r.experiments.map (experiment p r) = ys := by
    have each : ExperimentOf p e = fun x y => experiment p r x = y := by
      funext x y
      exact propext (experimentWritten resolved x y)
    rw [← resolved.experiments, each]
    calc List.Forall₂ (fun x y => experiment p r x = y) r.experiments ys
        ↔ List.Forall₂ Eq (r.experiments.map (experiment p r)) ys :=
          List.forall₂_map_left_iff.symm
      _ ↔ r.experiments.map (experiment p r) = ys := by rw [List.forall₂_eq_eq_eq]
  obtain ⟨title, ys⟩ := s
  simp only [StudyOf, study, Study.mk.injEq, ← experiments]
  constructor
  · rintro ⟨rfl, j, d, other, written⟩
    obtain ⟨_, rfl⟩ := firstUnique first other
    exact ⟨rfl, written⟩
  · rintro ⟨rfl, written⟩
    exact ⟨rfl, i, e, first, written⟩

theorem studiesWritten {p : Platform} {trials : List (String × List PlatformEntry)}
    {found : List (String × List ResolvedEntry)}
    (h : List.Forall₂ (fun t r => t.1 = r.1 ∧ ResolvedAll t.2 r.2) trials found)
    (studies : List Study) : StudiesOf p trials studies ↔ assemble p found = studies := by
  induction h generalizing studies with
  | nil =>
    constructor
    · rintro ⟨⟩; rfl
    · rintro rfl; exact .nil
  | @cons t r trials found head tail ih =>
    obtain ⟨name, entries⟩ := t
    obtain ⟨same, rs⟩ := r
    obtain ⟨rfl, resolved⟩ := head
    cases chosen : select p rs with
    | none =>
      have unlisted := selectNone resolved chosen
      have step : assemble p ((name, rs) :: found) = assemble p found := by
        simp [assemble, chosen]
      rw [step, ← ih]
      constructor
      · intro written
        cases written with
        | kept study _ =>
          obtain ⟨_, i, e, first, _⟩ := study
          exact absurd first.holds (unlisted e (List.mem_of_getElem? first.here))
        | omitted _ tail => exact tail
      · exact .omitted unlisted
    | some r =>
      have step : assemble p ((name, rs) :: found) = study p name r :: assemble p found := by
        simp [assemble, chosen]
      rw [step]
      constructor
      · intro written
        cases written with
        | kept study tail =>
          rw [(studyWritten resolved chosen _).mp study, (ih _).mp tail]
        | omitted unlisted _ =>
          obtain ⟨i, e, first, _⟩ := selectFirst resolved chosen
          exact absurd first.holds (unlisted e (List.mem_of_getElem? first.here))
      · rintro rfl
        exact .kept ((studyWritten resolved chosen _).mpr rfl) ((ih _).mpr rfl)

end Resolve

/-- A config has a description on a platform exactly when it keeps all rules, also in the
entries that are not selected; and then it is the one that `StudiesOf` says. -/
theorem describesExactlyValid (c : TrialConfig) (p : Platform) :
    ((∃ d, c.describe p = .ok d) ↔ c.Valid) ∧
      ∀ d, c.describe p = .ok d ↔ c.Valid ∧ StudiesOf p c.trials.entries d.studies := by
  have valid : c.Valid ↔ ∃ found, checked c.trials.entries = .ok found := checkedPasses.symm
  rw [c.describeChecked p]
  cases here : checked c.trials.entries with
  | error v => simp [valid, here, Except.map]
  | ok found =>
    have written := studiesWritten (p := p) (checkedAccepted.mp here)
    refine ⟨by simp [valid, here, Except.map], ?_⟩
    rintro ⟨studies⟩
    simp [valid, here, Except.map, written]

def PlatformEntry.plain (tags names : List String) : PlatformEntry :=
  { platforms := tags, experiments := names.map fun name => { name } }

end StudyPlan
