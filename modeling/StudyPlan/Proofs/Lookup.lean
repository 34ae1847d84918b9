import StudyPlan.Proofs.Coverage
import StudyPlan.Proofs.Selection

/-! Studies by name. A study is found under the name of its trial and under no other, so that a
study and a trial are looked up alike; and the experiments of a description are those of the
entries that its trials use. -/
namespace StudyPlan
open Scan Resolve PlatformEntry

theorem PlatformEntry.firstUsed {p : Platform} {entries : List PlatformEntry} {i : Nat}
    {e : PlatformEntry} (first : First (p.tag ∈ ·.platforms) entries i e) :
    used? p entries = some e := by
  cases used : used? p entries with
  | none =>
    have unlisted := List.find?_eq_none.mp used e (List.mem_of_getElem? first.here)
    exact absurd first.holds (by simpa using unlisted)
  | some d =>
    obtain ⟨j, again⟩ := usedFirst used
    rw [(firstUnique first again).2]

namespace Resolve
variable {p : Platform} {t : String × List PlatformEntry}

theorem studyOnChosen (p : Platform) (valid : AllValid t.2) :
    ∃ rs, ResolvedAll t.2 rs ∧ studyOn? p t = (select p rs).map (study p t.1) := by
  obtain ⟨rs, resolved⟩ := trialResolves.mpr valid
  have passed : trial t.1 t.2 = .ok rs := trialAccepted.mpr resolved
  exact ⟨rs, resolved, by simp only [studyOn?, passed]⟩

theorem studyOnWritten (valid : AllValid t.2) {s : Study} :
    studyOn? p t = some s ↔ StudyOf p t.1 t.2 s := by
  obtain ⟨rs, resolved, made⟩ := studyOnChosen p valid
  rw [made]
  cases chosen : select p rs with
  | none =>
    simp only [Option.map_none, reduceCtorEq, false_iff]
    intro study
    obtain ⟨-, i, e, first, -⟩ := study
    exact selectNone resolved chosen e (List.mem_of_getElem? first.here) first.holds
  | some r => simp [studyWritten resolved chosen]

theorem studyOnNone (valid : AllValid t.2) :
    studyOn? p t = none ↔ ∀ e ∈ t.2, p.tag ∉ e.platforms := by
  obtain ⟨rs, resolved, made⟩ := studyOnChosen p valid
  rw [made]
  cases chosen : select p rs with
  | none => simpa using selectNone resolved chosen
  | some r =>
    obtain ⟨i, e, first, -⟩ := selectFirst resolved chosen
    simp only [Option.map_some, reduceCtorEq, false_iff]
    exact fun unlisted => unlisted e (List.mem_of_getElem? first.here) first.holds

theorem studyLookedUp {trials : List (String × List PlatformEntry)}
    (distinct : (trials.map Prod.fst).Nodup) (name : String) :
    (trials.filterMap (studyOn? p)).find? (·.name == name) =
      (trials.lookup name).bind fun entries => studyOn? p (name, entries) := by
  cases found : trials.lookup name with
  | some entries =>
    have member := (OrderedMap.lookupExactly distinct).mp found
    exact studyFound distinct p member
  | none =>
    rw [Option.bind_none, List.find?_eq_none]
    intro s written
    obtain ⟨t, member, made⟩ := List.mem_filterMap.mp written
    have other : (name == t.1) = false := by simpa using List.lookup_eq_none_iff.mp found t member
    rw [studyNamed made, BEq.comm, other]
    exact Bool.false_ne_true

theorem experimentsUsed (valid : AllValid t.2) :
    (studyOn? p t).map (·.experiments.length) = (used? p t.2).map (·.experiments.length) := by
  cases made : studyOn? p t with
  | none =>
    have unused : used? p t.2 = none := by
      simpa [used?] using (studyOnNone valid).mp made
    rw [unused]
    rfl
  | some s =>
    obtain ⟨-, i, e, first, written⟩ := (studyOnWritten valid).mp made
    rw [firstUsed first, Option.map_some, Option.map_some, written.length_eq]

end Resolve

namespace TrialConfig
variable {c : TrialConfig}

theorem experimentsCounted (valid : c.Valid) {p : Platform} {d : Description}
    (described : c.describe p = .ok d) :
    d.experimentCount = (c.trials.entries.filterMap fun t =>
      (used? p t.2).map (·.experiments.length)).sum := by
  cases Except.ok.inj (described.symm.trans (describedEach valid p))
  have each : (c.trials.entries.filterMap (studyOn? p)).map (·.experiments.length) =
      c.trials.entries.filterMap fun t => (used? p t.2).map (·.experiments.length) := by
    rw [List.map_filterMap]
    exact List.filterMap_congr fun t member => experimentsUsed (valid t member)
  rw [← each]
  rfl

/-- The studies of a valid config are found by the names of their trials: those are all different
and stand in the order of the trials; a name has a study exactly when it has a trial with an entry
for the platform, and then the one that is made of the first such entry. There are as many
experiments as the used entries have together. -/
theorem findsByName (valid : c.Valid) (distinct : c.trials.WellFormed) (p : Platform) :
    ∃ d, c.describe p = .ok d ∧
      (d.studies.map (·.name)).Nodup ∧ (d.studies.map (·.name)).Sublist c.names ∧
      (∀ name, (∃ s, d.study? name = some s) ↔
        ∃ entries, c.trial? name = some entries ∧ ∃ e ∈ entries, p.tag ∈ e.platforms) ∧
      (∀ name s, d.study? name = some s ↔
        ∃ entries, c.trial? name = some entries ∧ StudyOf p name entries s) ∧
      d.experimentCount = (c.trials.entries.filterMap fun t =>
        (used? p t.2).map (·.experiments.length)).sum := by
  obtain ⟨d, events, omitted, described, -, told⟩ := toldAll valid p
  have studies := Except.ok.inj (described.symm.trans (describedEach valid p))
  have found (name : String) : d.study? name =
      (c.trial? name).bind fun entries => studyOn? p (name, entries) := by
    rw [studies]
    exact studyLookedUp distinct name
  have validAt {name : String} {entries : List PlatformEntry}
      (given : c.trial? name = some entries) : AllValid entries :=
    valid _ ((OrderedMap.foundExactly distinct).mp given)
  refine ⟨d, described, distinct.sublist told.named, told.named, ?_, ?_,
    experimentsCounted valid described⟩
  · intro name
    rw [found name]
    cases given : c.trial? name with
    | none => simp
    | some entries =>
      have none := @studyOnNone p (name, entries) (validAt given)
      simp only [Option.bind_some, ← Option.isSome_iff_exists, Option.isSome_iff_ne_none, ne_eq,
        none]
      simp
  · intro name s
    rw [found name]
    cases given : c.trial? name with
    | none => simp
    | some entries => simp [studyOnWritten (t := (name, entries)) (validAt given)]

def lookalikes : TrialConfig :=
  ⟨⟨[("A", [.plain ["ios"] ["x"], .plain ["mac", "mac"] ["y", "z"], .plain ["mac"] ["w"]]),
    ("a", [.plain ["windows"] ["x"]]), ("A ", [.plain ["mac"] ["x"]])]⟩⟩

theorem lookalikesFound : lookalikes.Valid ∧ lookalikes.trials.WellFormed ∧
    ∃ d, lookalikes.describe .mac = .ok d ∧ d.experimentCount = 3 ∧
      (∃ s, d.study? "A" = some s ∧ s.experiments.map (·.name) = ["y", "z"]) ∧
      (∃ s, d.study? "A " = some s) ∧ (¬ ∃ s, d.study? "a" = some s) ∧
      ¬ ∃ s, d.study? " A" = some s := by
  have valid : lookalikes.Valid := by decide
  have distinct : lookalikes.trials.WellFormed := by decide
  obtain ⟨d, described, -, -, listed, -, counted⟩ := findsByName valid distinct .mac
  have unlisted : ¬ ∃ s, d.study? "a" = some s := by
    rw [listed]
    rintro ⟨entries, given, e, member, tag⟩
    have held : _ = some [PlatformEntry.plain ["windows"] ["x"]] := rfl
    cases Option.some.inj (given.symm.trans held)
    cases List.mem_singleton.mp member
    exact absurd tag (by decide)
  have absent : ¬ ∃ s, d.study? " A" = some s := by
    rw [listed]
    rintro ⟨entries, given, -⟩
    cases given.symm.trans (rfl : _ = none)
  obtain ⟨s, found⟩ := (listed "A ").mpr ⟨_, rfl, .plain ["mac"] ["x"], by decide, by decide⟩
  refine ⟨valid, distinct, d, described, counted.trans (by decide), ?_, ⟨s, found⟩, unlisted,
    absent⟩
  cases Except.ok.inj (described.symm.trans (rfl : lookalikes.describe .mac = .ok _))
  exact ⟨_, rfl, rfl⟩

end TrialConfig
end StudyPlan
