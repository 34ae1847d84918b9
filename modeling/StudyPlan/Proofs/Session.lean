import StudyPlan.Session
import StudyPlan.Proofs.Json.Lawful
import StudyPlan.Proofs.Yaml.Lawful

/-! What sessions keep to, however long they are. Names and param keys stay distinct; the
trials are those of the last document and what was inserted since; a step that fails
changes nothing. All of it follows from the three ways in which a step can end. -/
namespace StudyPlan
open Schema (Lawful okMapped okKept)

inductive Experiment.Built : Experiment → Prop where
  | named (name : String) : Built { name }
  | param {e : Experiment} (built : Built e) (key value : String) : Built (e.addParam key value)
  | features {e : Experiment} (built : Built e) (enable disable : Option (List String))
      (flag : Option String) :
      Built { e with enableFeatures := enable, disableFeatures := disable, forcingFlag := flag }
  | loaded {document : Document} {c : TrialConfig} (loaded : document.load = .ok c)
      {trial : String × List PlatformEntry} (ofTrial : trial ∈ c.trials.entries)
      {entry : PlatformEntry} (ofEntry : entry ∈ trial.2) {e : Experiment}
      (ofExperiment : e ∈ entry.experiments) : Built e

namespace TrialConfig

theorem glyphsDistinct {text : List Text.Glyph} {c : TrialConfig} (loaded : ofGlyphs text = .ok c) :
    c.WellFormed := by
  have given := okKept loaded
  unfold Json.Node.readText at given
  dsimp only at given
  split at given
  · contradiction
  · rename_i d read
    obtain ⟨_, -, rfl⟩ := okMapped given
    exact Lawful.trialConfig (Json.Node.ofGlyphs text).1 d read

theorem yamlDistinct {text : String} {c : TrialConfig} (loaded : ofYaml text = .ok c) :
    c.WellFormed := by
  have given := okKept loaded
  unfold Yaml.readText at given
  dsimp only at given
  split at given
  · contradiction
  · rename_i d m read
    split at given
    · contradiction
    · split at given
      · contradiction
      · cases given
        exact Lawful.trialConfig (_ : Yaml.Node) c ⟨_, _, _, m, read⟩

end TrialConfig

theorem Document.loadsDistinct {document : Document} {c : TrialConfig}
    (loaded : document.load = .ok c) : c.WellFormed := by
  cases document with
  | text format content =>
    cases format with
    | json => exact TrialConfig.glyphsDistinct loaded
    | yaml => exact TrialConfig.yamlDistinct loaded
  | bytes content => exact TrialConfig.glyphsDistinct loaded
  | value content => exact Lawful.trialConfig content c (okKept loaded)

theorem Experiment.builtDistinct {x : Experiment} (built : x.Built) :
    ∀ m ∈ x.params, m.WellFormed := by
  induction built with
  | named name => simp
  | @param e built key value ih =>
    rintro m ⟨⟩
    refine OrderedMap.insertNewDistinct ?_ key value
    cases before : e.params with
    | none => exact OrderedMap.emptyWellFormed
    | some n => exact ih n before
  | features built enable disable flag ih => exact ih
  | loaded loaded ofTrial ofEntry ofExperiment =>
    exact (Document.loadsDistinct loaded).params _ ofTrial _ ofEntry _ ofExperiment

namespace Session

def Step.trial? : Step → Option (String × List PlatformEntry)
  | .insert name entries => some (name, entries)
  | .extend name entries => some (name, entries)
  | .load _ => none
  | .clear => none

def Step.Built (step : Step) : Prop :=
  ∀ trial ∈ step.trial?, ∀ entry ∈ trial.2, ∀ x ∈ entry.experiments, x.Built

inductive Step.Restarts : Step → List (String × List PlatformEntry) → Prop where
  | load {document : Document} {c : TrialConfig} (loaded : document.load = .ok c) :
      Restarts (.load document) c.trials.entries
  | clear : Restarts .clear []

def inserted (log : List (Step × Outcome)) : List (String × List PlatformEntry) :=
  log.filterMap fun (step, outcome) =>
    match outcome with
    | .ok () => step.trial?
    | .error _ => none

inductive Begins : List (Step × Outcome) → List (String × List PlatformEntry) → Prop where
  | start : Begins [] []
  | restart {earlier : List (Step × Outcome)} {step : Step}
      {base : List (String × List PlatformEntry)} (restarts : step.Restarts base) :
      Begins (earlier ++ [(step, .ok ())]) base

structure Accounts (log : List (Step × Outcome)) (trials : List (String × List PlatformEntry)) :
    Prop where
  split : ∃ before since base, log = before ++ since ∧ Begins before base ∧
    (∀ x ∈ since, ∀ other, ¬ x.1.Restarts other) ∧ trials = base ++ inserted since

/- The three ways in which a step ends: the config is begun anew, a trial is added, or the
step fails and nothing is changed. -/
theorem performed (step : Step) (c : TrialConfig) :
    (∃ base, step.Restarts base ∧ step.perform c = (.ok (), ⟨⟨base⟩⟩)) ∨
    (∃ name entries, step.trial? = some (name, entries) ∧ name ∉ c.names ∧
      step.perform c = (.ok (), ⟨c.trials.push name entries⟩)) ∨
    (∃ v, step.perform c = (.error v, c) ∧ (∀ base, ¬ step.Restarts base) ∧
      ∀ trial ∈ step.trial?, trial.1 ∈ c.names) := by
  cases step with
  | insert name entries =>
    simp only [Step.perform, insertHere]
    by_cases taken : name ∈ c.names
    · rw [if_pos (OrderedMap.containsListed.mpr taken)]
      exact .inr (.inr ⟨_, rfl, nofun, by simpa [Step.trial?] using taken⟩)
    · rw [if_neg fun found => taken (OrderedMap.containsListed.mp found)]
      refine .inr (.inl ⟨name, entries, rfl, taken, ?_⟩)
      rw [OrderedMap.insertNew, OrderedMap.insertedFresh taken]
      rfl
  | extend name entries =>
    simp only [Step.perform, TrialConfig.insertTrial]
    by_cases taken : name ∈ c.names
    · rw [OrderedMap.insertedTaken taken]
      exact .inr (.inr ⟨_, rfl, nofun, by simpa [Step.trial?] using taken⟩)
    · rw [OrderedMap.insertedFresh taken]
      exact .inr (.inl ⟨name, entries, rfl, taken, rfl⟩)
  | load document =>
    simp only [Step.perform]
    cases loaded : document.load with
    | ok next => exact .inl ⟨_, .load loaded, rfl⟩
    | error v =>
      refine .inr (.inr ⟨v, rfl, ?_, nofun⟩)
      rintro _ ⟨found⟩
      simp [loaded] at found
  | clear => exact .inl ⟨[], .clear, rfl⟩

theorem restartsDistinct {step : Step} {base : List (String × List PlatformEntry)}
    (restarts : step.Restarts base) : TrialConfig.WellFormed ⟨⟨base⟩⟩ := by
  cases restarts with
  | load loaded => exact Document.loadsDistinct loaded
  | clear => exact ⟨OrderedMap.emptyWellFormed, nofun⟩

theorem stepDistinct {step : Step} (built : step.Built) {c : TrialConfig} (distinct : c.WellFormed) :
    (step.perform c).2.WellFormed := by
  rcases performed step c with ⟨base, restarts, ends⟩ | ⟨name, entries, adds, fresh, ends⟩ |
    ⟨v, ends, -⟩
  · rw [ends]
    exact restartsDistinct restarts
  · rw [ends]
    refine ⟨OrderedMap.insertWellFormed distinct.names (OrderedMap.insertedFresh fresh), ?_⟩
    intro trial member
    rcases List.mem_append.mp member with old | new
    · exact distinct.params trial old
    · cases List.mem_singleton.mp new
      exact fun entry inside x of => Experiment.builtDistinct (built _ adds entry inside x of)
  · rw [ends]
    exact distinct

theorem stepAccounts {log : List (Step × Outcome)} {c : TrialConfig}
    (accounts : Accounts log c.trials.entries) (step : Step) :
    Accounts (log ++ [(step, (step.perform c).1)]) (step.perform c).2.trials.entries := by
  rcases performed step c with ⟨base, restarts, ends⟩ | ⟨name, entries, adds, fresh, ends⟩ |
    ⟨v, ends, still, -⟩
  · rw [ends]
    exact ⟨log ++ [(step, .ok ())], [], base, by simp, .restart restarts, nofun, by simp [inserted]⟩
  · obtain ⟨before, since, base, rfl, begins, none, trials⟩ := accounts
    have still : ∀ other, ¬ step.Restarts other := by
      rintro _ ⟨⟩ <;> simp [Step.trial?] at adds
    rw [ends]
    refine ⟨before, since ++ [(step, .ok ())], base, by simp, begins, ?_, ?_⟩
    · exact List.forall_mem_append.mpr ⟨none, by simpa using still⟩
    · simp [OrderedMap.push, trials, inserted, adds]
  · obtain ⟨before, since, base, rfl, begins, none, trials⟩ := accounts
    rw [ends]
    refine ⟨before, since ++ [(step, .error v)], base, by simp, begins, ?_, ?_⟩
    · exact List.forall_mem_append.mpr ⟨none, by simpa using still⟩
    · simp [trials, inserted]

theorem runKeeps {steps : List Step} (built : ∀ step ∈ steps, step.Built)
    {before : List (Step × Outcome)} {c : TrialConfig} (distinct : c.WellFormed)
    (accounts : Accounts before c.trials.entries) :
    (run steps c).2.WellFormed ∧
      Accounts (before ++ (run steps c).1) (run steps c).2.trials.entries ∧
      (run steps c).1.map Prod.fst = steps := by
  induction steps generalizing before c with
  | nil => simpa [run] using ⟨distinct, accounts⟩
  | cons step rest ih =>
    obtain ⟨head, tail⟩ := List.forall_mem_cons.mp built
    have kept := ih tail (stepDistinct head distinct) (stepAccounts accounts step)
    simpa [run] using kept

/-- After any steps: names and param keys are distinct, the trials are those of the last document
and what was inserted since, a trial is found by its name exactly when it is there, and a further
step that fails leaves the config as it is, an insertion failing exactly when the name is taken. -/
theorem sessionKeeps {steps : List Step} (built : ∀ step ∈ steps, step.Built)
    {log : List (Step × Outcome)} {c : TrialConfig} (ran : run steps .empty = (log, c)) :
    c.WellFormed ∧
    (log.map Prod.fst = steps ∧ Accounts log c.trials.entries) ∧
    c.size = c.trials.entries.length ∧
    (∀ name entries, c.trial? name = some entries ↔ (name, entries) ∈ c.trials.entries) ∧
    (∀ next v d, Step.perform next c = (.error v, d) → d = c) ∧
    (∀ next name entries, Step.trial? next = some (name, entries) →
      ((∃ v, (next.perform c).1 = .error v) ↔ name ∈ c.names)) ∧
    (∀ document : Document, (∃ v, (Step.perform (.load document) c).1 = .error v) ↔
      ∃ v, document.load = .error v) := by
  have empty : TrialConfig.empty.WellFormed := ⟨OrderedMap.emptyWellFormed, nofun⟩
  have started : Accounts [] TrialConfig.empty.trials.entries :=
    ⟨[], [], [], rfl, .start, nofun, rfl⟩
  obtain ⟨distinct, accounts, same⟩ := runKeeps built empty started
  rw [ran] at distinct accounts same
  refine ⟨distinct, ⟨same, accounts⟩, rfl, fun _ _ => OrderedMap.foundExactly distinct.names,
    ?_, ?_, ?_⟩
  · intro next v d failed
    rcases performed next c with ⟨base, -, ends⟩ | ⟨name, entries, -, -, ends⟩ | ⟨w, ends, -⟩
    · simp [ends] at failed
    · simp [ends] at failed
    · simp only [ends, Prod.mk.injEq] at failed
      exact failed.2.symm
  · intro next name entries adds
    rcases performed next c with ⟨base, restarts, ends⟩ | ⟨other, _, adds', fresh, ends⟩ |
      ⟨v, ends, -, taken⟩
    · cases restarts <;> simp [Step.trial?] at adds
    · cases adds.symm.trans adds'
      simp [ends, fresh]
    · simp [ends, taken _ adds]
  · intro document
    simp only [Step.perform]
    cases document.load <;> simp [replace]

def builtExperiment : Experiment := ({ name := "G" } : Experiment).addParams [("k", "1"), ("k", "2")]

def busy : List Step :=
  [.insert "A" [{ platforms := ["mac"], experiments := [builtExperiment] }],
    .extend "A" [],
    .load (.text .json "[]"),
    .load (.value (.object [("T", .array [])])),
    .insert "T" [],
    .load (.bytes [0xff]),
    .extend "A" [{ platforms := [], experiments := [builtExperiment] }]]

def busyEnd : TrialConfig :=
  ⟨⟨[("T", []), ("A", [{ platforms := [], experiments := [builtExperiment] }])]⟩⟩

theorem busySession :
    (∀ step ∈ busy, step.Built) ∧ (run busy .empty).2 = busyEnd ∧ busyEnd.WellFormed ∧
      busyEnd.trial? "T" = some [] ∧ (Step.perform (.insert "T" []) busyEnd).2 = busyEnd := by
  have experiment : builtExperiment.Built := .param (.param (.named "G") "k" "1") "k" "2"
  have built : ∀ step ∈ busy, step.Built := by
    simp [busy, Step.Built, Step.trial?, experiment]
  have ends : (run busy .empty).2 = busyEnd := by decide +kernel
  obtain ⟨distinct, -, -, found, unchanged, -⟩ := sessionKeeps built (Prod.ext rfl ends)
  exact ⟨built, ends, distinct, (found "T" []).mpr (by decide), unchanged (.insert "T" []) _ _ rfl⟩

end Session
end StudyPlan
