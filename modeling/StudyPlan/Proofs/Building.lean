import StudyPlan.Proofs.Loaders

/-! Building a config trial by trial, and loading it from a text with the same trials: both give
the same config, and where a name repeats, both stop at the first name that does. -/
namespace StudyPlan
open Json (Value)
open Text (Glyph)

namespace Json.Node

theorem entriesOffered {α : Type} {read : Node → Except Refusal α} {encode : α → Value}
    {entries : List (String × α)} {members : Members}
    (back : ∀ entry ∈ entries, ∀ node, Spells node (encode entry.2) → read node = .ok entry.2)
    (spelt : MembersSpell members (entries.map fun (key, x) => (key, encode x)))
    (before : OrderedMap α) :
    match before.offer entries with
    | .ok m => readEntries read before members = .ok m
    | .error key => ∃ place,
      readEntries read before members = .error (.problem (.duplicateKey key) place) := by
  induction entries generalizing members before with
  | nil =>
    cases spelt
    rfl
  | cons entry rest ih =>
    obtain ⟨key, x⟩ := entry
    cases spelt with
    | member head tail =>
      have first := back (key, x) (by simp) _ head
      have others := ih (fun entry member => back entry (by simp [member])) tail
      -- the value is read before its key is looked up, and reading it succeeds
      cases inserted : before.insert? key x with
      | none =>
        simp only [OrderedMap.offer, readEntries, first, inserted]
        exact ⟨_, rfl⟩
      | some m =>
        simp only [OrderedMap.offer, readEntries, first, inserted]
        exact others m

end Json.Node

namespace TrialConfig

def documentText (trials : List (String × List PlatformEntry)) : String :=
  (Value.object (trials.map fun (name, entries) => (name, entriesValue entries))).compact

theorem trialsOffered (c : TrialConfig) (trials : List (String × List PlatformEntry)) :
    c.insertTrials trials =
      match c.trials.offer trials with
      | .ok m => .ok ⟨m⟩
      | .error name => .error (.duplicateTrial name) := by
  induction trials generalizing c with
  | nil => rfl
  | cons trial rest ih =>
    obtain ⟨name, entries⟩ := trial
    simp only [insertTrials, insertTrial, OrderedMap.offer]
    cases c.trials.insert? name entries with
    | none => rfl
    | some trials => exact ih ⟨trials⟩

variable {trials : List (String × List PlatformEntry)}

def ParamsDistinct (trials : List (String × List PlatformEntry)) : Prop :=
  ∀ trial ∈ trials, ∀ entry ∈ trial.2, ∀ x ∈ entry.experiments, ∀ m ∈ x.params, m.WellFormed

theorem documentOffered (distinct : ParamsDistinct trials) :
    match OrderedMap.empty.offer trials with
    | .ok m => ofJson (documentText trials) = .ok ⟨m⟩
    | .error name => ∃ place, ofJson (documentText trials) =
      .error (structural .json (Json.Refusal.problem (.duplicateKey name) place).text) := by
  have shown : Json.Shows (documentText trials).toList _ :=
    Json.compactShown _ (valueLegible ⟨⟨trials⟩⟩)
  obtain ⟨node, spelt, same⟩ := Json.shownRead shown
  have loaded : ofJson (documentText trials) =
      (Schema.trialConfig node).mapError fun e => structural .json e.text :=
    congrArg (Except.mapError _) (same Schema.trialConfig)
  cases spelt with
  | @object start inside members _ spelt =>
    -- entries come back out of whatever tree spells them
    have back : ∀ trial ∈ trials, ∀ node, Json.Spells node (entriesValue trial.2) →
        Json.Node.readList (Json.Node.readRecord Schema.entryRecord) node = .ok trial.2 := by
      intro trial member node spelt
      refine (Json.entrySame.agree.list spelt trial.2).mp (Json.Value.itemsBack ?_)
      exact fun entry inside => entry.valueBack (distinct trial member entry inside)
    have read := Json.Node.entriesOffered back spelt .empty
    have whole : Schema.trialConfig (Json.Node.object start inside members) =
        (Json.Node.readEntries (Json.Node.readList (Json.Node.readRecord Schema.entryRecord))
          .empty members).map TrialConfig.mk := rfl
    rw [loaded, whole]
    cases offering : OrderedMap.empty.offer trials with
    | ok m =>
      rw [offering] at read
      rw [read]
      rfl
    | error name =>
      rw [offering] at read
      obtain ⟨place, refused⟩ := read
      rw [refused]
      exact ⟨place, rfl⟩

/-- Trials are built into a config exactly when their names differ, exactly when the text of
them all loads, and to the same config. Otherwise both stop at the first name that repeats. -/
theorem builtAsLoaded (distinct : ParamsDistinct trials) :
    ((∃ c, empty.insertTrials trials = .ok c) ↔ (trials.map Prod.fst).Nodup) ∧
    ((∃ c, ofJson (documentText trials) = .ok c) ↔ (trials.map Prod.fst).Nodup) ∧
    ((trials.map Prod.fst).Nodup → empty.insertTrials trials = .ok ⟨⟨trials⟩⟩ ∧
      ofJson (documentText trials) = .ok ⟨⟨trials⟩⟩) ∧
    (¬ (trials.map Prod.fst).Nodup → ∃ name built loaded,
      OrderedMap.FirstRepeat (trials.map Prod.fst) name ∧
      empty.insertTrials trials = .error built ∧ built.path = "$." ++ name ∧
      built.rule = some "unique_trial_name" ∧
      ofJson (documentText trials) = .error loaded ∧ loaded.path = "$" ∧
      loaded.rule = some "structure" ∧
      ∃ place : Json.Place, loaded.broken.map BrokenRule.actual =
        some ("duplicate key '" ++ name ++ "'" ++ " at line " ++ toString place.line ++
          " column " ++ toString place.column)) := by
  have building := trialsOffered .empty trials
  have loading := documentOffered distinct
  simp only [empty] at building
  rcases OrderedMap.offered OrderedMap.emptyWellFormed trials with
    ⟨fresh, offering⟩ | ⟨name, first, offering⟩
  · have fresh : (trials.map Prod.fst).Nodup := fresh
    have built : empty.insertTrials trials = .ok ⟨⟨trials⟩⟩ := by
      rw [offering] at building
      exact building
    have loaded : ofJson (documentText trials) = .ok ⟨⟨trials⟩⟩ := by
      rw [offering] at loading
      exact loading
    exact ⟨⟨fun _ => fresh, fun _ => ⟨_, built⟩⟩, ⟨fun _ => fresh, fun _ => ⟨_, loaded⟩⟩,
      fun _ => ⟨built, loaded⟩, fun repeated => absurd fresh repeated⟩
  · have first : OrderedMap.FirstRepeat (trials.map Prod.fst) name := first
    have repeated := first.repeats
    have built : empty.insertTrials trials = .error (.duplicateTrial name) := by
      rw [offering] at building
      exact building
    rw [offering] at loading
    obtain ⟨place, loaded⟩ := loading
    refine ⟨by simp [built, repeated], by simp [loaded, repeated],
      fun fresh => absurd fresh repeated, fun _ => ⟨name, _, _, first, built, ?_, rfl, loaded, rfl,
        rfl, place, rfl⟩⟩
    rw [Violation.duplicateTrial, SchemaPath.childText, ← String.append_assoc]
    rfl

def renamed : List (String × List PlatformEntry) :=
  [("", []),
    ("\"\\\u0000😀", [{ platforms := ["b", "a"], experiments :=
      [{ name := "", params := some ⟨[("z", "\x01"), ("", "\x7d")]⟩ }] }]),
    ("u", []), ("\"\\\u0000😀", [{ platforms := [], experiments := [] }])]

theorem renamedStops : ParamsDistinct renamed ∧ ¬ (renamed.map Prod.fst).Nodup ∧
    (∃ name built loaded, name = "\"\\\u0000😀" ∧ empty.insertTrials renamed = .error built ∧
      built.path = "$." ++ name ∧ built.rule = some "unique_trial_name" ∧
      ofJson (documentText renamed) = .error loaded ∧ loaded.path = "$" ∧
      loaded.rule = some "structure") ∧
    (renamed.dropLast.map Prod.fst).Nodup ∧
    empty.insertTrials renamed.dropLast = .ok ⟨⟨renamed.dropLast⟩⟩ ∧
    ofJson (documentText renamed.dropLast) = .ok ⟨⟨renamed.dropLast⟩⟩ := by
  have distinct : ParamsDistinct renamed := by
    unfold ParamsDistinct
    decide
  have fewer : ParamsDistinct renamed.dropLast :=
    fun trial member => distinct trial (List.dropLast_subset _ member)
  have twice : ¬ (renamed.map Prod.fst).Nodup := by decide
  have once : (renamed.dropLast.map Prod.fst).Nodup := by decide
  obtain ⟨name, built, loaded, first, building, path, rule, loading, root, shape, -⟩ :=
    (builtAsLoaded distinct).2.2.2 twice
  have fourth : OrderedMap.FirstRepeat (renamed.map Prod.fst) "\"\\\u0000😀" :=
    show OrderedMap.FirstRepeat (["", "\"\\\u0000😀", "u"] ++ _ :: []) _ from
      .mk (by decide) (by decide)
  obtain ⟨built', loaded'⟩ := (builtAsLoaded fewer).2.2.1 once
  exact ⟨distinct, twice, ⟨name, built, loaded, first.unique fourth, building, path, rule, loading,
    root, shape⟩, once, built', loaded'⟩

end TrialConfig
end StudyPlan
