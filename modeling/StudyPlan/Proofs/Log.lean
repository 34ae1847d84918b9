import StudyPlan.Proofs.Composition
import StudyPlan.Proofs.Text.Quoted

/-! What a run reports. Trial by trial it says which entry it selected and which experiments it
translates, or that the trial is omitted; the studies that it returns are those it reported, and
the summary counts them. A run that fails has reported the trials in front of the first invalid
one and nothing else. The log has a line for each event, from which the event can be told. -/
namespace StudyPlan
open Scan Resolve

/- What a run for the platform reports of trials, together with the studies it makes of them: the
entry that is reported is the one a study is written from. -/
inductive Told (p : Platform) :
    List (String × List PlatformEntry) → List Study → List Event → Prop where
  | nil : Told p [] [] []
  | selected {name entries rest i e s studies events}
      (first : First (p.tag ∈ ·.platforms) entries i e) (title : s.name = name)
      (written : List.Forall₂ (ExperimentOf p e) e.experiments s.experiments)
      (tail : Told p rest studies events) :
      Told p ((name, entries) :: rest) (s :: studies)
        (.selected name i :: e.experiments.map (.translating ·.name) ++ events)
  | omitted {name entries rest studies events} (unlisted : ∀ e ∈ entries, p.tag ∉ e.platforms)
      (tail : Told p rest studies events) :
      Told p ((name, entries) :: rest) studies (.omitted name :: events)

def Event.isOmission : Event → Bool
  | .omitted _ => true
  | _ => false

namespace Event

inductive Reads : Event → String → String → Prop where
  | selected (trial : String) (entry : Nat) : Reads (.selected trial entry) "DEBUG"
      ("Selected platform config trial=" ++ Text.Quoted.encode trial ++ " entry=" ++ toString entry)
  | translating (experiment : String) : Reads (.translating experiment) "TRACE"
      ("Translating experiment experiment=" ++ experiment)
  | omitted (trial : String) : Reads (.omitted trial) "DEBUG"
      ("No platform config targets platform, omitting trial trial=" ++ Text.Quoted.encode trial)
  | resolved (studies skipped : Nat) : Reads (.resolved studies skipped) " INFO"
      ("Resolved trial config studies=" ++ toString studies ++ " omitted=" ++ toString skipped)

theorem runLine (s : Span) {e : Event} (source : e.source = "fieldtrial_core::transform") :
    e.line (some s) = e.level ++ " transform_for\x7bplatform=" ++ s.platform.tag ++ " trials=" ++
      toString s.trials ++ "\x7d: fieldtrial_core::transform: " ++ e.message := by
  unfold line Span.text
  rw [source]
  refine String.toList_inj.mp ?_
  simp only [Option.map_some, Option.getD_some, String.toList_append]
  simp

theorem countTold {front front' : String} {n n' : Nat}
    (same : front ++ "=" ++ toString n = front' ++ "=" ++ toString n') :
    front = front' ∧ n = n' := by
  have texts : front.toList ++ '=' :: Nat.toDigits 10 n =
      front'.toList ++ '=' :: Nat.toDigits 10 n' := by
    simpa using congrArg String.toList same
  obtain ⟨before, number⟩ := numberTold rfl texts
  exact ⟨String.toList_inj.mp before, number⟩

theorem readsTell {e e' : Event} {level level' message message' : String}
    (reads : e.Reads level message) (reads' : e'.Reads level' message')
    (same : message = message') : e = e' := by
  have initials := congrArg (·.toList.head?) same
  cases reads <;> cases reads' <;> simp at initials
  case selected.selected trial entry trial' entry' =>
    have entries : "Selected platform config trial=" ++ Text.Quoted.encode trial ++ " entry" ++
        "=" ++ toString entry = "Selected platform config trial=" ++ Text.Quoted.encode trial' ++
        " entry" ++ "=" ++ toString entry' := by
      simpa [String.append_assoc] using same
    obtain ⟨front, rfl⟩ := countTold entries
    rw [Text.Quoted.textTold (behindTold (endingTold front))]
  case translating.translating => rw [behindTold same]
  case omitted.omitted => rw [Text.Quoted.textTold (behindTold same)]
  case resolved.resolved studies skipped studies' skipped' =>
    have counts : "Resolved trial config studies" ++ "=" ++ toString studies ++ " omitted" ++ "=" ++
        toString skipped = "Resolved trial config studies" ++ "=" ++ toString studies' ++
        " omitted" ++ "=" ++ toString skipped' := by
      simpa [String.append_assoc] using same
    obtain ⟨front, rfl⟩ := countTold counts
    rw [(countTold (endingTold front)).2]

end Event

namespace Told
variable {p : Platform} {trials : List (String × List PlatformEntry)} {studies : List Study}
  {events : List Event}

theorem ofRun (result : (Resolve.studies p trials).result = .ok studies) :
    Told p trials studies (Resolve.studies p trials).events := by
  induction trials generalizing studies with
  | nil =>
    cases Except.ok.inj result
    exact .nil
  | cons t rest ih =>
    obtain ⟨name, entries⟩ := t
    simp only [Resolve.studies] at result ⊢
    cases passed : trial name entries with
    | error v => simp [passed] at result
    | ok rs =>
      have resolved := trialAccepted.mp passed
      simp only [passed] at result ⊢
      cases chosen : select p rs with
      | none =>
        simp only [chosen] at result ⊢
        exact .omitted (selectNone resolved chosen) (ih result)
      | some r =>
        simp only [chosen] at result ⊢
        cases more : (Resolve.studies p rest).result with
        | error v => simp [more, Except.map] at result
        | ok others =>
          simp only [more, Except.map, Except.ok.injEq] at result
          obtain ⟨i, e, first, same⟩ := selectFirst resolved chosen
          obtain ⟨title, j, d, again, written⟩ := (studyWritten resolved chosen _).mpr rfl
          obtain ⟨-, rfl⟩ := firstUnique first again
          rw [← result, same.index, same.experiments]
          exact .selected first title written (ih more)

theorem sameNames {e : PlatformEntry} {xs : List Experiment} {ys : List StudyExperiment}
    (written : List.Forall₂ (ExperimentOf p e) xs ys) :
    xs.map (Event.translating ·.name) = ys.map (Event.translating ·.name) := by
  induction written with
  | nil => rfl
  | cons head tail ih => simp [head.name, ih]

theorem traces (told : Told p trials studies events) :
    events.filter (·.level == "TRACE") =
      studies.flatMap fun s => s.experiments.map (.translating ·.name) := by
  induction told with
  | nil => rfl
  | selected first title written tail ih =>
    simp [List.filter_map, Function.comp_def, ih, sameNames written]
  | omitted unlisted tail ih => simpa using ih

theorem debugs (told : Told p trials studies events) :
    (events.filter (·.level == "DEBUG")).length = trials.length := by
  induction told with
  | nil => rfl
  | selected first title written tail ih =>
    simp [List.filter_map, Function.comp_def, ih]
  | omitted unlisted tail ih => simpa using ih

theorem noSummary (told : Told p trials studies events) :
    events.filter (·.level == " INFO") = [] := by
  induction told with
  | nil => rfl
  | selected first title written tail ih =>
    simp [List.filter_map, Function.comp_def, ih]
  | omitted unlisted tail ih => simpa using ih

theorem counts (told : Told p trials studies events) :
    studies.length + events.countP Event.isOmission = trials.length := by
  induction told with
  | nil => rfl
  | @selected name entries rest i e s studies events first title written tail ih =>
    have block : (Event.selected name i :: e.experiments.map (.translating ·.name) ++ events).countP
        Event.isOmission = events.countP Event.isOmission := by
      simp [List.countP_map, Function.comp_def, Event.isOmission]
    rw [block, List.length_cons, List.length_cons]
    omega
  | @omitted name entries rest studies events unlisted tail ih =>
    have block : (Event.omitted name :: events).countP Event.isOmission =
        events.countP Event.isOmission + 1 := by
      simp [List.countP_cons, Event.isOmission]
    rw [block, List.length_cons]
    omega

end Told

namespace Resolve

/- What the loop keeps, whether or not it comes to its end. -/

theorem eachRead (p : Platform) (trials : List (String × List PlatformEntry)) :
    ∀ e ∈ (studies p trials).events, e.Reads e.level e.message := by
  induction trials with
  | nil => simp [studies]
  | cons t rest ih =>
    obtain ⟨name, entries⟩ := t
    rw [studies]
    split
    · simp
    · split
      · exact List.forall_mem_cons.mpr ⟨.omitted name, ih⟩
      · refine List.forall_mem_cons.mpr ⟨.selected name _, ?_⟩
        intro e member
        rcases List.mem_append.mp member with translated | later
        · obtain ⟨x, -, rfl⟩ := List.mem_map.mp translated
          exact .translating x.name
        · exact ih e later

theorem omittedCounted (p : Platform) (trials : List (String × List PlatformEntry)) :
    (studies p trials).omitted = (studies p trials).events.countP Event.isOmission := by
  induction trials with
  | nil => rfl
  | cons t rest ih =>
    obtain ⟨name, entries⟩ := t
    rw [studies]
    split
    · rfl
    · split
      · simp [List.countP_cons, Event.isOmission, ih]
      · simp [List.countP_map, Function.comp_def, Event.isOmission, ih]

theorem invalidSilent {p : Platform} {t : String × List PlatformEntry}
    (invalid : ¬ PlatformEntry.AllValid t.2) : ∃ v, studies p [t] = ⟨[], 0, .error v⟩ := by
  obtain ⟨name, entries⟩ := t
  cases passed : trial name entries with
  | error v => exact ⟨v, by simp [studies, passed]⟩
  | ok rs => exact absurd (trialResolves.mp ⟨rs, trialAccepted.mp passed⟩) invalid

theorem stoppedAt {p : Platform} {trials : List (String × List PlatformEntry)} {v : Violation}
    (result : (studies p trials).result = .error v) :
    ∃ front t behind, trials = front ++ t :: behind ∧
      (∀ u ∈ front, PlatformEntry.AllValid u.2) ∧ ¬ PlatformEntry.AllValid t.2 ∧
      (studies p trials).events = (studies p front).events := by
  cases invalid : trials.find? fun t => decide (¬ PlatformEntry.AllValid t.2) with
  | none =>
    have valid : ∀ t ∈ trials, PlatformEntry.AllValid t.2 := by
      simpa using List.find?_eq_none.mp invalid
    simp [studiesEach valid] at result
  | some t =>
    obtain ⟨wrong, front, behind, rfl, before⟩ := List.find?_eq_some_iff_append.mp invalid
    have valid : ∀ u ∈ front, PlatformEntry.AllValid u.2 := by simpa using before
    have wrong : ¬ PlatformEntry.AllValid t.2 := by simpa using wrong
    refine ⟨front, t, behind, rfl, valid, wrong, ?_⟩
    obtain ⟨w, silent⟩ := @invalidSilent p t wrong
    rw [studiesInTurn, studiesStep, silent]
    simp [Run.andThen, studiesEach valid]

end Resolve

namespace TrialConfig
variable {c : TrialConfig} {p : Platform}

theorem runOk {d : Description} (described : c.describe p = .ok d) :
    (studies p c.trials.entries).result = .ok d.studies ∧ (c.run p).events =
      (studies p c.trials.entries).events ++
        [.resolved d.size (studies p c.trials.entries).omitted] := by
  rw [describeRun] at described
  cases result : (studies p c.trials.entries).result with
  | error v => simp [result, Except.map] at described
  | ok found =>
    simp only [result, Except.map, Except.ok.injEq] at described
    subst described
    simp [run, result, Description.size]

theorem runStopped {v : Violation} (described : c.describe p = .error v) :
    (studies p c.trials.entries).result = .error v ∧
      (c.run p).events = (studies p c.trials.entries).events := by
  rw [describeRun] at described
  cases result : (studies p c.trials.entries).result with
  | ok found => simp [result, Except.map] at described
  | error w =>
    simp only [result, Except.map, Except.error.injEq] at described
    simp [run, result, described]

theorem runRead (c : TrialConfig) (p : Platform) :
    ∀ e ∈ (c.run p).events, e.Reads e.level e.message := by
  have read := eachRead p c.trials.entries
  cases described : c.describe p with
  | error v =>
    rw [(runStopped described).2]
    exact read
  | ok d =>
    rw [(runOk described).2]
    exact List.forall_mem_append.mpr ⟨read, List.forall_mem_singleton.mpr (.resolved _ _)⟩

theorem runLogged (c : TrialConfig) (p : Platform) : List.Forall₂ (fun e line =>
    ∃ level message, Event.Reads e level message ∧ line = level ++ " transform_for\x7bplatform=" ++
      p.tag ++ " trials=" ++ toString c.size ++ "\x7d: fieldtrial_core::transform: " ++ message)
    (c.run p).events (c.log p) := by
  unfold log
  rw [List.forall₂_map_right_iff, List.forall₂_same]
  intro e member
  have read := c.runRead p e member
  have source : e.source = "fieldtrial_core::transform" := by cases read <;> rfl
  exact ⟨e.level, e.message, read, Event.runLine ⟨p, c.size⟩ source⟩

/-- The log has a line for each event of a run, and the message tells which event it is. A run that
succeeds reports each trial as `Told` says, then a summary that counts the studies and the trials
omitted; its traces name the experiments of the description. A run that fails reports what a run
for the trials in front of the first invalid one reports, less its summary. -/
theorem logTellsRun (c : TrialConfig) (p : Platform) :
    List.Forall₂ (fun e line => ∃ level message, Event.Reads e level message ∧
      line = level ++ " transform_for\x7bplatform=" ++ p.tag ++ " trials=" ++ toString c.size ++
        "\x7d: fieldtrial_core::transform: " ++ message) (c.run p).events (c.log p) ∧
    (∀ e e' level level' message, Event.Reads e level message → Event.Reads e' level' message →
      e = e') ∧
    (∀ d, c.describe p = .ok d → ∃ events omitted,
      (c.run p).events = events ++ [.resolved d.size omitted] ∧
      Told p c.trials.entries d.studies events ∧
      d.size + omitted = c.size ∧ omitted = events.countP Event.isOmission ∧
      (c.run p).events.filter (·.level == "TRACE") =
        d.studies.flatMap (fun s => s.experiments.map (.translating ·.name)) ∧
      ((c.run p).events.filter (·.level == "DEBUG")).length = c.size ∧
      (c.run p).events.filter (·.level == " INFO") = [.resolved d.size omitted]) ∧
    ∀ v, c.describe p = .error v → ∃ front t behind,
      c.trials.entries = front ++ t :: behind ∧ (∀ u ∈ front, PlatformEntry.AllValid u.2) ∧
      ¬ PlatformEntry.AllValid t.2 ∧
      ∃ d omitted, describe ⟨⟨front⟩⟩ p = .ok d ∧
        (run ⟨⟨front⟩⟩ p).events = (c.run p).events ++ [.resolved d.size omitted] ∧
        c.log p = (run ⟨⟨front⟩⟩ p).events.dropLast.map (Event.line (some ⟨p, c.size⟩)) := by
  refine ⟨c.runLogged p, ?_, ?_, ?_⟩
  · intro e e' level level' message reads reads'
    exact Event.readsTell reads reads' rfl
  · intro d described
    obtain ⟨result, events⟩ := runOk described
    have told := Told.ofRun result
    have counted := omittedCounted p c.trials.entries
    have counts : d.size + _ = c.size := told.counts
    rw [← counted] at counts
    refine ⟨_, _, events, told, counts, counted, ?_, ?_, ?_⟩
    · rw [events, List.filter_append, told.traces]
      simp
    · rw [events, List.filter_append, List.length_append, told.debugs]
      simp [size, OrderedMap.size]
    · rw [events, List.filter_append, told.noSummary]
      simp
  · intro v described
    obtain ⟨result, events⟩ := runStopped described
    obtain ⟨front, t, behind, split, valid, wrong, same⟩ := stoppedAt result
    have described' := describedEach (c := ⟨⟨front⟩⟩) valid p
    obtain ⟨-, events'⟩ := runOk described'
    have whole := events'
    rw [← same, ← events] at whole
    exact ⟨front, t, behind, split, valid, wrong, _, _, described', whole, by simp [log, whole]⟩

/- For windows the second entry of the first trial is used and the second trial is omitted; a trial
without entries behind them stops the run, whatever stands behind it. -/

def logged : TrialConfig :=
  ⟨⟨[("A", [.plain ["mac"] ["m"], .plain ["windows"] ["x", "y"], .plain ["windows"] ["z"]]),
    ("\"B\"", [.plain ["mac"] ["m"]])]⟩⟩

def stopped : TrialConfig :=
  ⟨⟨logged.trials.entries ++ [("C", []), ("D", [.plain ["windows"] ["x"]])]⟩⟩

def loggedFor (trials message : String) : String :=
  "transform_for\x7bplatform=windows trials=" ++ trials ++ "\x7d: fieldtrial_core::transform: " ++
    message

def loggedLines (trials : String) : List String :=
  ["DEBUG " ++ loggedFor trials "Selected platform config trial=\"A\" entry=1",
    "TRACE " ++ loggedFor trials "Translating experiment experiment=x",
    "TRACE " ++ loggedFor trials "Translating experiment experiment=y",
    "DEBUG " ++ loggedFor trials
      "No platform config targets platform, omitting trial trial=\"\\\"B\\\"\""]

theorem loggedTells :
    logged.log .windows =
      loggedLines "2" ++ [" INFO " ++ loggedFor "2" "Resolved trial config studies=1 omitted=1"] ∧
    stopped.log .windows = loggedLines "4" ∧
    (∃ d, logged.describe .windows = .ok d ∧ (logged.run .windows).events =
        [.selected "A" 1, .translating "x", .translating "y", .omitted "\"B\"", .resolved 1 1] ∧
      (logged.run .windows).events.filter (·.level == "TRACE") =
        d.studies.flatMap fun s => s.experiments.map (.translating ·.name)) ∧
    ∃ v, stopped.describe .windows = .error v ∧ (stopped.run .windows).events =
        [.selected "A" 1, .translating "x", .translating "y", .omitted "\"B\""] ∧
      ∃ front d omitted, describe ⟨⟨front⟩⟩ .windows = .ok d ∧
        (run ⟨⟨front⟩⟩ .windows).events =
          (stopped.run .windows).events ++ [.resolved d.size omitted] := by
  obtain ⟨-, -, succeeds, -⟩ := logTellsRun logged .windows
  obtain ⟨-, -, -, fails⟩ := logTellsRun stopped .windows
  obtain ⟨_, _, -, -, -, -, traces, -⟩ := succeeds _ rfl
  obtain ⟨front, _, _, -, -, -, d, omitted, described, whole, -⟩ := fails _ rfl
  exact ⟨by decide +kernel, by decide +kernel, ⟨_, rfl, rfl, traces⟩, _, rfl, rfl, front, d, omitted,
    described, whole⟩

end TrialConfig
end StudyPlan
