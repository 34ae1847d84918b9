import StudyPlan.CommandLine.Arguments
import StudyPlan.Proofs.CommandLine.Reading

/-! What comes of a command line, told from the deeds in front of the command and behind it. -/
namespace StudyPlan

namespace View

def has (v : View) (flag : Flag) : Bool := 0 < v.tally flag

def closes (environment : Option String) (v : View) : Bool :=
  (v.value .settingsFile).isSome || environment ≠ some ""

def passes (l : Level) (v : View) : Bool :=
  !(v.has .quiet && v.has .verbose) && l.positional?.all fun slot => (v.value slot).isSome

def command? (v : View) : CommandName → Option Command
  | .transform => (v.value .trialFile).map fun file =>
      .transform ⟨file, v.value .platform, v.value .saveTo, v.has .bareSymbols⟩
  | .validate => (v.value .trialFile).map fun file => .validate ⟨file⟩
  | .platforms => some .platforms
  | .completions => ((v.value .shell).bind Shell.ofWord?).map .completions

def combine (environment : Option String) (top inner : View) (command : Command) : Arguments where
  verbosity := if inner.tally .verbose = 0 then top.tally .verbose else inner.tally .verbose
  quiet := inner.has .quiet || top.has .quiet
  settingsFile := inner.value .settingsFile <|> top.value .settingsFile <|> environment
  output := (inner.value .output <|> top.value .output).bind OutputFormat.ofName?
  noColor := inner.has .noColor || top.has .noColor
  command

def good (environment : Option String) (l : Level) (v : View) : Bool :=
  v.closes environment && v.passes l

/- What comes of the views of both levels, whichever fault would be told first. -/
def outcome (environment : Option String) (name : CommandName) (top inner : Option View) :
    Option Arguments :=
  (inner.filter (good environment (.command name))).bind fun inner =>
    (top.filter (good environment .top)).bind fun top =>
      (inner.command? name).map (combine environment top inner)

section Given

variable (positional : Option Slot) (g : Given)

theorem hasFlag (flag : Flag) (other : flag ≠ .verbose) :
    (ofGiven positional g).has flag = g.flags.contains flag := by
  have tally : (ofGiven positional g).tally flag = g.flags.count flag := by
    cases flag <;> first | contradiction | rfl
  simp [has, tally, List.count_pos_iff]

theorem passesGiven (l : Level) :
    (ofGiven positional g).passes l = (CommandLine.check l g).toOption.isSome := by
  have louder : (ofGiven positional g).has .verbose = decide (0 < g.verbosity) := rfl
  unfold CommandLine.check passes
  rw [hasFlag positional g .quiet nofun, louder]
  cases g.flags.contains .quiet && decide (0 < g.verbosity) with
  | true => rfl
  | false =>
    cases l.positional? with
    | none => rfl
    | some slot =>
      have value : (ofGiven positional g).value slot = g.value? slot := rfl
      simp only [Option.all_some, value]
      cases (g.value? slot).isSome <;> rfl

theorem commandGiven (name : CommandName) :
    CommandLine.command? g name = (ofGiven positional g).command? name := by
  have bare := hasFlag positional g .bareSymbols nofun
  cases name with
  | transform =>
    simp only [CommandLine.command?, command?, bare]
    rfl
  | _ => rfl

end Given

theorem combineGiven (environment : Option String) (positional positional' : Option Slot)
    (top inner : Given) : CommandLine.combine environment top inner =
      (ofGiven positional top).combine environment (ofGiven positional' inner) := by
  have quiet (positional g) := hasFlag positional g .quiet nofun
  have noColor (positional g) := hasFlag positional g .noColor nofun
  unfold combine
  simp only [quiet, noColor]
  rfl

theorem outcomeNone (environment : Option String) (name : CommandName) (inner : Option View) :
    outcome environment name none inner = none := by
  simp [outcome]

theorem outcomeParts {environment : Option String} {name : CommandName} {top inner : Option View}
    {a : Arguments} (comes : outcome environment name top inner = some a) :
    ∃ t i asked, top = some t ∧ t.good environment .top ∧
      inner = some i ∧ i.good environment (.command name) ∧ a = t.combine environment i asked := by
  simp only [outcome, Option.bind_eq_some_iff, Option.filter_eq_some_iff, Option.map_eq_some_iff]
    at comes
  obtain ⟨i, ⟨inner, goodInner⟩, t, ⟨top, goodTop⟩, asked, _, is⟩ := comes
  exact ⟨t, i, asked, top, goodTop, inner, goodInner, is.symm⟩

end View

namespace Progress

theorem closeSettled (environment : Option String) {p q : Progress} (settles : p.settle = .ok q) :
    CommandLine.close environment p =
      if (View.ofGiven p.positional q.given).closes environment then .ok q.given
      else .error .invalidValue := by
  have named : (View.ofGiven p.positional q.given).value .settingsFile =
      q.given.value? .settingsFile := rfl
  unfold CommandLine.close View.closes
  rw [settles, named]
  change (if (q.given.value? .settingsFile).isNone && environment = some "" then _ else _) = _
  cases q.given.value? .settingsFile with
  | some _ => rfl
  | none => by_cases empty : environment = some "" <;> simp [empty] <;> rfl

theorem closeStuck (environment : Option String) {p : Progress} {e : UsageProblem}
    (stuck : p.settle = .error e) : CommandLine.close environment p = .error e := by
  unfold CommandLine.close
  rw [stuck]
  rfl

end Progress

namespace CommandLine

def closed (environment : Option String) (l : Level) (p : Progress) :
    Except UsageProblem Given := do
  let given ← close environment p
  check l given
  return given

theorem closedView (environment : Option String) (l : Level) (p : Progress) :
    (closed environment l p).toOption.map (View.ofGiven p.positional) =
      p.view.filter (View.good environment l) := by
  unfold closed
  cases settles : p.settle with
  | error e =>
    rw [Progress.closeStuck environment settles, Progress.viewStuck settles]
    rfl
  | ok q =>
    rw [Progress.closeSettled environment settles, Progress.viewSettled settles]
    have passes := View.passesGiven p.positional q.given l
    by_cases closes : (View.ofGiven p.positional q.given).closes environment
    · rw [if_pos closes]
      change (check l q.given >>= fun _ => pure q.given).toOption.map _ = _
      cases checks : check l q.given with
      | error e =>
        rw [checks] at passes
        rw [Option.filter_some_neg]
        · rfl
        · simp [View.good, passes, Except.toOption]
      | ok _ =>
        rw [checks] at passes
        rw [Option.filter_some_pos]
        · rfl
        · simp [View.good, closes, passes, Except.toOption]
    · rw [if_neg closes, Option.filter_some_neg]
      · rfl
      · simp [View.good, closes]

theorem parseParts (environment : Option String) {words rest : List String} {p : Progress}
    {name : CommandName}
    (found : splitAtCommand (.start .top) words = .ok (p, some (name, rest))) :
    parse environment words = (do
      let q ← (Progress.start (.command name)).readAll (.command name) rest
      let inner ← closed environment (.command name) q
      let top ← closed environment .top p
      match command? inner name with
      | some asked => return combine environment top inner asked
      | none => throw .missingArgument) := by
  unfold parse closed
  simp only [found, bind_assoc, pure_bind]
  rfl

theorem parseView (environment : Option String) {words rest : List String} {p : Progress}
    {name : CommandName}
    (found : splitAtCommand (.start .top) words = .ok (p, some (name, rest))) :
    (parse environment words).toOption = View.outcome environment name p.view
      (((Progress.start (.command name)).readAll (.command name) rest).toOption.bind
        Progress.view) := by
  rw [parseParts environment found]
  cases read : (Progress.start (.command name)).readAll (.command name) rest with
  | error e => simp [bind, Except.bind, Except.toOption, View.outcome]
  | ok q =>
    have inner := closedView environment (.command name) q
    have top := closedView environment .top p
    change _ = View.outcome environment name p.view q.view
    rw [View.outcome, ← inner, ← top]
    change (closed environment (.command name) q >>= fun _ => _).toOption = _
    cases closed environment (.command name) q with
    | error e => rfl
    | ok i =>
      change (closed environment .top p >>= fun _ => _).toOption = _
      cases closed environment .top p with
      | error e => rfl
      | ok t =>
        change _ = ((View.ofGiven q.positional i).command? name).map _
        rw [← View.commandGiven, ← View.combineGiven]
        change Except.toOption (match command? i name with
          | some asked => return combine environment t i asked
          | none => throw UsageProblem.missingArgument) = _
        cases command? i name <;> rfl

theorem ofWordFound {word : String} {name : CommandName}
    (found : CommandName.ofWord? word = some name) : name.word = word := by
  simpa using List.find?_some found

theorem splitFound {p q : Progress} {words rest : List String} {name : CommandName}
    (found : splitAtCommand p words = .ok (q, some (name, rest))) :
    ∃ front, words = front ++ name.word :: rest ∧ p.readAll .top front = .ok q := by
  induction words generalizing p with
  | nil => simp [splitAtCommand] at found
  | cons word more ih =>
    have further (next : splitAtCommand.next p word more = .ok (q, some (name, rest))) :
        ∃ front, word :: more = front ++ name.word :: rest ∧ p.readAll .top front = .ok q := by
      unfold splitAtCommand.next at next
      split at next
      · rename_i after read
        obtain ⟨front, is, reads⟩ := ih next
        refine ⟨word :: front, by rw [is]; rfl, ?_⟩
        simp only [Progress.readAll, read, reads]
      · contradiction
    unfold splitAtCommand at found
    split at found
    · exact further found
    · split at found
      · rename_i named
        cases found
        exact ⟨[], by rw [ofWordFound named]; rfl, rfl⟩
      · split at found
        · contradiction
        · exact further found

end CommandLine

inductive Options (l : Level) : List String → List Deed → Prop where
  | nil : Options l [] []
  | whole {word ds words es} (kind : l.wordKind word = .whole ds) (more : Options l words es) :
      Options l (word :: words) (ds ++ es)
  | valued {word ds slot value words es} (kind : l.wordKind word = .asks ds slot)
      (text : l.wordKind value = .text) (more : Options l words es) :
      Options l (word :: value :: words) (ds ++ .fill slot value :: es)

theorem Options.deeds {l : Level} {words : List String} {ds : List Deed}
    (options : Options l words ds) (rest : List String) :
    l.deeds (words ++ rest) = (l.deeds rest).map (ds ++ ·) := by
  induction options with
  | nil => simp
  | whole kind more ih =>
    simp [Level.deeds, kind, ih, Function.comp_def]
  | valued kind text more ih =>
    simp [Level.deeds, kind, text, ih, Function.comp_def]

namespace CommandLine

theorem commandText (name : CommandName) : Level.top.wordKind name.word = .text := by
  cases name <;> rfl

theorem splitOption {p : Progress} {word : String} (ready : p.Ready)
    (option : Level.top.wordKind word ≠ .text) (rest : List String) :
    splitAtCommand p (word :: rest) = p.read .top word >>= (splitAtCommand · rest) := by
  have unnamed : CommandName.ofWord? word = none := by
    cases found : CommandName.ofWord? word with
    | none => rfl
    | some name => exact absurd (ofWordFound found ▸ commandText name) option
  have other : word ≠ "help" := fun same => option (by rw [same]; rfl)
  rw [splitAtCommand, ready.1, ready.2]
  simp only [unnamed, other, splitAtCommand.next]
  cases p.read .top word <;> rfl

theorem splitValue {p : Progress} {slot : Slot} (awaits : p.awaits? = some slot) (word : String)
    (rest : List String) :
    splitAtCommand p (word :: rest) = p.read .top word >>= (splitAtCommand · rest) := by
  rw [splitAtCommand, awaits]
  simp only [Option.isSome_some, Bool.or_true, if_true, splitAtCommand.next]
  cases p.read .top word <;> rfl

theorem splitOptions {p : Progress} (ready : p.Ready) {front : List String} {ds : List Deed}
    (options : Options .top front ds) (name : CommandName) (rest : List String) :
    splitAtCommand p (front ++ name.word :: rest) =
      (p.readAll .top front).map (·, some (name, rest)) := by
  induction options generalizing p with
  | nil =>
    have found : CommandName.ofWord? name.word = some name := by cases name <;> rfl
    simp only [List.nil_append, splitAtCommand, ready.1, ready.2, found]
    rfl
  | @whole word ds words es kind more ih =>
    rw [List.cons_append, splitOption ready (by simp [kind]), Progress.readAllCons]
    cases read : p.read .top word with
    | error e => rfl
    | ok q => exact ih ((Progress.readWhole kind ready).ready q read)
  | @valued word ds slot value words es kind text more ih =>
    have asks := Progress.readAsks kind ready
    have answered := asks.answered text
    rw [List.cons_append, List.cons_append, splitOption ready (by simp [kind]),
      Progress.readAllCons]
    cases read : p.read .top word with
    | error e => rfl
    | ok q =>
      rw [read] at answered
      have pending := (asks.asking q read).2
      have awaits : q.awaits? = some slot := by simp [Progress.awaits?, pending]
      change splitAtCommand q _ = Except.map _ (q.readAll .top _)
      rw [splitValue awaits, Progress.readAllCons]
      cases kept : q.read .top value with
      | error e => rfl
      | ok t => exact ih (answered.ready t kept)

theorem startView (l : Level) : (Progress.start l).view = some (.ofGiven l.positional? {}) :=
  Progress.viewPlain rfl

theorem readDeeds {l : Level} {words : List String} {w : View}
    (read : ((Progress.start l).readAll l words).toOption.bind Progress.view = some w) :
    ∃ deeds, l.deeds words = some deeds ∧ (View.ofGiven l.positional? {}).after deeds = some w := by
  rw [Progress.readAllView l (Progress.readyStart l), startView] at read
  exact Option.bind_eq_some_iff.mp read

theorem parseOptions (environment : Option String) {front : List String} {ds : List Deed}
    (options : Options .top front ds) (name : CommandName) (rest : List String) :
    (parse environment (front ++ name.word :: rest)).toOption =
      View.outcome environment name ((View.ofGiven none {}).after ds)
        (((Level.command name).deeds rest).bind
          (View.ofGiven (Level.command name).positional? {}).after) := by
  have read (l : Level) (words : List String) :=
    Progress.readAllView l (Progress.readyStart l) words
  simp only [startView, Option.bind_some] at read
  have deeds : Level.top.deeds front = some ds := by simpa [Level.deeds] using options.deeds []
  have splits := splitOptions (Progress.readyStart .top) options name rest
  have top := read .top front
  rw [deeds] at top
  cases reads : (Progress.start .top).readAll .top front with
  | error e =>
    rw [reads] at splits top
    have gone : (parse environment (front ++ name.word :: rest)).toOption = none := by
      unfold parse
      rw [splits]
      rfl
    rw [gone]
    change none = (View.ofGiven none {}).after ds at top
    change none = View.outcome environment name ((View.ofGiven none {}).after ds) _
    rw [← top, View.outcomeNone]
  | ok q =>
    rw [reads] at splits top
    rw [parseView environment splits, read]
    exact congrArg (View.outcome environment name · _) top

end CommandLine

end StudyPlan
