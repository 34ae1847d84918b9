import Mathlib.Data.Option.Basic
import StudyPlan.Proofs.CommandLine.Deeds

/-! Reading the words of a level does the deeds that they come to. That a value is looked at only
when the next word is there makes no difference to what comes of all of them. -/
namespace StudyPlan

/- What a word is at a level: two dashes that end the options, a text, an option that is unknown, or
options that are whole or ask for the next word as a value. -/
inductive WordKind where
  | ends
  | text
  | unknown
  | whole (deeds : List Deed)
  | asks (deeds : List Deed) (slot : Slot)

def WordKind.raising (flag : Flag) : WordKind → WordKind
  | whole deeds => whole (.raise flag :: deeds)
  | asks deeds slot => asks (.raise flag :: deeds) slot
  | kind => kind

namespace Level

def lettersKind (l : Level) : List Char → WordKind
  | [] => .whole []
  | c :: rest =>
    match l.shortFlag? c with
    | some flag => (lettersKind l rest).raising flag
    | none =>
      match l.shortOption? c, rest with
      | none, _ => .unknown
      | some slot, [] => .asks [] slot
      | some slot, '=' :: text => .whole [.fill slot (String.ofList text)]
      | some slot, text => .whole [.fill slot (String.ofList text)]

def nameKind (l : Level) (word : List Char) : WordKind :=
  let name := String.ofList (word.takeWhile (· ≠ '='))
  match l.longFlag? name, l.longOption? name, word.dropWhile (· ≠ '=') with
  | some flag, _, [] => .whole [.raise flag]
  | some _, _, _ => .unknown
  | none, some slot, [] => .asks [] slot
  | none, some slot, _ :: text => .whole [.fill slot (String.ofList text)]
  | none, none, _ => .unknown

def wordKind (l : Level) (word : String) : WordKind :=
  match word.toList with
  | ['-', '-'] => .ends
  | '-' :: '-' :: rest => l.nameKind rest
  | '-' :: c :: rest => l.lettersKind (c :: rest)
  | _ => .text

def deeds (l : Level) : List String → Option (List Deed)
  | [] => some []
  | word :: rest =>
    match l.wordKind word with
    | .ends => some (rest.map .place)
    | .text => (deeds l rest).map (.place word :: ·)
    | .unknown => none
    | .whole ds => (deeds l rest).map (ds ++ ·)
    | .asks ds slot =>
      match rest with
      | [] => none
      | value :: rest =>
        match l.wordKind value with
        | .text => (deeds l rest).map (ds ++ .fill slot value :: ·)
        | _ => none

end Level

namespace View

def ofGiven (positional : Option Slot) (g : Given) : View where
  tally
    | .verbose => g.verbosity
    | flag => g.flags.count flag
  value := g.value?
  positional

theorem ofGivenFlag (positional : Option Slot) {g : Given} {flag : Flag} (other : flag ≠ .verbose)
    (fresh : flag ∉ g.flags) : ofGiven positional { g with flags := g.flags ++ [flag] } =
      (ofGiven positional g).tallied flag (min ((ofGiven positional g).tally flag + 1) 255) := by
  have none : g.flags.count flag = 0 := List.count_eq_zero.mpr fresh
  have before : (ofGiven positional g).tally flag = 0 := by
    cases flag <;> first | contradiction | exact none
  have tally : (ofGiven positional { g with flags := g.flags ++ [flag] }).tally =
      Function.update (ofGiven positional g).tally flag 1 := by
    funext f
    by_cases same : f = flag
    · subst same
      rw [Function.update_self]
      cases f <;> simp_all [ofGiven]
    · rw [Function.update_of_ne same]
      cases f <;> simp_all [ofGiven, Ne.symm same]
  rw [before]
  exact congrArg (View.mk · _ _) tally

theorem ofGivenRaise (positional : Option Slot) (l : Level) (g : Given) (flag : Flag) :
    (g.raise l flag).toOption.map (ofGiven positional) =
      (ofGiven positional g).apply (.raise flag) := by
  have plain (other : flag ≠ .verbose) (good : flag ≠ .help ∧ flag ≠ .version) :
      (g.raise l flag).toOption.map (ofGiven positional) =
        (ofGiven positional g).apply (.raise flag) := by
    have raises : g.raise l flag = if g.flags.contains flag then .error .argumentConflict
        else .ok { g with flags := g.flags ++ [flag] } := by
      cases flag <;> simp_all [Given.raise]
    have may : (ofGiven positional g).mayRaise flag = !g.flags.contains flag := by
      cases flag <;> simp_all [mayRaise, ofGiven, List.count_eq_zero]
    rw [raises, apply, may]
    by_cases taken : flag ∈ g.flags
    · simp [taken, Except.toOption]
    · simp [taken, Except.toOption, ofGivenFlag positional other taken]
  cases flag with
  | help => rfl
  | version => rfl
  | verbose =>
    have tally : (ofGiven positional { g with verbosity := min (g.verbosity + 1) 255 }).tally =
        Function.update (ofGiven positional g).tally .verbose (min (g.verbosity + 1) 255) := by
      funext f
      cases f <;> simp [ofGiven]
    exact congrArg (fun tally => some (View.mk tally _ _)) tally
  | _ => exact plain (by simp) (by simp)

theorem ofGivenFill (positional : Option Slot) (g : Given) (slot : Slot) (text : String) :
    (g.fill slot text).toOption.map (ofGiven positional) =
      (ofGiven positional g).fill slot text := by
  have taken : (ofGiven positional g).value slot = g.value? slot := rfl
  unfold Given.fill fill
  rw [taken]
  split
  · rfl
  · rename_i free
    split
    · have value : Given.value? { g with values := g.values ++ [(slot, text)] } =
          Function.update g.value? slot (some text) := by
        funext s
        by_cases same : s = slot
        · subst same
          have none : g.values.lookup s = none := Option.not_isSome_iff_eq_none.mp free
          simp [Given.value?, List.lookup_append, none]
        · have other : (s == slot) = false := beq_false_of_ne same
          simp [Given.value?, List.lookup_append, List.lookup_cons, same, other]
      exact congrArg (fun value => some (View.mk _ value _)) value
    · rfl

end View

namespace Progress

def view (p : Progress) : Option View :=
  p.settle.toOption.map fun p => .ofGiven p.positional p.given

def Ready (p : Progress) : Prop := p.ended = false ∧ p.awaits? = none

structure Comes (r : Except UsageProblem Progress) (v : Option View) : Prop where
  view : r.toOption.bind Progress.view = v
  ready : ∀ p, r = .ok p → p.Ready

structure Asks (r : Except UsageProblem Progress) (slot : Slot) (v : Option View) : Prop where
  view : (r.toOption.bind fun p => { p with pending := none }.view) = v
  asking : ∀ p, r = .ok p → p.ended = false ∧ p.pending = some (slot, none)

variable {p : Progress}

theorem settled {q : Progress} (settles : p.settle = .ok q) :
    q.pending = none ∧ q.ended = p.ended ∧ q.positional = p.positional := by
  unfold settle at settles
  split at settles
  · rename_i none
    cases settles
    exact ⟨none, rfl, rfl⟩
  · contradiction
  · cases filled : p.given.fill _ _ with
    | error e =>
      rw [filled] at settles
      contradiction
    | ok given =>
      rw [filled] at settles
      cases settles
      exact ⟨rfl, rfl, rfl⟩

theorem viewSettled {q : Progress} (settles : p.settle = .ok q) :
    p.view = some (.ofGiven p.positional q.given) := by
  rw [view, settles, ← (settled settles).2.2]
  rfl

theorem viewStuck {e : UsageProblem} (settles : p.settle = .error e) : p.view = none := by
  rw [view, settles]
  rfl

theorem viewPlain (none : p.pending = none) : p.view = some (.ofGiven p.positional p.given) :=
  viewSettled (by simp [settle, none])

theorem viewPending {slot : Slot} {text : String} (named : p.pending = some (slot, some text)) :
    p.view = (View.ofGiven p.positional p.given).fill slot text := by
  rw [← View.ofGivenFill, view, settle, named]
  cases filled : p.given.fill slot text with
  | error e => simp only [filled]; rfl
  | ok given => simp only [filled]; rfl

theorem viewEnded (p : Progress) : view { p with ended := true } = p.view := by
  unfold view settle
  cases p.pending with
  | none => rfl
  | some named =>
    obtain ⟨slot, text | _⟩ := named
    · rfl
    · simp only
      cases p.given.fill slot _ <;> rfl

theorem stepComes (op : Given → Except UsageProblem Given) {d : Deed}
    (does : ∀ positional g, (op g).toOption.map (View.ofGiven positional) =
      (View.ofGiven positional g).apply d) (started : p.ended = false) :
    Comes (p.settle >>= fun q => op q.given >>= fun given => pure { q with given })
      (p.view.bind (·.apply d)) := by
  cases settles : p.settle with
  | error e =>
    rw [viewStuck settles]
    exact ⟨rfl, nofun⟩
  | ok q =>
    obtain ⟨none, ended, positional⟩ := settled settles
    rw [viewSettled settles, ← positional, Option.bind_some, ← does q.positional q.given]
    change Comes (op q.given >>= fun given => pure { q with given }) _
    cases op q.given with
    | error e => exact ⟨rfl, nofun⟩
    | ok given =>
      refine ⟨viewPlain none, fun r same => ?_⟩
      cases same
      exact ⟨ended.trans started, by simp [awaits?, none]⟩

theorem raiseComes (l : Level) (started : p.ended = false) (flag : Flag) :
    Comes (p.raise l flag) (p.view.bind (·.apply (.raise flag))) :=
  stepComes (·.raise l flag) (fun positional g => View.ofGivenRaise positional l g flag) started

theorem fillComes (started : p.ended = false) (slot : Slot) (text : String) :
    Comes (p.fill slot text) (p.view.bind (·.apply (.fill slot text))) :=
  stepComes (·.fill slot text) (fun positional g => View.ofGivenFill positional g slot text) started

theorem awaitAsks (started : p.ended = false) (slot : Slot) : Asks (p.await slot) slot p.view := by
  unfold await
  cases settles : p.settle with
  | error e =>
    rw [viewStuck settles]
    exact ⟨rfl, nofun⟩
  | ok q =>
    obtain ⟨none, ended, positional⟩ := settled settles
    rw [viewSettled settles, ← positional]
    refine ⟨viewPlain rfl, fun r same => ?_⟩
    cases same
    exact ⟨ended.trans started, rfl⟩

theorem placeView (l : Level) (word : String) :
    (p.place l word).toOption.bind view = p.view.bind (·.apply (.place word)) := by
  unfold place
  cases settles : p.settle with
  | error e =>
    rw [viewStuck settles]
    cases p.positional <;> rfl
  | ok q =>
    rw [viewSettled settles]
    cases positional : p.positional with
    | none => rfl
    | some slot => exact viewPending rfl

theorem placed {l : Level} {word : String} {q : Progress} (places : p.place l word = .ok q) :
    q.ended = p.ended ∧ q.awaits? = none := by
  unfold place at places
  cases positional : p.positional with
  | none => simp [positional] at places
  | some slot =>
    cases settles : p.settle with
    | error e => simp [positional, settles, bind, Except.bind] at places
    | ok r =>
      simp only [positional, settles] at places
      cases places
      exact ⟨(settled settles).2.1, rfl⟩

theorem allPlaced (l : Level) (words : List String) (ended : p.ended = true) :
    (p.readAll l words).toOption.bind view = p.view.bind (·.after (words.map .place)) := by
  induction words generalizing p with
  | nil =>
    cases seen : p.view <;> simp [readAll, seen, Except.toOption, View.after]
  | cons word rest ih =>
    have later : p.view.bind (·.after ((word :: rest).map .place)) =
        (p.view.bind (·.apply (.place word))).bind (·.after (rest.map .place)) := by
      simp only [List.map_cons, View.after, Option.bind_assoc]
    have reads : p.read l word = p.place l word := by simp [read, ended]
    rw [later, ← placeView, readAll, reads]
    cases places : p.place l word with
    | error e => rfl
    | ok q => exact ih ((placed places).1.trans ended)

end Progress

inductive Reads (v : Option View) (r : Except UsageProblem Progress) : WordKind → Prop where
  | unknown : r.toOption = none → Reads v r .unknown
  | whole {ds} : Progress.Comes r (v.bind (·.after ds)) → Reads v r (.whole ds)
  | asks {ds slot} : Progress.Asks r slot (v.bind (·.after ds)) → Reads v r (.asks ds slot)

theorem Reads.raising {v : Option View} {r : Except UsageProblem Progress} {flag : Flag}
    {kind : WordKind} (reads : Reads (v.bind (·.apply (.raise flag))) r kind) :
    Reads v r (kind.raising flag) := by
  have along (ds : List Deed) : (v.bind (·.apply (.raise flag))).bind (·.after ds) =
      v.bind (·.after (.raise flag :: ds)) := by
    simp only [Option.bind_assoc, View.after]
  cases reads with
  | unknown gone => exact .unknown gone
  | whole comes => exact .whole (along _ ▸ comes)
  | asks asks => exact .asks (along _ ▸ asks)

theorem Reads.failed {v : Option View} {r : Except UsageProblem Progress} {kind : WordKind}
    (reads : Reads v r kind) (e : UsageProblem) : Reads none (.error e) kind := by
  cases reads with
  | unknown => exact .unknown rfl
  | whole => exact .whole ⟨rfl, nofun⟩
  | asks => exact .asks ⟨rfl, nofun⟩

namespace Progress

variable {p : Progress}

theorem afterOne (v : Option View) (d : Deed) : v.bind (·.after [d]) = v.bind (·.apply d) := by
  simp [View.after]

theorem raiseReads (l : Level) (started : p.ended = false) (flag : Flag) :
    Reads p.view (p.raise l flag) (.whole [.raise flag]) :=
  .whole ((afterOne ..).symm ▸ raiseComes l started flag)

theorem fillReads (started : p.ended = false) (slot : Slot) (text : String) :
    Reads p.view (p.fill slot text) (.whole [.fill slot text]) :=
  .whole ((afterOne ..).symm ▸ fillComes started slot text)

theorem afterNothing (v : Option View) : v.bind (·.after []) = v := by
  cases v <;> rfl

theorem awaitReads (started : p.ended = false) (slot : Slot) :
    Reads p.view (p.await slot) (.asks [] slot) :=
  .asks ((afterNothing _).symm ▸ awaitAsks started slot)

theorem lettersRead (l : Level) (ready : p.Ready) (letters : List Char) :
    Reads p.view (p.readShort l letters) (l.lettersKind letters) := by
  induction letters generalizing p with
  | nil =>
    refine .whole ⟨(afterNothing _).symm, fun q same => ?_⟩
    cases same
    exact ready
  | cons c rest ih =>
    cases named : l.shortFlag? c with
    | some flag =>
      have comes := raiseComes l ready.1 flag
      simp only [readShort, Level.lettersKind, named]
      refine .raising ?_
      rw [← comes.view]
      cases raised : p.raise l flag with
      | error e => exact (ih ready).failed e
      | ok q => exact ih (comes.ready q raised)
    | none =>
      cases option : l.shortOption? c with
      | none =>
        simp only [readShort, Level.lettersKind, named, option]
        exact .unknown rfl
      | some slot =>
        cases rest with
        | nil =>
          simp only [readShort, Level.lettersKind, named, option]
          exact awaitReads ready.1 slot
        | cons d text =>
          by_cases equals : d = '='
          · subst equals
            simp only [readShort, Level.lettersKind, named, option]
            exact fillReads ready.1 slot _
          · simpa [readShort, Level.lettersKind, named, option, equals] using
              fillReads ready.1 slot (String.ofList (d :: text))

theorem nameRead (l : Level) (started : p.ended = false) (word : List Char) :
    Reads p.view (p.readLong l word) (l.nameKind word) := by
  cases named : l.longFlag? (String.ofList (word.takeWhile (· ≠ '='))) with
  | some flag =>
    cases value : word.dropWhile (· ≠ '=') with
    | nil =>
      simp only [readLong, Level.nameKind, named, value]
      exact raiseReads l started flag
    | cons =>
      simp only [readLong, Level.nameKind, named, value]
      exact .unknown rfl
  | none =>
    cases option : l.longOption? (String.ofList (word.takeWhile (· ≠ '='))) with
    | none =>
      simp only [readLong, Level.nameKind, named, option]
      exact .unknown rfl
    | some slot =>
      cases value : word.dropWhile (· ≠ '=') with
      | nil =>
        simp only [readLong, Level.nameKind, named, option, value]
        exact awaitReads started slot
      | cons =>
        simp only [readLong, Level.nameKind, named, option, value]
        exact fillReads started slot _

theorem readyStart (l : Level) : (Progress.start l).Ready := ⟨rfl, rfl⟩

theorem lettersStuck (l : Level) {e : UsageProblem} (stuck : p.settle = .error e) (c : Char)
    (rest : List Char) : (p.readShort l (c :: rest)).toOption = none := by
  unfold readShort
  split <;> [skip; split] <;>
    simp [raise, fill, await, stuck, bind, Except.bind, Except.toOption]

theorem nameStuck (l : Level) {e : UsageProblem} (stuck : p.settle = .error e)
    (word : List Char) : (p.readLong l word).toOption = none := by
  simp only [readLong]
  split <;> simp [raise, fill, await, stuck, bind, Except.bind, Except.toOption]

inductive Looks (l : Level) (word : String) : Prop where
  | ends (kind : l.wordKind word = .ends) (read : ∀ p : Progress, p.ended = false →
      p.read l word = .ok { p with ended := true })
  | text (kind : l.wordKind word = .text)
      (place : ∀ p : Progress, p.Ready → p.read l word = p.place l word)
      (keep : ∀ (p : Progress) (slot : Slot), p.ended = false → p.awaits? = some slot →
        p.read l word = .ok { p with pending := some (slot, some word) })
  | options
      (reads : ∀ p : Progress, p.Ready → Reads p.view (p.read l word) (l.wordKind word))
      (stuck : ∀ (p : Progress) (e : UsageProblem), p.ended = false → p.settle = .error e →
        (p.read l word).toOption = none)

theorem looks (l : Level) (word : String) : Looks l word := by
  fun_cases Level.wordKind l word with
  | case1 spelled =>
    exact .ends (by simp [Level.wordKind, spelled]) fun p started => by
      simp [read, started, spelled]
  | case2 name ends spelled =>
    have kind : l.wordKind word = l.nameKind name := by simp [Level.wordKind, spelled]
    have read (p : Progress) (started : p.ended = false) :
        p.read l word = p.readLong l name := by simp [read, started, spelled]
    exact .options (fun p ready => kind ▸ read p ready.1 ▸ nameRead l ready.1 name)
      fun p e started stuck => read p started ▸ nameStuck l stuck name
  | case3 c rest ends name spelled =>
    have kind : l.wordKind word = l.lettersKind (c :: rest) := by simp [Level.wordKind, spelled]
    have read (p : Progress) (started : p.ended = false) :
        p.read l word = p.readShort l (c :: rest) := by simp [read, started, spelled]
    exact .options (fun p ready => kind ▸ read p ready.1 ▸ lettersRead l ready (c :: rest))
      fun p e started stuck => read p started ▸ lettersStuck l stuck c rest
  | case4 ends name letters =>
    refine .text ?_ ?_ ?_
    · simp [Level.wordKind]
    · intro p ready
      simp [read, ready.1, ready.2]
    · intro p slot started awaits
      simp [read, started, awaits]

variable {l : Level} {word : String}

theorem readEnds (kind : l.wordKind word = .ends) (ready : p.Ready) :
    p.read l word = .ok { p with ended := true } := by
  cases looks l word with
  | ends _ read => exact read p ready.1
  | text text => simp [kind] at text
  | options reads => cases kind ▸ reads p ready

theorem readText (kind : l.wordKind word = .text) (ready : p.Ready) :
    p.read l word = p.place l word := by
  cases looks l word with
  | ends ends => simp [kind] at ends
  | text _ place => exact place p ready
  | options reads => cases kind ▸ reads p ready

theorem readOptions {kind : WordKind} (is : l.wordKind word = kind) (ready : p.Ready)
    (ends : kind ≠ .ends) (text : kind ≠ .text) : Reads p.view (p.read l word) kind := by
  cases looks l word with
  | ends kind => exact absurd (is.symm.trans kind) ends
  | text kind => exact absurd (is.symm.trans kind) text
  | options reads => exact is ▸ reads p ready

theorem readUnknown (kind : l.wordKind word = .unknown) (ready : p.Ready) :
    (p.read l word).toOption = none := by
  cases readOptions kind ready nofun nofun with
  | unknown gone => exact gone

theorem readWhole {ds : List Deed} (kind : l.wordKind word = .whole ds) (ready : p.Ready) :
    Comes (p.read l word) (p.view.bind (·.after ds)) := by
  cases readOptions kind ready nofun nofun with
  | whole comes => exact comes

theorem readAsks {ds : List Deed} {slot : Slot} (kind : l.wordKind word = .asks ds slot)
    (ready : p.Ready) : Asks (p.read l word) slot (p.view.bind (·.after ds)) := by
  cases readOptions kind ready nofun nofun with
  | asks asks => exact asks

theorem readPlaced (kind : l.wordKind word = .text) (ready : p.Ready) :
    Comes (p.read l word) (p.view.bind (·.after [.place word])) := by
  rw [readText kind ready, afterOne]
  exact ⟨placeView l word, fun q places => ⟨(placed places).1.trans ready.1, (placed places).2⟩⟩

theorem readAllCons (l : Level) (p : Progress) (word : String) (rest : List String) :
    p.readAll l (word :: rest) = p.read l word >>= (·.readAll l rest) := by
  rw [readAll]
  cases p.read l word <;> rfl

theorem Comes.onward {r : Except UsageProblem Progress} {v : Option View} (comes : Comes r v)
    {rest : List String} {f : View → Option View} (more : ∀ q : Progress, q.Ready →
      (q.readAll l rest).toOption.bind Progress.view = q.view.bind f) :
    (r >>= (·.readAll l rest)).toOption.bind Progress.view = v.bind f := by
  rw [← comes.view]
  cases r with
  | error e => rfl
  | ok q => exact more q (comes.ready q rfl)

theorem Asks.answered {r : Except UsageProblem Progress} {slot : Slot} {v : Option View}
    (asks : Asks r slot v) (kind : l.wordKind word = .text) :
    Comes (r >>= (·.read l word)) (v.bind (·.apply (.fill slot word))) := by
  cases r with
  | error e =>
    rw [← asks.view]
    exact ⟨rfl, nofun⟩
  | ok q =>
    obtain ⟨started, pending⟩ := asks.asking q rfl
    have keeps : q.read l word = .ok { q with pending := some (slot, some word) } := by
      cases looks l word with
      | ends ends => simp [kind] at ends
      | text _ _ keep => exact keep q slot started (by simp [awaits?, pending])
      | options reads => cases kind ▸ reads _ (readyStart l)
    have seen : v = some (.ofGiven q.positional q.given) := asks.view.symm.trans (viewPlain rfl)
    change Comes (q.read l word) _
    rw [keeps, seen]
    refine ⟨viewPending rfl, fun t same => ?_⟩
    cases same
    exact ⟨started, rfl⟩

theorem Asks.unanswered {r : Except UsageProblem Progress} {slot : Slot} {v : Option View}
    (asks : Asks r slot v) (other : l.wordKind word ≠ .text) (rest : List String) :
    (r >>= (·.readAll l (word :: rest))).toOption.bind Progress.view = none := by
  cases r with
  | error e => rfl
  | ok q =>
    obtain ⟨started, pending⟩ := asks.asking q rfl
    have stuck : q.settle = .error .invalidValue := by simp [settle, pending]
    change (q.readAll l (word :: rest)).toOption.bind Progress.view = none
    rw [readAllCons]
    cases looks l word with
    | ends _ read =>
      have unseen : Progress.view { q with ended := true } = none :=
        viewStuck (e := .invalidValue) (by simp [settle, pending])
      rw [read q started]
      exact (allPlaced l rest rfl).trans (by rw [unseen]; rfl)
    | text kind => exact absurd kind other
    | options _ gone =>
      cases read : q.read l word with
      | error e => rfl
      | ok t => simpa [read, Except.toOption] using gone q _ started stuck

theorem Asks.alone {r : Except UsageProblem Progress} {slot : Slot} {v : Option View}
    (asks : Asks r slot v) (l : Level) :
    (r >>= (·.readAll l [])).toOption.bind Progress.view = none := by
  cases r with
  | error e => rfl
  | ok q =>
    have pending := (asks.asking q rfl).2
    exact viewStuck (e := .invalidValue) (by simp [settle, pending])

theorem readOn (v : Option View) {ds : List Deed} {add : List Deed → List Deed}
    (adds : ∀ es, add es = ds ++ es) (more : Option (List Deed)) :
    (v.bind (·.after ds)).bind (fun w => more.bind w.after) =
      v.bind fun w => (more.map add).bind w.after := by
  cases more with
  | none => simp
  | some es => simp [adds, View.afterAppend, Option.bind_assoc]

/- All of the words. The induction is on how their deeds are told, so that an option and the value it
asks for are one step. -/
theorem readAllView (l : Level) (ready : p.Ready) (words : List String) :
    (p.readAll l words).toOption.bind view =
      p.view.bind fun v => (l.deeds words).bind v.after := by
  fun_induction Level.deeds l words generalizing p with
  | case1 => exact (afterNothing p.view).symm
  | case2 word rest kind =>
    rw [readAllCons, readEnds kind ready, ← viewEnded]
    exact allPlaced (p := { p with ended := true }) l rest rfl
  | case3 word rest kind ih =>
    rw [readAllCons, (readPlaced kind ready).onward fun q ready => ih ready]
    exact readOn _ (fun _ => rfl) _
  | case4 word rest kind =>
    simp only [readAllCons, Option.bind_none, Option.bind_fun_none]
    cases read : p.read l word with
    | error e => rfl
    | ok q => simpa [read, Except.toOption] using readUnknown kind ready
  | case5 word rest ds kind ih =>
    rw [readAllCons, (readWhole kind ready).onward fun q ready => ih ready]
    exact readOn _ (fun _ => rfl) _
  | case6 word ds slot kind =>
    simp only [readAllCons l p, (readAsks kind ready).alone, Option.bind_none, Option.bind_fun_none]
  | case7 word ds slot kind value rest text ih =>
    have twice : p.readAll l (word :: value :: rest) =
        (p.read l word >>= (·.read l value)) >>= (·.readAll l rest) := by
      rw [readAllCons, bind_assoc]
      exact bind_congr fun q => readAllCons l q value rest
    have along : (p.view.bind (·.after ds)).bind (·.apply (.fill slot value)) =
        p.view.bind (·.after (ds ++ [.fill slot value])) := by
      simp only [View.afterAppend, ← afterOne, Option.bind_assoc]
    rw [twice, ((readAsks kind ready).answered text).onward fun q ready => ih ready, along]
    exact readOn _ (fun es => by simp) _
  | case8 word ds slot kind value rest other =>
    rw [readAllCons, (readAsks kind ready).unanswered other]
    simp

end Progress

end StudyPlan
