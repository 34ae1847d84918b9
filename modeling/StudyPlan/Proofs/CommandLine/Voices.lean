import Mathlib.Data.List.Induction
import StudyPlan.Proofs.CommandLine.Outcome

/-! The flags for how much is written. A level counts its own, and the ones behind the command stand
for all of them; so it matters where they stand as soon as they stand at both levels. -/
namespace StudyPlan

namespace View

def voiced (v : View) (louder quiet : Nat) : View :=
  (v.tallied .verbose louder).tallied .quiet quiet

def Voiceless (v : View) : Prop := v.tally .verbose = 0 ∧ v.tally .quiet = 0

theorem voicedLouder (v : View) (louder quiet : Nat) :
    (v.voiced louder quiet).apply (.raise .verbose) =
      some (v.voiced (min (louder + 1) 255) quiet) := by
  simp [apply, mayRaise, voiced, tallied, Function.update_comm]

theorem voicedQuiet (v : View) (louder quiet : Nat) :
    (v.voiced louder quiet).apply (.raise .quiet) =
      if quiet = 0 then some (v.voiced louder 1) else none := by
  by_cases fresh : quiet = 0 <;> simp [apply, mayRaise, voiced, tallied, fresh]

theorem voicedNone {v : View} (voiceless : v.Voiceless) : v.voiced 0 0 = v := by
  have louder : v.tallied .verbose 0 = v := by simp [tallied, ← voiceless.1]
  rw [voiced, louder]
  simp [tallied, ← voiceless.2]

theorem voicesAfter {v : View} (voiceless : v.Voiceless) {voices : List Deed}
    (only : ∀ d ∈ voices, d.isVoice) :
    v.after voices = if voices.count (.raise .quiet) ≤ 1 then
      some (v.voiced (min (voices.count (.raise .verbose)) 255) (voices.count (.raise .quiet)))
    else none := by
  induction voices using List.reverseRecOn with
  | nil => simp [after, voicedNone voiceless]
  | append_singleton voices d ih =>
    have last : d = .raise .verbose ∨ d = .raise .quiet := by
      simpa [Deed.isVoice] using only d (by simp)
    have alone (w : View) : w.after [d] = w.apply d := by simp [after]
    rw [afterAppend, ih fun e mem => only e (by simp [mem])]
    simp only [alone]
    cases last with
    | inl louder =>
      subst louder
      have counted : min (min (voices.count (.raise .verbose)) 255 + 1) 255 =
          min (voices.count (.raise .verbose) + 1) 255 := by omega
      by_cases once : voices.count (.raise .quiet) ≤ 1 <;> simp [once, voicedLouder, counted]
    | inr quiet =>
      subst quiet
      by_cases fresh : voices.count (.raise .quiet) = 0
      · simp [fresh, voicedQuiet]
      · by_cases once : voices.count (.raise .quiet) ≤ 1
        · simp [once, fresh, voicedQuiet]
        · have twice : ¬ voices.count (.raise .quiet) + 1 ≤ 1 := by omega
          simp [once, twice]

theorem voicesKept {voices : List Deed} (only : ∀ d ∈ voices, d.isVoice) :
    voices.filter (·.isVoice) = voices ∧ voices.filter (!·.isVoice) = [] :=
  ⟨List.filter_eq_self.mpr only, by simpa using only⟩

theorem othersKept {others : List Deed} (none : ∀ d ∈ others, d.isVoice = false) :
    others.filter (!·.isVoice) = others ∧ others.filter (·.isVoice) = [] :=
  ⟨List.filter_eq_self.mpr (by simpa using none), by simpa using none⟩

theorem voicesLater (v : View) {voices others : List Deed} (only : ∀ d ∈ voices, d.isVoice)
    (none : ∀ d ∈ others, d.isVoice = false) :
    v.after (voices ++ others) = (v.after others).bind (·.after voices) := by
  rw [voicesLast, List.filter_append, List.filter_append, (voicesKept only).1, (voicesKept only).2,
    (othersKept none).1, (othersKept none).2, List.nil_append, List.append_nil]

theorem voiceAbsent {deeds : List Deed} (none : ∀ d ∈ deeds, d.isVoice = false) {flag : Flag}
    (voice : (Deed.raise flag).isVoice) : .raise flag ∉ deeds :=
  fun mem => absurd voice (by simp [none _ mem])

theorem voicelessAfter {v w : View} (voiceless : v.Voiceless) {deeds : List Deed}
    (none : ∀ d ∈ deeds, d.isVoice = false) (done : v.after deeds = some w) : w.Voiceless :=
  ⟨(afterKeeps (voiceAbsent none rfl) done).trans voiceless.1,
    (afterKeeps (voiceAbsent none rfl) done).trans voiceless.2⟩

theorem voicedGood (environment : Option String) (l : Level) {v : View} (voiceless : v.Voiceless)
    (louder quiet : Nat) : (v.voiced louder quiet).good environment l =
      (!(0 < quiet && 0 < louder) && v.good environment l) := by
  have silent : v.has .quiet = false := by simp [has, voiceless.2]
  have quieted : (v.voiced louder quiet).has .quiet = decide (0 < quiet) := by
    simp [has, voiced, tallied]
  have louded : (v.voiced louder quiet).has .verbose = decide (0 < louder) := by
    simp [has, voiced, tallied]
  have values : (v.voiced louder quiet).value = v.value := rfl
  simp only [good, closes, passes, silent, quieted, louded, values, Bool.false_and, Bool.not_false,
    Bool.true_and, Bool.and_left_comm]

theorem combineMoved (environment : Option String) {top inner : View} (before : top.Voiceless)
    (behind : inner.Voiceless) (louder quiet : Nat) :
    combine environment (top.voiced louder quiet) inner =
      combine environment top (inner.voiced louder quiet) := by
  funext command
  simp [combine, has, voiced, tallied, before.1, before.2, behind.1, behind.2]

theorem outcomeMoved (environment : Option String) (name : CommandName) {top inner : View}
    (before : top.Voiceless) (behind : inner.Voiceless) (louder quiet : Nat) :
    outcome environment name (some (top.voiced louder quiet)) (some inner) =
      outcome environment name (some top) (some (inner.voiced louder quiet)) := by
  have same : (inner.voiced louder quiet).command? name = inner.command? name := by
    cases name <;> simp [command?, has, voiced, tallied]
  have front := voicedGood environment .top before louder quiet
  have back := voicedGood environment (.command name) behind louder quiet
  simp only [outcome, Option.filter_some, front, back]
  cases !(decide (0 < quiet) && decide (0 < louder)) with
  | false => simp
  | true =>
    cases inner.good environment (.command name) <;> cases top.good environment .top <;>
      simp [same, combineMoved environment before behind]

end View

namespace Level

theorem shortSame (name : CommandName) (c : Char) :
    (command name).shortFlag? c = top.shortFlag? c := by
  cases name with
  | transform => simp [shortFlag?, flags, Flag.short?]
  | _ => rfl

theorem longKept (name : CommandName) {word : String} {flag : Flag}
    (found : top.longFlag? word = some flag) : (command name).longFlag? word = some flag := by
  cases name with
  | transform =>
    have other : word ≠ "bare-symbols" := by
      intro same
      subst same
      simp [longFlag?, flags, Flag.long] at found
    rw [← found]
    simp [longFlag?, flags, Flag.long, other.symm]
  | _ => exact found

theorem fillSilent {slot : Slot} {text : String} (voices : ∀ d ∈ [Deed.fill slot text], d.isVoice) :
    False := by
  simp [Deed.isVoice] at voices

theorem lettersKept (name : CommandName) {letters : List Char} {ds : List Deed}
    (kind : top.lettersKind letters = .whole ds) (voices : ∀ d ∈ ds, d.isVoice) :
    (command name).lettersKind letters = .whole ds := by
  induction letters generalizing ds with
  | nil => exact kind
  | cons c rest ih =>
    unfold lettersKind at kind ⊢
    rw [shortSame]
    cases found : top.shortFlag? c with
    | some flag =>
      simp only [found] at kind ⊢
      cases later : top.lettersKind rest with
      | whole es =>
        rw [later] at kind
        cases kind
        rw [ih later fun d mem => voices d (by simp [mem])]
        rfl
      | _ => simp [later, WordKind.raising] at kind
    | none =>
      simp only [found] at kind
      split at kind
      · contradiction
      · contradiction
      · cases kind
        exact (fillSilent voices).elim
      · cases kind
        exact (fillSilent voices).elim

theorem nameKept (name : CommandName) {word : List Char} {ds : List Deed}
    (kind : top.nameKind word = .whole ds) (voices : ∀ d ∈ ds, d.isVoice) :
    (command name).nameKind word = .whole ds := by
  simp only [nameKind] at kind ⊢
  split at kind
  · rename_i found ended
    cases kind
    rw [longKept name found, ended]
  · contradiction
  · contradiction
  · cases kind
    exact (fillSilent voices).elim
  · contradiction

theorem kindKept (name : CommandName) {word : String} {ds : List Deed}
    (kind : top.wordKind word = .whole ds) (voices : ∀ d ∈ ds, d.isVoice) :
    (command name).wordKind word = .whole ds := by
  unfold wordKind at kind ⊢
  split at kind
  · contradiction
  · exact nameKept name kind voices
  · exact lettersKept name kind voices
  · contradiction

end Level

def voiced (word : String) : Bool :=
  match Level.top.wordKind word with
  | .whole ds => ds.all (·.isVoice)
  | _ => false

def silent (word : String) : Bool :=
  match Level.top.wordKind word with
  | .whole ds => ds.all (!·.isVoice)
  | .asks ds _ => ds.all (!·.isVoice)
  | _ => true

theorem optionsApart {front : List String} {ds : List Deed} (options : Options .top front ds)
    (apart : ∀ word ∈ front, voiced word ∨ silent word) (name : CommandName) :
    Options .top (front.filter (!voiced ·)) (ds.filter (!·.isVoice)) ∧
      Options (.command name) (front.filter voiced) (ds.filter (·.isVoice)) := by
  induction options with
  | nil => exact ⟨.nil, .nil⟩
  | @whole word ds words es kind more ih =>
    obtain ⟨others, voices⟩ := ih fun later mem => apart later (by simp [mem])
    have said : voiced word = ds.all (·.isVoice) := by simp [voiced, kind]
    cases loud : voiced word with
    | true =>
      have all : ∀ d ∈ ds, d.isVoice := by simpa [loud] using said
      simp only [List.filter_cons, List.filter_append, loud, View.voicesKept all]
      exact ⟨others, .whole (Level.kindKept name kind all) voices⟩
    | false =>
      have none : ∀ d ∈ ds, d.isVoice = false := by
        simpa [loud, silent, kind] using apart word (by simp)
      simp only [List.filter_cons, List.filter_append, loud, View.othersKept none]
      exact ⟨.whole kind others, voices⟩
  | @valued word ds slot value words es kind text more ih =>
    obtain ⟨others, voices⟩ := ih fun later mem => apart later (by simp [mem])
    have loud : voiced word = false := by simp [voiced, kind]
    have plain : voiced value = false := by simp [voiced, text]
    have none : ∀ d ∈ ds, d.isVoice = false := by
      simpa [loud, silent, kind] using apart word (by simp)
    have filled : (Deed.fill slot value).isVoice = false := by simp [Deed.isVoice]
    simp only [List.filter_cons, List.filter_append, loud, plain, filled, View.othersKept none]
    exact ⟨.valued kind text others, voices⟩

namespace CommandLine

theorem startVoiceless (positional : Option Slot) : (View.ofGiven positional {}).Voiceless :=
  ⟨rfl, rfl⟩

theorem parseMoved (environment : Option String) {front : List String} {ds : List Deed}
    (options : Options .top front ds) (apart : ∀ word ∈ front, voiced word ∨ silent word)
    (name : CommandName) {rest : List String}
    (voiceless : ∀ es, (Level.command name).deeds rest = some es → ∀ d ∈ es, d.isVoice = false) :
    (parse environment (front ++ name.word :: rest)).toOption =
      (parse environment (front.filter (!voiced ·) ++
        name.word :: (front.filter voiced ++ rest))).toOption := by
  obtain ⟨others, voices⟩ := optionsApart options apart name
  rw [parseOptions environment options, parseOptions environment others, voices.deeds,
    View.voicesLast]
  have only : ∀ d ∈ ds.filter (·.isVoice), d.isVoice := by simp
  have none : ∀ d ∈ ds.filter (!·.isVoice), d.isVoice = false := by simp
  generalize ds.filter (·.isVoice) = voices at only
  cases fronts : (View.ofGiven .none {}).after (ds.filter (!·.isVoice)) with
  | none => simp [View.outcomeNone]
  | some top =>
    have front := View.voicelessAfter (startVoiceless .none) none fronts
    cases reads : (Level.command name).deeds rest with
    | none => simp [View.outcome]
    | some es =>
      simp only [Option.bind_some, Option.map_some, View.voicesLater _ only (voiceless es reads)]
      cases behinds : (View.ofGiven (Level.command name).positional? {}).after es with
      | none => simp [View.outcome]
      | some inner =>
        have behind := View.voicelessAfter (startVoiceless _) (voiceless es reads) behinds
        rw [Option.bind_some, View.voicesAfter front only, View.voicesAfter behind only]
        split
        · exact View.outcomeMoved environment name front behind ..
        · simp [View.outcome]

end CommandLine

structure Heard (deeds : List Deed) (v : View) : Prop where
  louder : v.tally .verbose = min (deeds.count (.raise .verbose)) 255
  quiet : v.has .quiet = true ↔ .raise .quiet ∈ deeds
  once : deeds.count (.raise .quiet) ≤ 1
  apart : .raise .quiet ∈ deeds → .raise .verbose ∉ deeds

theorem heard {environment : Option String} {l : Level} {v w : View} {deeds : List Deed}
    (voiceless : v.Voiceless) (done : v.after deeds = some w) (good : w.good environment l) :
    Heard deeds w := by
  have once : v.tally .quiet + deeds.count (.raise .quiet) ≤ 1 :=
    View.raisedOnce done nofun (by simp [voiceless.2])
  have louder : w.tally .verbose = min (v.tally .verbose + deeds.count (.raise .verbose)) 255 :=
    View.tallyAll done (by simp [voiceless.1])
  have quiet : w.tally .quiet = min (v.tally .quiet + deeds.count (.raise .quiet)) 255 :=
    View.tallyAll done (by simp [voiceless.2])
  rw [voiceless.1, Nat.zero_add] at louder
  rw [voiceless.2, Nat.zero_add] at once quiet
  have has (flag : Flag) (counts : w.tally flag = min (deeds.count (.raise flag)) 255) :
      w.has flag = true ↔ .raise flag ∈ deeds := by
    rw [View.has, counts, decide_eq_true_iff, ← List.count_pos_iff]
    omega
  refine ⟨louder, has .quiet quiet, once, fun quieted louded => ?_⟩
  have passes : ¬ (w.has .quiet = true ∧ w.has .verbose = true) := by
    intro both
    simp [View.good, View.passes, both] at good
  exact passes ⟨(has .quiet quiet).mpr quieted, (has .verbose louder).mpr louded⟩

namespace CommandLine

inductive Told : List String → CommandName → List Deed → List Deed → Prop where
  | told {q front name rest before behind}
      (splits : splitAtCommand (.start .top) (front ++ name.word :: rest) =
        .ok (q, some (name, rest)))
      (fronts : Level.top.deeds front = some before)
      (rests : (Level.command name).deeds rest = some behind) :
      Told (front ++ name.word :: rest) name before behind

structure Counted (before behind : List Deed) (a : Arguments) : Prop where
  louder : a.verbosity = min 255 (if behind.count (.raise .verbose) = 0 then
    before.count (.raise .verbose) else behind.count (.raise .verbose))
  quiet : a.quiet = true ↔ .raise .quiet ∈ before ∨ .raise .quiet ∈ behind
  once : ∀ deeds ∈ [before, behind], deeds.count (.raise .quiet) ≤ 1
  apart : ∀ deeds ∈ [before, behind], .raise .quiet ∈ deeds → .raise .verbose ∉ deeds

theorem counted {environment : Option String} {words : List String} {a : Arguments}
    (parses : parse environment words = .ok a) :
    ∃ name before behind, Told words name before behind ∧ Counted before behind a := by
  have comes : (parse environment words).toOption = some a := by rw [parses]; rfl
  cases splits : splitAtCommand (.start .top) words with
  | error e =>
    unfold parse at parses
    rw [splits] at parses
    contradiction
  | ok found =>
    obtain ⟨q, named⟩ := found
    cases named with
    | none =>
      unfold parse at parses
      rw [splits] at parses
      change (close environment q >>= fun _ => _) = _ at parses
      cases closes : close environment q <;> rw [closes] at parses <;> contradiction
    | some named =>
      obtain ⟨name, rest⟩ := named
      obtain ⟨front, is, reads⟩ := splitFound splits
      rw [parseView environment splits] at comes
      obtain ⟨top, inner, asked, tops, goodTop, inners, goodInner, rfl⟩ := View.outcomeParts comes
      have read : ((Progress.start .top).readAll .top front).toOption.bind Progress.view =
          some top := by
        rw [reads]
        exact tops
      obtain ⟨before, fronts, doneTop⟩ := readDeeds read
      obtain ⟨behind, rests, doneInner⟩ := readDeeds inners
      have atTop := heard (startVoiceless _) doneTop goodTop
      have atCommand := heard (startVoiceless _) doneInner goodInner
      subst is
      refine ⟨name, before, behind, .told splits fronts rests, ?_, ?_, ?_, ?_⟩
      · simp only [View.combine, atTop.louder, atCommand.louder]
        split <;> split <;> omega
      · simp [View.combine, atTop.quiet, atCommand.quiet, or_comm]
      · simp [atTop.once, atCommand.once]
      · simpa using ⟨atTop.apart, atCommand.apart⟩

theorem Counted.alone {before behind : List Deed} {a : Arguments}
    (counted : Counted before behind a)
    (alone : (∀ d ∈ before, d.isVoice = false) ∨ ∀ d ∈ behind, d.isVoice = false) :
    a.verbosity = min 255 ((before ++ behind).count (.raise .verbose)) ∧
      ¬ (a.quiet = true ∧ 0 < a.verbosity) := by
  have quieted {deeds : List Deed} (mem : deeds ∈ [before, behind])
      (heard : .raise .quiet ∈ deeds) : deeds.count (.raise .verbose) = 0 :=
    List.count_eq_zero.mpr (counted.apart deeds mem heard)
  rw [List.count_append, counted.louder]
  cases alone with
  | inl none =>
    have unraised : before.count (.raise .verbose) = 0 :=
      List.count_eq_zero.mpr (View.voiceAbsent none rfl)
    refine ⟨by split <;> omega, fun both => ?_⟩
    have heard := (counted.quiet.mp both.1).resolve_left (View.voiceAbsent none rfl)
    simp [unraised, quieted (by simp) heard] at both
  | inr none =>
    have unraised : behind.count (.raise .verbose) = 0 :=
      List.count_eq_zero.mpr (View.voiceAbsent none rfl)
    refine ⟨by rw [if_pos unraised, unraised]; rfl, fun both => ?_⟩
    have heard := (counted.quiet.mp both.1).resolve_right (View.voiceAbsent none rfl)
    simp [unraised, quieted (by simp) heard] at both

theorem acceptedOf {r : Except UsageProblem Arguments} {a : Arguments}
    (accepted : r.toOption = some a) : r = .ok a := by
  cases r with
  | error e => contradiction
  | ok b => exact congrArg Except.ok (Option.some.inj accepted)

/-- A level counts its own flags for how much is written. The ones for more output behind the
command stand for all of them, and being quiet at one level goes with more output at the other.
Where these flags stand at one level only, every one of them counts, and being quiet excludes more
output; and with none of them behind the command, they may all be moved there without a
difference. -/
theorem voicesByLevel (environment : Option String) :
    (∀ words a, parse environment words = .ok a →
      ∃ name before behind, Told words name before behind ∧ Counted before behind a ∧
        ((∀ d ∈ before, d.isVoice = false) ∨ (∀ d ∈ behind, d.isVoice = false) →
          a.verbosity = min 255 ((before ++ behind).count (.raise .verbose)) ∧
            ¬ (a.quiet = true ∧ 0 < a.verbosity))) ∧
    ∀ front ds name rest, Options .top front ds → (∀ word ∈ front, voiced word ∨ silent word) →
      (∀ es, (Level.command name).deeds rest = some es → ∀ d ∈ es, d.isVoice = false) →
      (parse environment (front ++ name.word :: rest)).toOption =
        (parse environment (front.filter (!voiced ·) ++
          name.word :: (front.filter voiced ++ rest))).toOption := by
  refine ⟨fun words a parses => ?_, fun front ds name rest options apart voiceless => ?_⟩
  · obtain ⟨name, before, behind, told, counts⟩ := counted parses
    exact ⟨name, before, behind, told, counts, counts.alone⟩
  · exact parseMoved environment options apart name voiceless

theorem voicesAroundPlatforms :
    parse none ["-v", "platforms", "-v"] = .ok ⟨1, false, none, none, false, .platforms⟩ ∧
    (∃ name before behind, Told ["-v", "platforms", "-v"] name before behind ∧
      Counted before behind ⟨1, false, none, none, false, .platforms⟩ ∧
      ((∀ d ∈ before, d.isVoice = false) ∨ (∀ d ∈ behind, d.isVoice = false) →
        1 = min 255 ((before ++ behind).count (.raise .verbose)) ∧ ¬ (false = true ∧ 0 < 1))) ∧
    (parse none ["-v", "-o", "json", "-v", "platforms", "--no-color"]).toOption =
      (parse none ["-o", "json", "platforms", "-v", "-v", "--no-color"]).toOption := by
  have louder : Level.top.wordKind "-v" = .whole [.raise .verbose] := rfl
  have output : Level.top.wordKind "-o" = .asks [] .output := rfl
  have parses : parse none ["-v", "platforms", "-v"] =
      .ok ⟨1, false, none, none, false, .platforms⟩ :=
    acceptedOf ((parseOptions none (.whole louder .nil) .platforms ["-v"]).trans rfl)
  have options : Options .top ["-v", "-o", "json", "-v"]
      [.raise .verbose, .fill .output "json", .raise .verbose] :=
    .whole louder (.valued output rfl (.whole louder .nil))
  have behind : (Level.command .platforms).deeds ["--no-color"] = some [.raise .noColor] := rfl
  have moved := (voicesByLevel none).2 ["-v", "-o", "json", "-v"] _ .platforms ["--no-color"]
    options (by decide) (by simp [behind, Deed.isVoice])
  exact ⟨parses, (voicesByLevel none).1 _ _ parses, moved⟩

theorem voicesLost :
    (parse none ["-v", "platforms", "-v"]).toOption =
      some ⟨1, false, none, none, false, .platforms⟩ ∧
    (parse none ["platforms", "-v", "-v"]).toOption =
      some ⟨2, false, none, none, false, .platforms⟩ ∧
    (parse none ["-q", "platforms", "-v"]).toOption =
      some ⟨1, true, none, none, false, .platforms⟩ ∧
    (parse none ["platforms", "-q", "-v"]).toOption = none := by
  have louder : Level.top.wordKind "-v" = .whole [.raise .verbose] := rfl
  have quiet : Level.top.wordKind "-q" = .whole [.raise .quiet] := rfl
  refine ⟨?_, ?_, ?_, ?_⟩
  · exact (parseOptions none (.whole louder .nil) .platforms ["-v"]).trans rfl
  · exact (parseOptions none .nil .platforms ["-v", "-v"]).trans rfl
  · exact (parseOptions none (.whole quiet .nil) .platforms ["-v"]).trans rfl
  · exact (parseOptions none .nil .platforms ["-q", "-v"]).trans rfl

end CommandLine

end StudyPlan
