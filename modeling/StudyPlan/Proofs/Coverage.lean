import Mathlib.Algebra.BigOperators.Group.List.Basic
import Mathlib.Algebra.GroupWithZero.Nat
import Mathlib.Data.Finset.Card
import StudyPlan.Proofs.Log
import StudyPlan.Proofs.Verdict

/-! The descriptions for all platforms together. Each pair of a trial and a platform that some entry
of it lists is used once, by the first such entry; so the studies are as many as there are pairs,
and an entry is left unused exactly when the entries in front of it take all its platforms. -/
namespace StudyPlan
open Scan Resolve

/- The study of the trial on the platform is made of its `i`-th entry, which is `e`. Entries may
say the same, so this is also a matter of which one the run reports. -/
structure TrialConfig.Uses (c : TrialConfig) (p : Platform) (name : String) (i : Nat)
    (e : PlatformEntry) : Prop where
  reported : Event.selected name i ∈ (c.run p).events
  written : ∃ d s, c.describe p = .ok d ∧ s ∈ d.studies ∧ s.name = name ∧
    List.Forall₂ (ExperimentOf p e) e.experiments s.experiments

def PlatformEntry.listed (entries : List PlatformEntry) (p : Platform) : Bool :=
  entries.any (p.tag ∈ ·.platforms)

namespace Told
variable {p : Platform} {trials : List (String × List PlatformEntry)} {studies : List Study}
  {events : List Event}

theorem reports (told : Told p trials studies events) (name : String) (i : Nat) :
    .selected name i ∈ events ↔
      ∃ entries e, (name, entries) ∈ trials ∧ First (p.tag ∈ ·.platforms) entries i e := by
  induction told with
  | nil => simp
  | @selected other entries rest j e s studies events first title written tail ih =>
    have block : .selected name i ∈ Event.selected other j ::
        e.experiments.map (.translating ·.name) ++ events ↔
          name = other ∧ i = j ∨ .selected name i ∈ events := by
      simp
    rw [block, ih]
    constructor
    · intro reported
      rcases reported with ⟨rfl, rfl⟩ | ⟨entries', e', member, again⟩
      · exact ⟨entries, e, by simp, first⟩
      · exact ⟨entries', e', by simp [member], again⟩
    · intro ⟨entries', e', member, again⟩
      rcases List.mem_cons.mp member with same | later
      · obtain ⟨rfl, rfl⟩ := Prod.mk.inj same
        exact .inl ⟨rfl, (firstUnique again first).1⟩
      · exact .inr ⟨entries', e', later, again⟩
  | @omitted other entries rest studies events unlisted tail ih =>
    have block : .selected name i ∈ Event.omitted other :: events ↔ .selected name i ∈ events := by
      simp
    rw [block, ih]
    constructor
    · intro ⟨entries', e', member, first⟩
      exact ⟨entries', e', by simp [member], first⟩
    · intro ⟨entries', e', member, first⟩
      rcases List.mem_cons.mp member with same | later
      · obtain ⟨rfl, rfl⟩ := Prod.mk.inj same
        exact absurd first.holds (unlisted e' (List.mem_of_getElem? first.here))
      · exact ⟨entries', e', later, first⟩

theorem makes (told : Told p trials studies events) {name : String} {entries : List PlatformEntry}
    {i : Nat} {e : PlatformEntry} (member : (name, entries) ∈ trials)
    (first : First (p.tag ∈ ·.platforms) entries i e) :
    ∃ s ∈ studies, s.name = name ∧
      List.Forall₂ (ExperimentOf p e) e.experiments s.experiments := by
  induction told with
  | nil => contradiction
  | @selected other entries' rest j d s studies events again title written tail ih =>
    rcases List.mem_cons.mp member with same | later
    · obtain ⟨rfl, rfl⟩ := Prod.mk.inj same
      obtain ⟨-, rfl⟩ := firstUnique first again
      exact ⟨s, by simp, title, written⟩
    · obtain ⟨s', inside, made⟩ := ih later
      exact ⟨s', by simp [inside], made⟩
  | omitted unlisted tail ih =>
    rcases List.mem_cons.mp member with same | later
    · obtain ⟨rfl, rfl⟩ := Prod.mk.inj same
      exact absurd first.holds (unlisted e (List.mem_of_getElem? first.here))
    · exact ih later

theorem named (told : Told p trials studies events) :
    (studies.map (·.name)).Sublist (trials.map Prod.fst) := by
  induction told with
  | nil => exact .slnil
  | selected first title written tail ih =>
    rw [List.map_cons, List.map_cons, title]
    exact ih.cons_cons _
  | omitted unlisted tail ih => exact ih.cons _

theorem sized (told : Told p trials studies events) :
    studies.length = trials.countP fun t => PlatformEntry.listed t.2 p := by
  induction told with
  | nil => rfl
  | @selected name entries rest i e s studies events first title written tail ih =>
    have listed : PlatformEntry.listed entries p = true := by
      have member := List.mem_of_getElem? first.here
      simpa [PlatformEntry.listed] using ⟨e, member, first.holds⟩
    simp [listed, ih]
  | @omitted name entries rest studies events unlisted tail ih =>
    have listed : PlatformEntry.listed entries p = false := by
      simpa [PlatformEntry.listed] using unlisted
    simp [listed, ih]

end Told

theorem onesCounted {α : Type} (test : α → Bool) (xs : List α) :
    (xs.map fun x => if test x then 1 else 0).sum = xs.countP test := by
  induction xs with
  | nil => rfl
  | cons x xs ih => rw [List.map_cons, List.sum_cons, ih, List.countP_cons, Nat.add_comm]

theorem pairsCounted {α β : Type} (related : α → β → Bool) (xs : List α) (ys : List β) :
    (xs.map fun x => ys.countP (related x)).sum = (ys.map fun y => xs.countP (related · y)).sum := by
  induction ys with
  | nil => simp
  | cons y ys ih =>
    simp only [List.countP_cons, List.sum_map_add, List.map_cons, List.sum_cons, ih, onesCounted]
    exact Nat.add_comm _ _

theorem platformsCounted {entries : List PlatformEntry} (valid : ∀ e ∈ entries, e.Valid) :
    Platform.all.countP (PlatformEntry.listed entries) =
      (entries.flatMap (·.platforms)).toFinset.card := by
  let tags := (Platform.all.filter (PlatformEntry.listed entries)).map Platform.tag
  have once : tags.Nodup := by
    have all : Platform.all.Nodup := by decide
    exact (all.filter _).map fun _ _ same => TagTable.tagInjective same
  have same : tags.toFinset = (entries.flatMap (·.platforms)).toFinset := by
    ext tag
    simp only [tags, List.mem_toFinset, List.mem_map, List.mem_filter, List.mem_flatMap,
      PlatformEntry.listed, List.any_eq_true, decide_eq_true_eq]
    constructor
    · intro ⟨p, ⟨_, e, member, listed⟩, same⟩
      exact ⟨e, member, same ▸ listed⟩
    · intro ⟨e, member, listed⟩
      obtain ⟨p, inside, rfl⟩ := List.mem_map.mp ((valid e member).platforms tag listed)
      exact ⟨p, ⟨inside, e, member, listed⟩, rfl⟩
  rw [← same, List.toFinset_card_of_nodup once, List.length_map, List.countP_eq_length_filter]

namespace TrialConfig
variable {c : TrialConfig}

theorem toldAll (valid : c.Valid) (p : Platform) : ∃ d events omitted,
    c.describe p = .ok d ∧ (c.run p).events = events ++ [.resolved d.size omitted] ∧
      Told p c.trials.entries d.studies events := by
  have described := describedEach valid p
  obtain ⟨result, events⟩ := runOk described
  exact ⟨_, _, _, described, events, Told.ofRun result⟩

theorem usesFirst (valid : c.Valid) (distinct : c.trials.WellFormed) {name : String}
    {entries : List PlatformEntry} (member : (name, entries) ∈ c.trials.entries) {i : Nat}
    {e : PlatformEntry} (here : entries[i]? = some e) (p : Platform) :
    c.Uses p name i e ↔ First (p.tag ∈ ·.platforms) entries i e := by
  obtain ⟨d, events, omitted, described, whole, told⟩ := toldAll valid p
  constructor
  · intro uses
    have reported : .selected name i ∈ events := by simpa [whole] using uses.reported
    obtain ⟨entries', e', member', first⟩ := (told.reports name i).mp reported
    have found := OrderedMap.lookupExactly distinct |>.mpr member
    have found' := OrderedMap.lookupExactly distinct |>.mpr member'
    cases Option.some.inj (found.symm.trans found')
    cases Option.some.inj (here.symm.trans first.here)
    exact first
  · intro first
    obtain ⟨s, inside, title, written⟩ := told.makes member first
    have reported := (told.reports name i).mpr ⟨entries, e, member, first⟩
    exact ⟨by simp [whole, reported], d, s, described, inside, title, written⟩

theorem unusedTaken {entries : List PlatformEntry} {i : Nat} {e : PlatformEntry} (valid : e.Valid)
    (here : entries[i]? = some e) :
    (∀ p : Platform, ¬ First (p.tag ∈ ·.platforms) entries i e) ↔
      ∀ tag ∈ e.platforms, ∃ j d, j < i ∧ entries[j]? = some d ∧ tag ∈ d.platforms := by
  constructor
  · intro unused tag listed
    obtain ⟨p, -, rfl⟩ := List.mem_map.mp (valid.platforms tag listed)
    by_contra none
    refine unused p ⟨here, listed, ?_⟩
    intro j d lt found taken
    exact none ⟨j, d, lt, found, taken⟩
  · intro taken p first
    obtain ⟨j, d, lt, found, listed⟩ := taken _ first.holds
    exact first.before j d lt found listed

theorem studiesCounted (valid : c.Valid) {found : List (Platform × Description)}
    {ps : List Platform}
    (all : List.Forall₂ (fun p pair => p = pair.1 ∧ c.describe p = .ok pair.2) ps found) :
    found.map (·.2.size) =
      ps.map fun p => c.trials.entries.countP fun t => PlatformEntry.listed t.2 p := by
  induction all with
  | nil => rfl
  | @cons p pair ps found head tail ih =>
    obtain ⟨d, events, omitted, described, -, told⟩ := toldAll valid p
    cases Except.ok.inj (described.symm.trans head.2)
    rw [List.map_cons, List.map_cons, ih, ← told.sized]
    rfl

/-- A valid config has a description for every platform. A study is made of an entry exactly when
the entry is the first of its trial that lists the platform; each description has at most one
study of a trial; there are as many studies as trials have different platforms, taken together; and
an entry that has no part in any description has all its platforms in entries in front of it. -/
theorem describesPairsOnce (valid : c.Valid) (distinct : c.trials.WellFormed) :
    ∃ found, c.describeAll Platform.all = .ok found ∧
      List.Forall₂ (fun p pair => p = pair.1 ∧ c.describe p = .ok pair.2) Platform.all found ∧
      (∀ name entries i e, (name, entries) ∈ c.trials.entries → entries[i]? = some e →
        (∀ p, c.Uses p name i e ↔ First (p.tag ∈ ·.platforms) entries i e) ∧
        ((∀ p, ¬ c.Uses p name i e) ↔
          ∀ tag ∈ e.platforms, ∃ j d, j < i ∧ entries[j]? = some d ∧ tag ∈ d.platforms)) ∧
      (∀ p d, c.describe p = .ok d → (d.studies.map (·.name)).Nodup ∧
        (d.studies.map (·.name)).Sublist c.names) ∧
      (found.map (·.2.size)).sum =
        (c.trials.entries.map fun t => (t.2.flatMap (·.platforms)).toFinset.card).sum := by
  cases described : c.describeAll Platform.all with
  | error v =>
    obtain ⟨found, passed⟩ := checkedPasses.mpr valid
    have refused := (describeAllRefuses.mp described).2
    simp [passed] at refused
  | ok found =>
    have all := describeAllAccepts.mp described
    refine ⟨found, rfl, all, ?_, ?_, ?_⟩
    · intro name entries i e member here
      have uses := usesFirst valid distinct member here
      refine ⟨uses, ?_⟩
      simp only [uses]
      exact unusedTaken ((valid _ member).2 e (List.mem_of_getElem? here)) here
    · intro p d describes
      obtain ⟨d', events, omitted, describes', -, told⟩ := toldAll valid p
      cases Except.ok.inj (describes.symm.trans describes')
      exact ⟨distinct.sublist told.named, told.named⟩
    · have counted := pairsCounted (fun p (t : String × List PlatformEntry) =>
        PlatformEntry.listed t.2 p) Platform.all c.trials.entries
      rw [studiesCounted valid all, counted]
      refine congrArg List.sum (List.map_congr_left ?_)
      intro t member
      exact platformsCounted (valid t member).2

def layers : List PlatformEntry :=
  [.plain ["mac", "mac"] ["x"], .plain ["windows", "mac"] ["x"], .plain ["mac", "windows"] ["x"]]

def overlapping : TrialConfig := ⟨⟨[("A", layers), ("B", [.plain ["ios", "mac"] ["x"]])]⟩⟩

theorem overlappingOnce : overlapping.Valid ∧ overlapping.trials.WellFormed ∧
    (∃ found, overlapping.describeAll Platform.all = .ok found ∧
      (found.map (·.2.size)).sum = 4) ∧
    overlapping.Uses .windows "A" 1 (.plain ["windows", "mac"] ["x"]) ∧
    ∀ p, ¬ overlapping.Uses p "A" 2 (.plain ["mac", "windows"] ["x"]) := by
  have valid : overlapping.Valid := by decide
  have distinct : overlapping.trials.WellFormed := by decide
  obtain ⟨found, described, -, uses, -, counted⟩ := describesPairsOnce valid distinct
  have member : ("A", layers) ∈ overlapping.trials.entries := by decide
  refine ⟨valid, distinct, ⟨found, described, counted.trans (by decide)⟩, ?_, ?_⟩
  · refine ((uses "A" layers 1 _ member rfl).1 .windows).mpr ⟨rfl, by decide, ?_⟩
    intro j e lt here
    obtain rfl : j = 0 := by omega
    cases Option.some.inj here
    decide
  · refine (uses "A" layers 2 _ member rfl).2.mpr ?_
    intro tag listed
    refine ⟨1, _, by decide, rfl, ?_⟩
    exact List.Perm.mem_iff (List.Perm.swap _ _ _) |>.mp listed

end TrialConfig
end StudyPlan
