import StudyPlan.Resolve
import StudyPlan.Proofs.Scan

/-! What a config has to keep, and that the checks of the resolution accept exactly that.
Resolving for a platform and checking alone both go through `checked`; they differ in
what they make of a config that passes. -/
namespace StudyPlan
open Scan

structure PlatformEntry.Valid (e : PlatformEntry) : Prop where
  declared : e.platforms ≠ []
  platforms : ∀ t ∈ e.platforms, t ∈ TagTable.tags Platform
  formFactors : ∀ t ∈ e.formFactors, t ∈ TagTable.tags FormFactor
  populated : e.experiments ≠ []

instance (e : PlatformEntry) : Decidable e.Valid :=
  decidable_of_iff (e.platforms ≠ [] ∧ (∀ t ∈ e.platforms, t ∈ TagTable.tags Platform) ∧
      (∀ t ∈ e.formFactors, t ∈ TagTable.tags FormFactor) ∧ e.experiments ≠ [])
    ⟨fun h => ⟨h.1, h.2.1, h.2.2.1, h.2.2.2⟩,
      fun h => ⟨h.declared, h.platforms, h.formFactors, h.populated⟩⟩

def PlatformEntry.AllValid (entries : List PlatformEntry) : Prop :=
  entries ≠ [] ∧ ∀ e ∈ entries, e.Valid

instance (entries : List PlatformEntry) : Decidable (PlatformEntry.AllValid entries) := by
  unfold PlatformEntry.AllValid; infer_instance

def TrialConfig.Valid (c : TrialConfig) : Prop :=
  ∀ t ∈ c.trials.entries, PlatformEntry.AllValid t.2

instance (c : TrialConfig) : Decidable c.Valid := by
  unfold TrialConfig.Valid; infer_instance

namespace TagTable
variable {α : Type} [TagTable α]

theorem tagFound {t : String} {x : α} (h : ofTag? t = some x) : tag x = t := by
  simpa using List.find?_some h

def unknown (α : Type) [TagTable α] (t : String) : UnknownTag := ⟨kind α, t, tags α⟩

theorem allListed {texts : List String} (h : ∀ t ∈ texts, t ∈ tags α) :
    ∃ xs : List α, xs.map tag = texts := by
  induction texts with
  | nil => exact ⟨[], rfl⟩
  | cons t rest ih =>
    obtain ⟨x, _, same⟩ := List.mem_map.mp (h t (by simp))
    obtain ⟨xs, found⟩ := ih fun u member => h u (List.mem_cons_of_mem t member)
    exact ⟨x :: xs, by simp [same, found]⟩

variable [Lawful α]

theorem tagInjective {x y : α} (h : tag x = tag y) : x = y := by
  have left := Lawful.found x
  rw [h, Lawful.found y] at left
  exact (Option.some.inj left).symm

theorem tagListed (x : α) : tag x ∈ tags α :=
  List.mem_map.mpr ⟨x, List.mem_of_find?_eq_some (Lawful.found x), rfl⟩

theorem mappedListed {xs : List α} {texts : List String} (h : xs.map tag = texts) :
    ∀ t ∈ texts, t ∈ tags α := by
  intro t member
  rw [← h] at member
  obtain ⟨x, _, rfl⟩ := List.mem_map.mp member
  exact tagListed x

theorem parseAccepted {t : String} {x : α} : parse t = .ok x ↔ tag x = t := by
  unfold parse
  constructor
  · intro h
    split at h <;> try contradiction
    rename_i found
    cases Except.ok.inj h
    exact tagFound found
  · rintro rfl
    simp [Lawful.found x]

theorem parseRefused {t : String} {u : UnknownTag} :
    (parse t : Except UnknownTag α) = .error u ↔ t ∉ tags α ∧ unknown α t = u := by
  cases found : (ofTag? t : Option α) with
  | some x =>
    have listed : t ∈ tags α := tagFound found ▸ tagListed x
    simp [parse, found, listed]
  | none =>
    have absent : t ∉ tags α := by
      intro listed
      obtain ⟨x, _, same⟩ := List.mem_map.mp listed
      rw [← same, Lawful.found x] at found
      contradiction
    simp [parse, found, absent, unknown]

end TagTable

namespace Resolve
variable {α : Type} [TagTable α]

def tagAt (α : Type) [TagTable α] (path : SchemaPath) (rule : String) (t : String × Nat) :
    Except Violation α :=
  (TagTable.parse t.1).mapError fun u => u.toViolation (path.index t.2).text rule

def entryAt (path : SchemaPath) (t : PlatformEntry × Nat) : Except Violation ResolvedEntry :=
  entry (path.index t.2) t.2 t.1

theorem tagsScanned (path : SchemaPath) (rule : String) (i : Nat) (texts : List String) :
    tags path rule i texts = (texts.zipIdx i).mapM (tagAt α path rule) := by
  induction texts generalizing i with
  | nil => rfl
  | cons text rest ih =>
    rw [List.zipIdx_cons, List.mapM_cons, tags, ih, tagAt]
    cases TagTable.parse (α := α) text with
    | error u => rfl
    | ok tag => cases (rest.zipIdx (i + 1)).mapM (tagAt α path rule) <;> rfl

theorem entriesScanned (path : SchemaPath) (i : Nat) (entries : List PlatformEntry) :
    entriesFrom path i entries = (entries.zipIdx i).mapM (entryAt path) := by
  induction entries generalizing i with
  | nil => rfl
  | cons e rest ih =>
    rw [List.zipIdx_cons, List.mapM_cons, entriesFrom, ih, entryAt]
    cases entry (path.index i) i e with
    | error v => rfl
    | ok resolved => cases (rest.zipIdx (i + 1)).mapM (entryAt path) <;> rfl

variable [TagTable.Lawful α]

theorem tagAtAccepted {path : SchemaPath} {rule : String} {t : String × Nat} {x : α} :
    tagAt α path rule t = .ok x ↔ TagTable.tag x = t.1 := by
  rw [← TagTable.parseAccepted, tagAt]
  cases (TagTable.parse t.1 : Except UnknownTag α) <;> simp [Except.mapError]

theorem tagAtRefused {path : SchemaPath} {rule : String} {t : String × Nat} {v : Violation} :
    tagAt α path rule t = .error v ↔ t.1 ∉ TagTable.tags α ∧
      (TagTable.unknown α t.1).toViolation (path.index t.2).text rule = v := by
  cases here : (TagTable.parse t.1 : Except UnknownTag α) with
  | ok x =>
    have listed := TagTable.parseAccepted.mp here ▸ TagTable.tagListed x
    simp [tagAt, here, Except.mapError, listed]
  | error u =>
    obtain ⟨absent, rfl⟩ := TagTable.parseRefused.mp here
    simp [tagAt, here, Except.mapError, absent]

theorem tagsAccepted {path : SchemaPath} {rule : String} {i : Nat} {texts : List String}
    {found : List α} : tags path rule i texts = .ok found ↔ found.map TagTable.tag = texts := by
  simp only [tagsScanned, readAll, tagAtAccepted]
  induction texts generalizing i found with
  | nil => cases found <;> simp
  | cons text rest ih =>
    cases found with
    | nil => simp
    | cons x found => simp [ih]

theorem tagsRefused {path : SchemaPath} {rule : String} {texts : List String} {v : Violation}
    (h : tags (α := α) path rule 0 texts = .error v) :
    ∃ j t, First (· ∉ TagTable.tags α) texts j t ∧
      (TagTable.unknown α t).toViolation (path.index j).text rule = v := by
  rw [tagsScanned] at h
  obtain ⟨j, ⟨t, k⟩, first, refused⟩ := readRefused h
  obtain ⟨absent, same⟩ := tagAtRefused.mp refused
  obtain ⟨rfl, here, _, before⟩ := firstPlaced first
  rw [Nat.zero_add] at same
  refine ⟨j, t, ⟨here, absent, ?_⟩, same⟩
  intro l y lt found absent
  exact before l y lt found ⟨_, tagAtRefused.mpr ⟨absent, rfl⟩⟩

structure Resolved (i : Nat) (e : PlatformEntry) (r : ResolvedEntry) : Prop where
  index : r.index = i
  declared : e.platforms ≠ []
  platforms : r.platforms.map Platform.tag = e.platforms
  formFactors : r.formFactors.map FormFactor.tag = e.formFactors
  lowEnd : r.isLowEndDevice = .ofOption e.isLowEndDevice
  experiments : r.experiments = e.experiments
  populated : e.experiments ≠ []

theorem entryChecks (path : SchemaPath) (i : Nat) (e : PlatformEntry) :
    entry path i e =
      if e.platforms = [] then
        .error (.emptyList (path.child "platforms") "platform config declares no platforms"
          "platform")
      else
        match tags (path.child "platforms") "platform_tag" 0 e.platforms with
        | .error v => .error v
        | .ok platforms =>
          match tags (path.child "form_factors") "form_factor_tag" 0 e.formFactors with
          | .error v => .error v
          | .ok formFactors =>
            if e.experiments = [] then
              .error (.emptyList (path.child "experiments")
                "platform config declares no experiments" "experiment")
            else
              .ok ⟨i, platforms, formFactors, .ofOption e.isLowEndDevice, e.experiments⟩ := by
  unfold entry
  simp only [List.isEmpty_iff]
  by_cases declared : e.platforms = []
  · rw [if_pos declared, if_pos declared]; rfl
  rw [if_neg declared, if_neg declared]
  cases tags (α := Platform) (path.child "platforms") "platform_tag" 0 e.platforms with
  | error v => rfl
  | ok platforms =>
    cases tags (α := FormFactor) (path.child "form_factors") "form_factor_tag" 0
        e.formFactors with
    | error v => rfl
    | ok formFactors =>
      by_cases populated : e.experiments = []
      · simp only [if_pos populated]; rfl
      · simp only [if_neg populated]; rfl

theorem entryAccepted {path : SchemaPath} {i : Nat} {e : PlatformEntry} {r : ResolvedEntry} :
    entry path i e = .ok r ↔ Resolved i e r := by
  rw [entryChecks]
  constructor
  · intro h
    split at h <;> try contradiction
    rename_i declared
    split at h <;> try contradiction
    rename_i platforms hp
    split at h <;> try contradiction
    rename_i formFactors hf
    split at h <;> try contradiction
    rename_i populated
    cases Except.ok.inj h
    exact ⟨rfl, declared, tagsAccepted.mp hp, tagsAccepted.mp hf, rfl, rfl, populated⟩
  · rintro ⟨rfl, declared, platforms, formFactors, lowEnd, experiments, populated⟩
    rw [if_neg declared, tagsAccepted.mpr platforms, tagsAccepted.mpr formFactors]
    simp only [if_neg populated, ← lowEnd]
    rw [← experiments]

theorem entryResolves {e : PlatformEntry} (i : Nat) : (∃ r, Resolved i e r) ↔ e.Valid := by
  constructor
  · rintro ⟨r, h⟩
    exact ⟨h.declared, TagTable.mappedListed h.platforms, TagTable.mappedListed h.formFactors,
      h.populated⟩
  · rintro ⟨declared, platforms, formFactors, populated⟩
    obtain ⟨ps, hp⟩ := TagTable.allListed platforms
    obtain ⟨fs, hf⟩ := TagTable.allListed formFactors
    exact ⟨⟨i, ps, fs, .ofOption e.isLowEndDevice, e.experiments⟩,
      rfl, declared, hp, hf, rfl, rfl, populated⟩

theorem entryFails {path : SchemaPath} {i : Nat} {e : PlatformEntry} :
    (∃ v, entry path i e = .error v) ↔ ¬ e.Valid := by
  rw [← entryResolves i]
  simp only [← @entryAccepted path]
  cases entry path i e <;> simp

def ResolvedAll (entries : List PlatformEntry) (rs : List ResolvedEntry) : Prop :=
  entries ≠ [] ∧ List.Forall₂ (fun t r => Resolved t.2 t.1 r) entries.zipIdx rs

theorem trialAccepted {name : String} {entries : List PlatformEntry} {rs : List ResolvedEntry} :
    trial name entries = .ok rs ↔ ResolvedAll entries rs := by
  unfold trial ResolvedAll
  by_cases empty : entries = []
  · simp [empty]
  · simp only [List.isEmpty_iff, if_neg empty, entriesScanned, readAll, entryAt, entryAccepted]
    simp [empty]

theorem trialResolves {entries : List PlatformEntry} :
    (∃ rs, ResolvedAll entries rs) ↔ PlatformEntry.AllValid entries := by
  have each : ∀ (xs : List PlatformEntry) (i : Nat),
      (∃ rs, List.Forall₂ (fun t r => Resolved t.2 t.1 r) (xs.zipIdx i) rs) ↔
        ∀ e ∈ xs, e.Valid := by
    intro xs
    induction xs with
    | nil => intro i; simp
    | cons e rest ih =>
      intro i
      rw [List.zipIdx_cons, List.forall_mem_cons, ← entryResolves i, ← ih (i + 1)]
      constructor
      · rintro ⟨rs, h⟩
        cases h with
        | cons head tail => exact ⟨⟨_, head⟩, _, tail⟩
      · rintro ⟨⟨r, head⟩, rs, tail⟩
        exact ⟨r :: rs, .cons head tail⟩
  unfold ResolvedAll PlatformEntry.AllValid
  rw [← each entries 0, exists_and_left]

def trialAt (t : String × List PlatformEntry) : Except Violation (String × List ResolvedEntry) :=
  (trial t.1 t.2).map (t.1, ·)

def checked (trials : List (String × List PlatformEntry)) :
    Except Violation (List (String × List ResolvedEntry)) := trials.mapM trialAt

theorem trialFails {t : String × List PlatformEntry} :
    (∃ v, trialAt t = .error v) ↔ ¬ PlatformEntry.AllValid t.2 := by
  rw [← trialResolves]
  simp only [← @trialAccepted t.1, trialAt]
  cases trial t.1 t.2 <;> simp [Except.map]

theorem checkedCons (name : String) (entries : List PlatformEntry)
    (rest : List (String × List PlatformEntry)) :
    checked ((name, entries) :: rest) =
      match trial name entries with
      | .error v => .error v
      | .ok rs => (checked rest).map ((name, rs) :: ·) := by
  rw [checked, List.mapM_cons, trialAt]
  cases trial name entries with
  | error v => rfl
  | ok rs => unfold checked; cases rest.mapM trialAt <;> rfl

theorem checkedAccepted {trials : List (String × List PlatformEntry)}
    {found : List (String × List ResolvedEntry)} :
    checked trials = .ok found ↔
      List.Forall₂ (fun t r => t.1 = r.1 ∧ ResolvedAll t.2 r.2) trials found := by
  have each : ∀ (t : String × List PlatformEntry) (r : String × List ResolvedEntry),
      trialAt t = .ok r ↔ t.1 = r.1 ∧ ResolvedAll t.2 r.2 := by
    intro t r
    rw [← @trialAccepted t.1, trialAt]
    cases trial t.1 t.2 <;> simp [Except.map, Prod.ext_iff]
  simp only [checked, readAll, each]

theorem checkedPasses {trials : List (String × List PlatformEntry)} :
    (∃ found, checked trials = .ok found) ↔ ∀ t ∈ trials, PlatformEntry.AllValid t.2 := by
  simp only [checkedAccepted]
  induction trials with
  | nil => simp
  | cons t rest ih =>
    rw [List.forall_mem_cons, ← trialResolves, ← ih]
    constructor
    · rintro ⟨found, h⟩
      cases h with
      | cons head tail => exact ⟨⟨_, head.2⟩, _, tail⟩
    · rintro ⟨⟨rs, head⟩, found, tail⟩
      exact ⟨(t.1, rs) :: found, .cons ⟨rfl, head⟩ tail⟩

def assemble (p : Platform) (trials : List (String × List ResolvedEntry)) : List Study :=
  trials.filterMap fun t => (select p t.2).map (study p t.1)

theorem studiesChecked (p : Platform) (trials : List (String × List PlatformEntry)) :
    (studies p trials).result = (checked trials).map (assemble p) := by
  induction trials with
  | nil => rfl
  | cons t rest ih =>
    obtain ⟨name, entries⟩ := t
    rw [checkedCons, studies]
    cases trial name entries with
    | error v => rfl
    | ok rs =>
      cases more : checked rest with
      | error v =>
        rw [more] at ih
        cases chosen : select p rs <;> simp [chosen, ih, Except.map]
      | ok found =>
        rw [more] at ih
        cases chosen : select p rs <;> simp [chosen, ih, assemble, Except.map]

end Resolve

namespace TrialConfig
open Resolve

theorem validateChecked (c : TrialConfig) :
    c.validate = (checked c.trials.entries).map fun _ => () := by
  unfold validate
  induction c.trials.entries with
  | nil => rfl
  | cons t rest ih =>
    obtain ⟨name, entries⟩ := t
    rw [checkedCons, validateTrials]
    cases trial name entries with
    | error v => rfl
    | ok rs => simp only [ih]; cases checked rest <;> rfl

theorem describeChecked (c : TrialConfig) (p : Platform) :
    c.describe p = (checked c.trials.entries).map fun found => ⟨assemble p found⟩ := by
  have result := studiesChecked p c.trials.entries
  unfold describe run
  cases here : checked c.trials.entries <;> rw [here] at result <;> simp [result, Except.map]

end TrialConfig
end StudyPlan
