import Mathlib.Logic.Relation
import StudyPlan.Proofs.Description

/-! What the description for a platform depends on. Of each trial that is the first entry that
lists the platform, and of this entry all but its platforms: the other entries may be changed,
moved, added or removed, as long as the config stays valid. -/
namespace StudyPlan
open Scan Resolve

namespace PlatformEntry

/- No entry of either list is for the platform, or the first ones that are differ at most in
their platforms. -/
inductive UsedAlike (p : Platform) (entries entries' : List PlatformEntry) : Prop where
  | unlisted (none : ∀ e ∈ entries, p.tag ∉ e.platforms)
      (none' : ∀ e ∈ entries', p.tag ∉ e.platforms) : UsedAlike p entries entries'
  | listed {i i' : Nat} {e e' : PlatformEntry} (first : First (p.tag ∈ ·.platforms) entries i e)
      (first' : First (p.tag ∈ ·.platforms) entries' i' e')
      (formFactors : e.formFactors = e'.formFactors)
      (lowEnd : e.isLowEndDevice = e'.isLowEndDevice)
      (experiments : e.experiments = e'.experiments) : UsedAlike p entries entries'

def content (e : PlatformEntry) : List String × Option Bool × List Experiment :=
  (e.formFactors, e.isLowEndDevice, e.experiments)

def used? (p : Platform) (entries : List PlatformEntry) : Option PlatformEntry :=
  entries.find? (p.tag ∈ ·.platforms)

theorem usedFirst {p : Platform} {entries : List PlatformEntry} {e : PlatformEntry}
    (h : used? p entries = some e) : ∃ i, First (p.tag ∈ ·.platforms) entries i e := by
  obtain ⟨i, first⟩ := firstFound h
  exact ⟨i, firstCongr (by simp) first⟩

theorem usedAlike {p : Platform} {entries entries' : List PlatformEntry}
    (same : (used? p entries).map content = (used? p entries').map content) :
    UsedAlike p entries entries' := by
  cases here : used? p entries with
  | none =>
    have there : used? p entries' = none := by simpa [here] using same.symm
    refine .unlisted ?_ ?_
    · simpa using List.find?_eq_none.mp here
    · simpa using List.find?_eq_none.mp there
  | some e =>
    rw [here] at same
    obtain ⟨e', there, alike⟩ := Option.map_eq_some_iff.mp same.symm
    obtain ⟨i, first⟩ := usedFirst here
    obtain ⟨i', first'⟩ := usedFirst there
    simp only [content, Prod.mk.injEq] at alike
    exact .listed first first' alike.1.symm alike.2.1.symm alike.2.2.symm

def Unused (p : Platform) (before : List PlatformEntry) (e : PlatformEntry) : Prop :=
  p.tag ∈ e.platforms → ∃ d ∈ before, p.tag ∈ d.platforms

inductive Edit (p : Platform) : List PlatformEntry → List PlatformEntry → Prop where
  | retag {before after : List PlatformEntry} {e : PlatformEntry} {tags : List String}
      (same : p.tag ∈ tags ↔ p.tag ∈ e.platforms) :
      Edit p (before ++ e :: after) (before ++ { e with platforms := tags } :: after)
  | insert {before after : List PlatformEntry} {e : PlatformEntry} (unused : Unused p before e) :
      Edit p (before ++ after) (before ++ e :: after)
  | delete {before after : List PlatformEntry} {e : PlatformEntry} (unused : Unused p before e) :
      Edit p (before ++ e :: after) (before ++ after)
  | replace {before after : List PlatformEntry} {e e' : PlatformEntry}
      (unused : Unused p before e) (unused' : Unused p before e') :
      Edit p (before ++ e :: after) (before ++ e' :: after)

theorem unusedSkipped {p : Platform} {before : List PlatformEntry} {e : PlatformEntry}
    (unused : Unused p before e) (after : List PlatformEntry) :
    used? p (before ++ e :: after) = used? p (before ++ after) := by
  unfold used?
  rw [List.find?_append, List.find?_append, List.find?_cons]
  cases found : before.find? (p.tag ∈ ·.platforms) with
  | some d => rfl
  | none =>
    have unlisted : p.tag ∉ e.platforms := by
      intro listed
      obtain ⟨d, member, listed⟩ := unused listed
      exact absurd listed (by simpa using List.find?_eq_none.mp found d member)
    simp [unlisted]

theorem retagUsed {p : Platform} {e : PlatformEntry} {tags : List String}
    (same : p.tag ∈ tags ↔ p.tag ∈ e.platforms) (before after : List PlatformEntry) :
    (used? p (before ++ { e with platforms := tags } :: after)).map content =
      (used? p (before ++ e :: after)).map content := by
  unfold used?
  rw [List.find?_append, List.find?_append, List.find?_cons, List.find?_cons]
  by_cases listed : p.tag ∈ e.platforms
  · cases before.find? (p.tag ∈ ·.platforms) <;> simp [same, listed, content]
  · simp [same, listed]

theorem editUsed {p : Platform} {entries entries' : List PlatformEntry}
    (edit : Edit p entries entries') :
    (used? p entries).map content = (used? p entries').map content := by
  cases edit with
  | retag same => exact (retagUsed same _ _).symm
  | insert unused => rw [unusedSkipped unused]
  | delete unused => rw [unusedSkipped unused]
  | replace unused unused' => rw [unusedSkipped unused, unusedSkipped unused']

end PlatformEntry

open PlatformEntry

def TrialConfig.AlikeFor (p : Platform) (c c' : TrialConfig) : Prop :=
  List.Forall₂ (fun t t' => t.1 = t'.1 ∧ UsedAlike p t.2 t'.2) c.trials.entries c'.trials.entries

inductive TrialConfig.EditedFor (p : Platform) : TrialConfig → TrialConfig → Prop where
  | trial {before after : List (String × List PlatformEntry)} {name : String}
      {entries entries' : List PlatformEntry} (edit : Edit p entries entries') :
      EditedFor p ⟨⟨before ++ (name, entries) :: after⟩⟩ ⟨⟨before ++ (name, entries') :: after⟩⟩

theorem studyAlike {p : Platform} {name : String} {entries entries' : List PlatformEntry}
    (alike : UsedAlike p entries entries') {s : Study} (study : StudyOf p name entries s) :
    StudyOf p name entries' s := by
  obtain ⟨title, j, d, chosen, written⟩ := study
  cases alike with
  | unlisted none _ => exact absurd chosen.holds (none d (List.mem_of_getElem? chosen.here))
  | @listed i i' e e' first first' formFactors lowEnd experiments =>
    obtain ⟨-, rfl⟩ := firstUnique first chosen
    refine ⟨title, i', e', first', ?_⟩
    rw [← experiments]
    refine written.imp ?_
    intro x y of
    exact { of with
      lowEnd := lowEnd ▸ of.lowEnd
      formFactors := formFactors ▸ of.formFactors }

theorem studiesAlike {p : Platform} {trials trials' : List (String × List PlatformEntry)}
    (alike : List.Forall₂ (fun t t' => t.1 = t'.1 ∧ UsedAlike p t.2 t'.2) trials trials')
    {studies : List Study} (written : StudiesOf p trials studies) :
    StudiesOf p trials' studies := by
  induction alike generalizing studies with
  | nil => exact written
  | @cons t t' rest rest' head tail ih =>
    obtain ⟨name, entries'⟩ := t'
    cases written with
    | kept study others =>
      obtain ⟨rfl, used⟩ := head
      exact .kept (studyAlike used study) (ih others)
    | omitted unlisted others =>
      refine .omitted ?_ (ih others)
      cases head.2 with
      | unlisted _ none' => exact none'
      | listed first =>
        exact absurd first.holds (unlisted _ (List.mem_of_getElem? first.here))

namespace TrialConfig

theorem describedBy {c : TrialConfig} (valid : c.Valid) (p : Platform) :
    ∃ d, c.describe p = .ok d ∧
      ∀ studies, StudiesOf p c.trials.entries studies ↔ studies = d.studies := by
  obtain ⟨found, passed⟩ := checkedPasses.mpr valid
  refine ⟨⟨assemble p found⟩, by rw [describeChecked, passed]; rfl, ?_⟩
  intro studies
  rw [studiesWritten (checkedAccepted.mp passed), eq_comm]

theorem editsAlike {p : Platform} {c c' : TrialConfig}
    (edited : Relation.ReflTransGen (EditedFor p) c c') : c.AlikeFor p c' := by
  have same : c.trials.entries.map (fun t => (t.1, (used? p t.2).map content)) =
      c'.trials.entries.map fun t => (t.1, (used? p t.2).map content) := by
    induction edited with
    | refl => rfl
    | tail _ last ih =>
      rw [ih]
      cases last with
      | trial edit => simp [editUsed edit]
  have each := List.forall₂_map_right_iff.mp
    (List.forall₂_map_left_iff.mp (List.forall₂_eq_eq_eq ▸ same))
  exact each.imp fun t t' same => ⟨(Prod.mk.inj same).1, usedAlike (Prod.mk.inj same).2⟩

/-- On a platform two valid configs have one description when the entries that they use there are
alike; so changes to other entries, and to tags of other platforms, are not seen there. -/
theorem usedEntriesDecide {p : Platform} {c c' : TrialConfig} (valid : c.Valid)
    (valid' : c'.Valid) :
    (c.AlikeFor p c' → ∃ d, c.describe p = .ok d ∧ c'.describe p = .ok d) ∧
      (Relation.ReflTransGen (EditedFor p) c c' →
        ∃ d, c.describe p = .ok d ∧ c'.describe p = .ok d) := by
  have alone : c.AlikeFor p c' → ∃ d, c.describe p = .ok d ∧ c'.describe p = .ok d := by
    intro alike
    obtain ⟨d, described, written⟩ := describedBy valid p
    obtain ⟨d', described', written'⟩ := describedBy valid' p
    have same := (written' d.studies).mp (studiesAlike alike ((written d.studies).mpr rfl))
    refine ⟨d, described, ?_⟩
    rw [described', Except.ok.injEq, Description.mk.injEq, same]
  exact ⟨alone, fun edited => alone (editsAlike edited)⟩

/- For windows only the second entry of the first trial is used; `rearranged` keeps that one, with
other tags beside the one for windows, and has another entry in front of it and none behind. -/

def layeredEntry (tags : List String) : PlatformEntry where
  platforms := tags
  formFactors := ["phone"]
  isLowEndDevice := some false
  experiments := [{ name := "used", params := some ⟨[("key", "")]⟩ }]

def twoTrials (entries : List PlatformEntry) : TrialConfig :=
  ⟨⟨[("T", entries), ("U", [.plain ["ios"] ["other"]])]⟩⟩

def layered : TrialConfig :=
  twoTrials [.plain ["mac"] ["early"], layeredEntry ["mac", "windows"], .plain ["windows"] ["late"]]

def rearranged : TrialConfig :=
  twoTrials [.plain ["linux"] ["new"], layeredEntry ["windows", "ios", "windows"]]

theorem layeredEdited : Relation.ReflTransGen (EditedFor .windows) layered rearranged := by
  let new : PlatformEntry := .plain ["linux"] ["new"]
  let middle := layeredEntry ["mac", "windows"]
  let late : PlatformEntry := .plain ["windows"] ["late"]
  have edited : ∀ {entries entries'}, Edit .windows entries entries' →
      EditedFor .windows (twoTrials entries) (twoTrials entries') :=
    fun edit => @EditedFor.trial .windows [] _ "T" _ _ edit
  have replaced : EditedFor .windows layered (twoTrials [new, middle, late]) :=
    edited <| @Edit.replace .windows [] _ _ _ (by unfold Unused; decide) (by unfold Unused; decide)
  have deleted : EditedFor .windows (twoTrials [new, middle, late]) (twoTrials [new, middle]) :=
    edited <| @Edit.delete .windows [new, middle] [] late (by unfold Unused; decide)
  have retagged : EditedFor .windows (twoTrials [new, middle]) rearranged :=
    edited <| @Edit.retag .windows [new] [] middle _ (by decide)
  exact ((Relation.ReflTransGen.single replaced).tail deleted).tail retagged

theorem rearrangedAlike : layered.Valid ∧ rearranged.Valid ∧ layered.AlikeFor .windows rearranged ∧
    Relation.ReflTransGen (EditedFor .windows) layered rearranged ∧
    ∃ d, layered.describe .windows = .ok d ∧ rearranged.describe .windows = .ok d := by
  have valid : layered.Valid := by decide
  have valid' : rearranged.Valid := by decide
  have alike := editsAlike layeredEdited
  exact ⟨valid, valid', alike, layeredEdited, (usedEntriesDecide valid valid').1 alike⟩

end TrialConfig
end StudyPlan
