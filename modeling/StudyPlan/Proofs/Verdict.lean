import StudyPlan.Proofs.Checking

/-! Which configs are refused, and with which violation: that of the first defect in
document order. The order is that of trials, entries, checks and tags; it is said here
without the resolution, from the places alone. -/
namespace StudyPlan
open Scan Resolve

inductive Fault where
  | noPlatforms
  | platformTag (j : Nat) (tag : String)
  | formFactorTag (j : Nat) (tag : String)
  | noExperiments
  deriving DecidableEq, Repr

namespace Fault

def check : Fault → Nat
  | noPlatforms => 0
  | platformTag .. => 1
  | formFactorTag .. => 2
  | noExperiments => 3

def tagPlace : Fault → Nat
  | platformTag j _ => j
  | formFactorTag j _ => j
  | _ => 0

def unknownTag (α : Type) [TagTable α] (path tag rule : String) : Violation :=
  let accepted := ", ".intercalate (TagTable.tags α)
  ⟨path, "unknown " ++ TagTable.kind α ++ " tag '" ++ tag ++ "' (expected one of: " ++ accepted ++
    ")", some ⟨rule, "one of: " ++ accepted, tag⟩⟩

def violation (place : String) : Fault → Violation
  | noPlatforms =>
    ⟨place ++ ".platforms", "platform config declares no platforms",
      some ⟨"non_empty", "at least one platform", "an empty list"⟩⟩
  | platformTag j tag =>
    unknownTag Platform (place ++ ".platforms" ++ "[" ++ toString j ++ "]") tag "platform_tag"
  | formFactorTag j tag =>
    unknownTag FormFactor (place ++ ".form_factors" ++ "[" ++ toString j ++ "]") tag "form_factor_tag"
  | noExperiments =>
    ⟨place ++ ".experiments", "platform config declares no experiments",
      some ⟨"non_empty", "at least one experiment", "an empty list"⟩⟩

end Fault

inductive PlatformEntry.HasFault (e : PlatformEntry) : Fault → Prop where
  | noPlatforms (empty : e.platforms = []) : HasFault e .noPlatforms
  | platformTag {j tag} (here : e.platforms[j]? = some tag)
      (unknown : tag ∉ TagTable.tags Platform) : HasFault e (.platformTag j tag)
  | formFactorTag {j tag} (here : e.formFactors[j]? = some tag)
      (unknown : tag ∉ TagTable.tags FormFactor) : HasFault e (.formFactorTag j tag)
  | noExperiments (empty : e.experiments = []) : HasFault e .noExperiments

inductive Defect where
  | noEntries (t : Nat) (trial : String)
  | inEntry (t : Nat) (trial : String) (i : Nat) (fault : Fault)
  deriving DecidableEq, Repr

namespace Defect

def violation : Defect → Violation
  | noEntries _ trial =>
    ⟨"$." ++ trial, "trial has no platform configs",
      some ⟨"non_empty", "at least one platform config", "an empty list"⟩⟩
  | inEntry _ trial i fault => fault.violation ("$." ++ trial ++ "[" ++ toString i ++ "]")

def trialPlace : Defect → Nat
  | noEntries t _ => t
  | inEntry t _ _ _ => t

def entryPlace : Defect → Nat
  | noEntries _ _ => 0
  | inEntry _ _ i _ => i

def check : Defect → Nat
  | noEntries _ _ => 0
  | inEntry _ _ _ fault => fault.check

def tagPlace : Defect → Nat
  | noEntries _ _ => 0
  | inEntry _ _ _ fault => fault.tagPlace

def Before (a b : Defect) : Prop :=
  a.trialPlace < b.trialPlace ∨ a.trialPlace = b.trialPlace ∧
    (a.entryPlace < b.entryPlace ∨ a.entryPlace = b.entryPlace ∧
      (a.check < b.check ∨ a.check = b.check ∧ a.tagPlace < b.tagPlace))

theorem beforeAsymm {a b : Defect} (h : a.Before b) : ¬ b.Before a := by
  unfold Before at *
  omega

end Defect

namespace TrialConfig

inductive HasDefect (c : TrialConfig) : Defect → Prop where
  | noEntries {t trial} (here : c.trials.entries[t]? = some (trial, [])) :
      HasDefect c (.noEntries t trial)
  | inEntry {t trial entries i e fault} (here : c.trials.entries[t]? = some (trial, entries))
      (entry : entries[i]? = some e) (faulty : e.HasFault fault) :
      HasDefect c (.inEntry t trial i fault)

def FirstDefect (c : TrialConfig) (d : Defect) : Prop :=
  c.HasDefect d ∧ ∀ other, c.HasDefect other → other = d ∨ d.Before other

theorem firstDefectUnique {c : TrialConfig} {a b : Defect} (left : c.FirstDefect a)
    (right : c.FirstDefect b) : a = b := by
  rcases right.2 a left.1 with same | later
  · exact same
  · rcases left.2 b right.1 with same | earlier
    · exact same.symm
    · exact absurd earlier (Defect.beforeAsymm later)

end TrialConfig

namespace PlatformEntry

def FirstFault (e : PlatformEntry) (f : Fault) : Prop :=
  e.HasFault f ∧ ∀ other, e.HasFault other → other = f ∨ f.check < other.check ∨
    f.check = other.check ∧ f.tagPlace < other.tagPlace

theorem faultInvalid {e : PlatformEntry} {f : Fault} (h : e.HasFault f) : ¬ e.Valid := by
  intro valid
  cases h with
  | noPlatforms empty => exact valid.declared empty
  | platformTag here unknown => exact unknown (valid.platforms _ (List.mem_of_getElem? here))
  | formFactorTag here unknown => exact unknown (valid.formFactors _ (List.mem_of_getElem? here))
  | noExperiments empty => exact valid.populated empty

theorem firstNoPlatforms {e : PlatformEntry} (empty : e.platforms = []) :
    e.FirstFault .noPlatforms := by
  refine ⟨.noPlatforms empty, ?_⟩
  intro other faulty
  cases faulty <;> simp [Fault.check]

theorem firstPlatformTag {e : PlatformEntry} {j : Nat} {tag : String}
    (first : First (· ∉ TagTable.tags Platform) e.platforms j tag) :
    e.FirstFault (.platformTag j tag) := by
  refine ⟨.platformTag first.here first.holds, ?_⟩
  intro other faulty
  cases faulty with
  | noPlatforms empty => exact absurd first.here (by simp [empty])
  | platformTag here unknown =>
    rcases firstLeast first here unknown with ⟨rfl, rfl⟩ | later
    · exact .inl rfl
    · exact .inr (.inr ⟨rfl, later⟩)
  | _ => simp [Fault.check]

theorem firstFormFactorTag {e : PlatformEntry} {j : Nat} {tag : String}
    (declared : e.platforms ≠ []) (known : ∀ t ∈ e.platforms, t ∈ TagTable.tags Platform)
    (first : First (· ∉ TagTable.tags FormFactor) e.formFactors j tag) :
    e.FirstFault (.formFactorTag j tag) := by
  refine ⟨.formFactorTag first.here first.holds, ?_⟩
  intro other faulty
  cases faulty with
  | noPlatforms empty => exact absurd empty declared
  | platformTag here unknown => exact absurd (known _ (List.mem_of_getElem? here)) unknown
  | formFactorTag here unknown =>
    rcases firstLeast first here unknown with ⟨rfl, rfl⟩ | later
    · exact .inl rfl
    · exact .inr (.inr ⟨rfl, later⟩)
  | noExperiments empty => simp [Fault.check]

theorem firstNoExperiments {e : PlatformEntry} (declared : e.platforms ≠ [])
    (known : ∀ t ∈ e.platforms, t ∈ TagTable.tags Platform)
    (knownForms : ∀ t ∈ e.formFactors, t ∈ TagTable.tags FormFactor)
    (empty : e.experiments = []) : e.FirstFault .noExperiments := by
  refine ⟨.noExperiments empty, ?_⟩
  intro other faulty
  cases faulty with
  | noPlatforms empty => exact absurd empty declared
  | platformTag here unknown => exact absurd (known _ (List.mem_of_getElem? here)) unknown
  | formFactorTag here unknown => exact absurd (knownForms _ (List.mem_of_getElem? here)) unknown
  | noExperiments _ => exact .inl rfl

end PlatformEntry

namespace Resolve

theorem unknownWritten (α : Type) [TagTable α] (path tag rule : String) :
    (TagTable.unknown α tag).toViolation path rule = Fault.unknownTag α path tag rule := by
  simp [TagTable.unknown, UnknownTag.toViolation, UnknownTag.message, UnknownTag.acceptedList,
    Fault.unknownTag, String.append_assoc]

theorem listPath (path : SchemaPath) (name : String) (j : Nat) :
    ((path.child name).index j).text =
      path.text ++ ("." ++ name) ++ "[" ++ toString j ++ "]" := by
  simp [SchemaPath.childText, SchemaPath.indexText, String.append_assoc]

theorem trialPath (name : String) : (SchemaPath.root.child name).text = "$." ++ name := by
  rw [SchemaPath.childText, ← String.append_assoc]
  rfl

theorem entryPath (name : String) (i : Nat) :
    ((SchemaPath.root.child name).index i).text = "$." ++ name ++ "[" ++ toString i ++ "]" := by
  simp only [SchemaPath.indexText, trialPath, String.append_assoc]

theorem entryRefused {path : SchemaPath} {i : Nat} {e : PlatformEntry} {v : Violation}
    (h : entry path i e = .error v) : ∃ f, e.FirstFault f ∧ f.violation path.text = v := by
  rw [entryChecks] at h
  split at h
  · rename_i empty
    refine ⟨.noPlatforms, e.firstNoPlatforms empty, ?_⟩
    rw [← Except.error.inj h, Violation.emptyList, SchemaPath.childText]
    rfl
  rename_i declared
  split at h
  · rename_i v' refused
    obtain ⟨j, t, first, same⟩ := tagsRefused refused
    refine ⟨.platformTag j t, e.firstPlatformTag first, ?_⟩
    rw [← Except.error.inj h, ← same, unknownWritten, listPath]
    rfl
  rename_i platforms hp
  have known := TagTable.mappedListed (tagsAccepted.mp hp)
  split at h
  · rename_i v' refused
    obtain ⟨j, t, first, same⟩ := tagsRefused refused
    refine ⟨.formFactorTag j t, e.firstFormFactorTag declared known first, ?_⟩
    rw [← Except.error.inj h, ← same, unknownWritten, listPath]
    rfl
  rename_i formFactors hf
  have knownForms := TagTable.mappedListed (tagsAccepted.mp hf)
  split at h <;> try contradiction
  rename_i empty
  refine ⟨.noExperiments, e.firstNoExperiments declared known knownForms empty, ?_⟩
  rw [← Except.error.inj h, Violation.emptyList, SchemaPath.childText]
  rfl

theorem trialRefused {name : String} {entries : List PlatformEntry} {v : Violation}
    (h : trial name entries = .error v) :
    (entries = [] ∧ ∀ t, (Defect.noEntries t name).violation = v) ∨
      ∃ i e f, First (fun e => ¬ e.Valid) entries i e ∧ e.FirstFault f ∧
        ∀ t, (Defect.inEntry t name i f).violation = v := by
  unfold trial at h
  simp only [List.isEmpty_iff] at h
  split at h
  · rename_i empty
    refine .inl ⟨empty, ?_⟩
    intro t
    rw [← Except.error.inj h, Violation.emptyList, trialPath]
    rfl
  · rw [entriesScanned] at h
    obtain ⟨i, ⟨e, k⟩, first, refused⟩ := readRefused h
    obtain ⟨rfl, here, _, before⟩ := firstPlaced first
    obtain ⟨f, firstFault, same⟩ := entryRefused refused
    refine .inr ⟨i, e, f, ⟨here, e.faultInvalid firstFault.1, ?_⟩, firstFault, ?_⟩
    · intro j d lt found invalid
      exact before j d lt found (entryFails.mpr invalid)
    · intro t
      rw [← same, entryPath, Nat.zero_add]
      rfl

theorem checkedRefused {trials : List (String × List PlatformEntry)} {v : Violation}
    (h : checked trials = .error v) :
    ∃ t x, First (fun x => ¬ PlatformEntry.AllValid x.2) trials t x ∧
      trial x.1 x.2 = .error v := by
  obtain ⟨t, x, first, refused⟩ := readRefused h
  refine ⟨t, x, firstCongr (fun _ => trialFails.symm) first, ?_⟩
  cases here : trial x.1 x.2 with
  | error w => simpa [trialAt, here, Except.map] using refused
  | ok rs => simp [trialAt, here, Except.map] at refused

end Resolve

namespace TrialConfig

theorem defectInvalid {c : TrialConfig} {d : Defect} (h : c.HasDefect d) :
    ∃ x, c.trials.entries[d.trialPlace]? = some x ∧ ¬ PlatformEntry.AllValid x.2 := by
  cases h with
  | noEntries here => exact ⟨_, here, fun valid => valid.1 rfl⟩
  | inEntry here entry faulty =>
    refine ⟨_, here, fun valid => ?_⟩
    exact PlatformEntry.faultInvalid faulty (valid.2 _ (List.mem_of_getElem? entry))

theorem checkedAtFirst {c : TrialConfig} {v : Violation}
    (h : checked c.trials.entries = .error v) : ∃ d, c.FirstDefect d ∧ d.violation = v := by
  obtain ⟨t, ⟨trial, entries⟩, first, refused⟩ := checkedRefused h
  rcases trialRefused refused with ⟨empty, written⟩ | ⟨i, e, f, firstEntry, firstFault, written⟩
  · dsimp only at empty
    subst entries
    refine ⟨.noEntries t trial, ⟨.noEntries first.here, ?_⟩, written t⟩
    intro other defect
    obtain ⟨x, here, invalid⟩ := defectInvalid defect
    rcases firstLeast first here invalid with ⟨rfl, rfl⟩ | later
    · cases defect with
      | noEntries found =>
        cases Option.some.inj (here.symm.trans found)
        exact .inl rfl
      | inEntry found entry faulty =>
        cases Option.some.inj (here.symm.trans found)
        simp at entry
    · exact .inr (.inl later)
  · refine ⟨.inEntry t trial i f, ⟨.inEntry first.here firstEntry.here firstFault.1, ?_⟩,
      written t⟩
    intro other defect
    obtain ⟨x, here, invalid⟩ := defectInvalid defect
    rcases firstLeast first here invalid with ⟨rfl, rfl⟩ | later
    · cases defect with
      | noEntries found =>
        cases Option.some.inj (here.symm.trans found)
        exact absurd firstEntry.here (by simp)
      | inEntry found entry faulty =>
        cases Option.some.inj (here.symm.trans found)
        rcases firstLeast firstEntry entry (PlatformEntry.faultInvalid faulty) with ⟨rfl, rfl⟩ | later
        · rcases firstFault.2 _ faulty with rfl | later
          · exact .inl rfl
          · exact .inr (.inr ⟨rfl, .inr ⟨rfl, later⟩⟩)
        · exact .inr (.inr ⟨rfl, .inl later⟩)
    · exact .inr (.inl later)

theorem defectiveRejected {c : TrialConfig} :
    (∃ d, c.HasDefect d) ↔ ∃ v, checked c.trials.entries = .error v := by
  constructor
  · rintro ⟨d, defect⟩
    cases here : checked c.trials.entries with
    | error v => exact ⟨v, rfl⟩
    | ok found =>
      obtain ⟨x, at', invalid⟩ := defectInvalid defect
      exact absurd (checkedPasses.mp ⟨found, here⟩ x (List.mem_of_getElem? at')) invalid
  · rintro ⟨v, refused⟩
    obtain ⟨d, first, _⟩ := checkedAtFirst refused
    exact ⟨d, first.1⟩

theorem checkedRejects {c : TrialConfig} {v : Violation} :
    checked c.trials.entries = .error v ↔ ∃ d, c.FirstDefect d ∧ d.violation = v := by
  constructor
  · exact checkedAtFirst
  · rintro ⟨d, first, rfl⟩
    obtain ⟨v, refused⟩ := defectiveRejected.mp ⟨d, first.1⟩
    obtain ⟨other, firstOther, rfl⟩ := checkedAtFirst refused
    rw [refused, firstDefectUnique first firstOther]

theorem validateRefuses {c : TrialConfig} {v : Violation} :
    c.validate = .error v ↔ checked c.trials.entries = .error v := by
  rw [validateChecked]
  cases checked c.trials.entries <;> simp [Except.map]

theorem describeRefuses {c : TrialConfig} {p : Platform} {v : Violation} :
    c.describe p = .error v ↔ checked c.trials.entries = .error v := by
  rw [describeChecked]
  cases checked c.trials.entries <;> simp [Except.map]

/-- Checking and resolving reject exactly the configs with a defect, and report the first. -/
theorem rejectsAtFirstDefect (c : TrialConfig) (p : Platform) :
    (∀ v, c.validate = .error v ↔ ∃ d, c.FirstDefect d ∧ d.violation = v) ∧
    (∀ v, c.describe p = .error v ↔ ∃ d, c.FirstDefect d ∧ d.violation = v) ∧
    ((∃ d, c.HasDefect d) ↔ ∃ v, c.validate = .error v ∧ c.describe p = .error v) := by
  simp only [validateRefuses, describeRefuses, and_self]
  exact ⟨fun _ => checkedRejects, fun _ => checkedRejects, defectiveRejected⟩

def describeAt (c : TrialConfig) (p : Platform) : Except Violation (Platform × Description) :=
  (c.describe p).map (p, ·)

theorem describeAllRead (c : TrialConfig) (ps : List Platform) :
    c.describeAll ps = ps.mapM c.describeAt := by
  induction ps with
  | nil => rfl
  | cons p rest ih =>
    rw [List.mapM_cons, describeAll, describeAt, ih]
    cases c.describe p with
    | error v => rfl
    | ok d => cases rest.mapM c.describeAt <;> rfl

theorem describeAllAccepts {c : TrialConfig} {ps : List Platform}
    {found : List (Platform × Description)} :
    c.describeAll ps = .ok found ↔
      List.Forall₂ (fun p pair => p = pair.1 ∧ c.describe p = .ok pair.2) ps found := by
  have each : ∀ p pair, c.describeAt p = .ok pair ↔ p = pair.1 ∧ c.describe p = .ok pair.2 := by
    intro p pair
    rw [describeAt]
    cases c.describe p <;> simp [Except.map, Prod.ext_iff]
  simp only [describeAllRead, readAll, each]

theorem describeAllRefuses {c : TrialConfig} {ps : List Platform} {v : Violation} :
    c.describeAll ps = .error v ↔ ps ≠ [] ∧ checked c.trials.entries = .error v := by
  induction ps with
  | nil => simp [describeAll]
  | cons p rest ih =>
    rw [describeAll]
    cases here : checked c.trials.entries with
    | error w => simp [describeRefuses.mpr here]
    | ok found =>
      have described : c.describe p = .ok ⟨assemble p found⟩ := by
        rw [describeChecked, here]
        rfl
      rw [here] at ih
      cases tail : c.describeAll rest with
      | error w =>
        have differs : w ≠ v := by simpa [tail] using ih
        simp [described, Except.map, differs]
      | ok pairs => simp [described, Except.map]

theorem describeTagKnown (c : TrialConfig) (p : Platform) :
    c.describeTag p.tag = c.describe p := by
  have parsed : TagTable.parse p.tag = .ok p := TagTable.parseAccepted.mpr rfl
  unfold describeTag platform
  rw [parsed]
  rfl

theorem describeTagUnknown (c : TrialConfig) {tag : String}
    (absent : tag ∉ TagTable.tags Platform) :
    c.describeTag tag = .error (Fault.unknownTag Platform "platform" tag "platform_tag") := by
  have parsed := TagTable.parseRefused.mpr ⟨absent, rfl⟩
  unfold describeTag platform
  rw [parsed, ← unknownWritten]
  rfl

theorem violationRooted (d : Defect) : d.violation.path.toList.head? = some '$' := by
  cases d with
  | noEntries t trial => simp [Defect.violation]
  | inEntry t trial i f =>
    cases f <;> simp [Defect.violation, Fault.violation, Fault.unknownTag]

theorem entryPointsAgree (c : TrialConfig) (p q : Platform) (ps : List Platform) (tag : String) :
    (∀ v, c.validate = .error v ↔ c.describe p = .error v) ∧
    (∀ v, c.describe p = .error v ↔ c.describe q = .error v) ∧
    (∀ v, c.describeAll ps = .error v ↔ ps ≠ [] ∧ c.validate = .error v) ∧
    (∀ found, c.describeAll ps = .ok found ↔
      List.Forall₂ (fun p pair => p = pair.1 ∧ c.describe p = .ok pair.2) ps found) ∧
    c.describeTag p.tag = c.describe p ∧
    (tag ∉ TagTable.tags Platform ↔ ∃ v, c.describeTag tag = .error v ∧ v.path = "platform" ∧
      v.rule = some "platform_tag") := by
  simp only [validateRefuses, describeRefuses, describeAllRefuses, describeAllAccepts,
    implies_true, true_and]
  refine ⟨c.describeTagKnown p, ?_⟩
  constructor
  · intro absent
    exact ⟨_, c.describeTagUnknown absent, rfl, rfl⟩
  · rintro ⟨v, refused, path, _⟩ listed
    obtain ⟨r, _, rfl⟩ := List.mem_map.mp listed
    change c.describeTag r.tag = _ at refused
    rw [describeTagKnown, describeRefuses] at refused
    obtain ⟨d, _, rfl⟩ := checkedAtFirst refused
    have rooted := violationRooted d
    rw [path] at rooted
    contradiction

end TrialConfig
end StudyPlan
