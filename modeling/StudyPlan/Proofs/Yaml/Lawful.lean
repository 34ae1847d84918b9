import StudyPlan.Proofs.Formats

/-! YAML is lawful. Which node an alias stands for is not looked into: what holds of the
readings of all nodes holds there too. -/
namespace StudyPlan
open Schema (Problem Record Always gives)

namespace Yaml

instance : Schema.Giving Result := ⟨fun r x => ∃ s route n m, r s route n = .ok (x, m)⟩

namespace Result
variable {α β : Type}

theorem notFailed {e : Refusal} {x : α} : ¬ gives (fail e : Result α) x := by
  rintro ⟨_, _, _, _, given⟩
  cases given

theorem boundGives {r : Result α} {k : α → Result β} {y : β} (given : gives (r.bind k) y) :
    ∃ x, gives r x ∧ gives (k x) y := by
  obtain ⟨s, route, n, m, given⟩ := given
  simp only [bind] at given
  split at given
  · contradiction
  · rename_i x middle read
    exact ⟨x, ⟨s, route, n, middle, read⟩, s, route, middle, m, given⟩

theorem pureGives {x y : α} (given : gives (pure x) y) : x = y := by
  obtain ⟨_, _, _, _, given⟩ := given
  cases given
  rfl

theorem mapGives {f : α → β} {r : Result α} {y : β} (given : gives (r.map f) y) :
    ∃ x, gives r x ∧ f x = y := by
  obtain ⟨x, read, given⟩ := boundGives given
  exact ⟨x, read, pureGives given⟩

theorem withinGives {step : Route → Route} {r : Result α} {x : α}
    (given : gives (r.within step) x) : gives r x := by
  obtain ⟨s, route, n, m, given⟩ := given
  exact ⟨s, step route, n, m, given⟩

theorem locatedGives {mark : Mark} {r : Result α} {x : α} (given : gives (r.located mark) x) :
    gives r x := by
  obtain ⟨s, route, n, m, given⟩ := given
  refine ⟨s, route, n, m, ?_⟩
  simp only [located] at given
  cases read : r s route n with
  | error e =>
    rw [read] at given
    cases given
  | ok found =>
    rw [read] at given
    exact given

theorem notRefused {mark : Mark} {problem : Problem} {x : α} :
    ¬ gives (refuse mark problem : Result α) x :=
  fun given => notFailed (locatedGives given)

end Result

namespace Node
open Result
variable {σ α : Type} {P : α → Prop}

theorem notCut {x : α} : ¬ gives (meetCut : Result α) x := by
  rintro ⟨_, _, _, _, given⟩
  cases given

theorem notUnexpected {node : Node} {expected : String} {x : α} :
    ¬ gives (node.unexpected expected : Result α) x := by
  unfold unexpected
  split
  · exact notCut
  · exact notCut
  · exact notRefused
  · exact notRefused
  · exact notRefused

theorem followGives {read : Node → Result α} {node : Node} {x : α}
    (given : gives (follow read node) x) : ∃ target, gives (read target) x := by
  unfold follow at given
  split at given
  · obtain ⟨s, route, n, m, given⟩ := given
    dsimp only at given
    split at given
    · contradiction
    · split at given
      · rename_i target found
        exact ⟨target, s, route, n + 1, m, given⟩
      · exact absurd ⟨s, route, n, m, given⟩ (@notCut α x)
  · exact ⟨_, given⟩

theorem optionalGives {read : Node → Result α} (all : Always read P) :
    Always (readOptional read) fun found => ∀ x ∈ found, P x := by
  intro node found given
  obtain ⟨target, given⟩ := followGives given
  split at given
  · exact absurd given notCut
  · split at given
    · exact absurd given notFailed
    · cases pureGives given
      simp
    · obtain ⟨x, read, rfl⟩ := mapGives given
      rintro y ⟨⟩
      exact all _ x read
  · obtain ⟨x, read, rfl⟩ := mapGives given
    rintro y ⟨⟩
    exact all _ x read

theorem itemsGive {read : Node → Result α} (all : Always read P) {items : Items} {i : Nat}
    {xs : List α} (given : gives (readItems read i items) xs) : ∀ x ∈ xs, P x := by
  fun_induction readItems read i items generalizing xs with
  | case1 =>
    cases pureGives given
    simp
  | case2 => exact absurd given notCut
  | case3 i value rest present ih =>
    obtain ⟨x, head, given⟩ := boundGives given
    obtain ⟨tail, others, rfl⟩ := mapGives given
    exact List.forall_mem_cons.mpr ⟨all value x (withinGives head), ih others⟩

theorem listGives {read : Node → Result α} (all : Always read P) :
    Always (readList read) fun xs => ∀ x ∈ xs, P x := by
  intro node xs given
  obtain ⟨target, given⟩ := followGives given
  split at given
  · exact itemsGive all (locatedGives given)
  · split at given
    · cases pureGives given
      simp
    · exact absurd given notUnexpected
  · exact absurd given notUnexpected

theorem entriesGive {read : Node → Result α} (all : Always read P) {members : Members}
    {before m : OrderedMap α} (distinct : before.WellFormed)
    (kept : ∀ entry ∈ before.entries, P entry.2)
    (given : gives (readEntries read before members) m) :
    m.WellFormed ∧ ∀ entry ∈ m.entries, P entry.2 := by
  fun_induction readEntries read before members with
  | case1 =>
    cases pureGives given
    exact ⟨distinct, kept⟩
  | case2 before key value rest ih =>
    obtain ⟨name, -, given⟩ := boundGives given
    obtain ⟨x, head, given⟩ := boundGives given
    split at given
    · exact absurd given notFailed
    · rename_i next inserted
      refine ih next (OrderedMap.insertWellFormed distinct inserted) ?_ given
      exact OrderedMap.insertKeeps kept (all value x (withinGives head)) inserted

theorem dictionaryGives {read : Node → Result α} (all : Always read P) :
    Always (readDictionary read) fun m => m.WellFormed ∧ ∀ entry ∈ m.entries, P entry.2 := by
  intro node m given
  obtain ⟨target, given⟩ := followGives given
  split at given
  · exact entriesGive all OrderedMap.emptyWellFormed nofun (locatedGives given)
  · split at given
    · cases pureGives given
      exact ⟨OrderedMap.emptyWellFormed, nofun⟩
    · exact absurd given notUnexpected
  · exact absurd given notUnexpected

variable {r : Record Node Result σ α} {keeps : σ → Prop}

theorem fieldsKeep
    (stored : ∀ f ∈ r.fields, Always f.read fun store => ∀ s, keeps s → keeps (store s))
    {members : Members} {seen : List String} {s t : σ} (kept : keeps s)
    (given : gives (readFields r seen s members) t) : keeps t := by
  fun_induction readFields r seen s members with
  | case1 =>
    cases pureGives given
    exact kept
  | case2 seen s key value rest passed named =>
    obtain ⟨name, -, given⟩ := boundGives given
    split at given
    · split at given
      · exact absurd given notCut
      · exact passed kept given
    · rename_i f found
      split at given
      · exact absurd given notFailed
      · obtain ⟨store, read, given⟩ := boundGives given
        have member := List.mem_of_find?_eq_some found
        exact named name store (stored f member value store (withinGives read) s kept) given

theorem finishGives (finished : ∀ form s x, keeps s → r.finish form s = .ok x → P x) {s : σ}
    {x : α} (kept : keeps s) (given : gives (finishRecord r s) x) : P x := by
  unfold finishRecord at given
  split at given
  · rename_i y ready
    cases pureGives given
    exact finished _ s x kept ready
  · exact absurd given notFailed

theorem recordGives (initial : keeps r.initial)
    (stored : ∀ f ∈ r.fields, Always f.read fun store => ∀ s, keeps s → keeps (store s))
    (finished : ∀ form s x, keeps s → r.finish form s = .ok x → P x) :
    Always (readRecord r) P := by
  intro node x given
  obtain ⟨target, given⟩ := followGives given
  split at given
  · obtain ⟨t, read, given⟩ := boundGives (locatedGives given)
    exact finishGives finished (fieldsKeep stored initial read) given
  · split at given
    · exact finishGives finished initial (locatedGives given)
    · exact absurd given notUnexpected
  · exact absurd given notUnexpected

instance : Schema.Lawful Node Result where
  mapped := mapGives
  optional := optionalGives
  list := listGives
  dictionary := dictionaryGives
  record _ initial stored finished := recordGives initial stored finished

end Node
end Yaml

end StudyPlan
