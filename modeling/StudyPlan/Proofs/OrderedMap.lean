import Mathlib.Data.List.Nodup
import StudyPlan.OrderedMap

/-! Insertion into ordered maps: what it does when the key is taken and when it is not, and
what it keeps; and what offering entries one after the other comes to. -/
namespace StudyPlan.OrderedMap
variable {α : Type} {m : OrderedMap α}

theorem insertNewDistinct (distinct : m.WellFormed) (key : String) (value : α) :
    (m.insertNew key value).WellFormed := by
  unfold insertNew
  cases inserted : m.insert? key value with
  | none => exact distinct
  | some n => exact insertWellFormed distinct inserted

theorem insertedFresh {key : String} {value : α} (fresh : key ∉ m.keys) :
    m.insert? key value = some (m.push key value) := by
  unfold insert?
  rw [if_neg fun taken => fresh (containsListed.mp taken)]

theorem insertedTaken {key : String} {value : α} (taken : key ∈ m.keys) :
    m.insert? key value = none := by
  unfold insert?
  rw [if_pos (containsListed.mpr taken)]

/- The name stands among the names before it, and is the first of which that is so. -/
inductive FirstRepeat : List String → String → Prop where
  | mk {before after : List String} {name : String} (distinct : before.Nodup)
      (earlier : name ∈ before) : FirstRepeat (before ++ name :: after) name

theorem FirstRepeat.repeats {names : List String} {name : String}
    (first : FirstRepeat names name) : ¬ names.Nodup := by
  obtain ⟨_, earlier⟩ := first
  intro distinct
  exact (List.nodup_append.mp distinct).2.2 name earlier name (by simp) rfl

theorem FirstRepeat.unique {names : List String} {name other : String}
    (first : FirstRepeat names name) (second : FirstRepeat names other) : name = other := by
  obtain ⟨distinct, earlier⟩ := first
  generalize whole : _ ++ _ :: _ = names at second
  obtain ⟨distinct', earlier'⟩ := second
  rcases List.append_eq_append_iff.mp whole with ⟨between, longer, rest⟩ | ⟨between, longer, rest⟩
  · cases between with
    | nil => exact (List.cons.inj rest).1
    | cons next between =>
      rw [longer, ← (List.cons.inj rest).1] at distinct'
      exact absurd distinct' (FirstRepeat.mk distinct earlier).repeats
  · cases between with
    | nil => exact (List.cons.inj rest).1.symm
    | cons next between =>
      rw [longer, ← (List.cons.inj rest).1] at distinct
      exact absurd distinct (FirstRepeat.mk distinct' earlier').repeats

def offer (m : OrderedMap α) : List (String × α) → Except String (OrderedMap α)
  | [] => .ok m
  | (key, x) :: rest =>
    match m.insert? key x with
    | some n => n.offer rest
    | none => .error key

theorem offered (distinct : m.WellFormed) (entries : List (String × α)) :
    (m.keys ++ entries.map Prod.fst).Nodup ∧ m.offer entries = .ok ⟨m.entries ++ entries⟩ ∨
      ∃ key, FirstRepeat (m.keys ++ entries.map Prod.fst) key ∧ m.offer entries = .error key := by
  induction entries generalizing m with
  | nil => exact .inl ⟨by simpa using show m.keys.Nodup from distinct, by simp [offer]⟩
  | cons entry rest ih =>
    obtain ⟨key, x⟩ := entry
    by_cases taken : key ∈ m.keys
    · exact .inr ⟨key, .mk distinct taken, by simp [offer, insertedTaken taken]⟩
    · have inserted := @insertedFresh _ _ _ x taken
      have others := ih (insertWellFormed distinct inserted)
      rw [pushKeys, List.append_assoc] at others
      simpa [offer, inserted, push] using others

theorem insertKeeps {P : α → Prop} {n : OrderedMap α} {key : String}
    {x : α} (kept : ∀ entry ∈ m.entries, P entry.2) (new : P x)
    (inserted : m.insert? key x = some n) : ∀ entry ∈ n.entries, P entry.2 := by
  unfold insert? at inserted
  split at inserted
  · contradiction
  · cases inserted
    intro entry member
    rcases List.mem_append.mp member with old | added
    · exact kept entry old
    · cases List.mem_singleton.mp added
      exact new

theorem lookupExactly {entries : List (String × α)} (distinct : (entries.map Prod.fst).Nodup)
    {key : String} {value : α} :
    entries.lookup key = some value ↔ (key, value) ∈ entries := by
  induction entries with
  | nil => simp
  | cons entry rest ih =>
    obtain ⟨name, x⟩ := entry
    simp only [List.map_cons, List.nodup_cons] at distinct
    rw [List.lookup_cons, List.mem_cons, ← ih distinct.2]
    by_cases same : key = name
    · subst same
      have absent : rest.lookup key ≠ some value := by
        rw [ne_eq, ih distinct.2]
        exact fun member => distinct.1 (List.mem_map_of_mem member)
      simp [absent, eq_comm]
    · have other : (key == name) = false := by simpa using same
      simp [other, same]

theorem lookupFresh {entries : List (String × α)} {key : String}
    (fresh : key ∉ entries.map Prod.fst) : entries.lookup key = none := by
  rw [List.lookup_eq_none_iff]
  intro entry member
  simpa using fun same => fresh (List.mem_map.mpr ⟨entry, member, same.symm⟩)

theorem foundExactly (distinct : m.WellFormed) {key : String} {value : α} :
    m.get? key = some value ↔ (key, value) ∈ m.entries :=
  lookupExactly distinct

end StudyPlan.OrderedMap
