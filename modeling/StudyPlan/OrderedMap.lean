/-! String-keyed maps that keep the order in which their keys were offered.
Offering a key a second time is refused and changes nothing, so a map that
starts empty never holds a key twice; `insertWellFormed` says so. -/
namespace StudyPlan

structure OrderedMap (α : Type) where
  entries : List (String × α)
  deriving DecidableEq, Repr

namespace OrderedMap
variable {α : Type}

def empty : OrderedMap α := ⟨[]⟩

instance : Inhabited (OrderedMap α) := ⟨empty⟩

def keys (m : OrderedMap α) : List String := m.entries.map Prod.fst

def size (m : OrderedMap α) : Nat := m.entries.length

def isEmpty (m : OrderedMap α) : Bool := m.entries.isEmpty

def get? (m : OrderedMap α) (key : String) : Option α := m.entries.lookup key

def contains (m : OrderedMap α) (key : String) : Bool := m.entries.any (·.1 == key)

def push (m : OrderedMap α) (key : String) (value : α) : OrderedMap α :=
  ⟨m.entries ++ [(key, value)]⟩

def insert? (m : OrderedMap α) (key : String) (value : α) : Option (OrderedMap α) :=
  if m.contains key then none else some (m.push key value)

def insert (m : OrderedMap α) (key : String) (value : α) : Except α Unit × OrderedMap α :=
  match m.insert? key value with
  | some n => (.ok (), n)
  | none => (.error value, m)

def insertNew (m : OrderedMap α) (key : String) (value : α) : OrderedMap α :=
  (m.insert? key value).getD m

def ofList (pairs : List (String × α)) : OrderedMap α :=
  pairs.foldl (fun m p => m.insertNew p.1 p.2) empty

def WellFormed (m : OrderedMap α) : Prop := m.keys.Nodup

instance (m : OrderedMap α) : Decidable m.WellFormed := inferInstanceAs (Decidable m.keys.Nodup)

theorem containsListed {m : OrderedMap α} {key : String} :
    m.contains key = true ↔ key ∈ m.keys := by
  simp [contains, keys]

theorem pushKeys (m : OrderedMap α) (key : String) (value : α) :
    (m.push key value).keys = m.keys ++ [key] := by
  simp [push, keys]

theorem emptyWellFormed : (empty : OrderedMap α).WellFormed := List.nodup_nil

theorem insertWellFormed {m n : OrderedMap α} {key : String} {value : α}
    (h : m.WellFormed) (inserted : m.insert? key value = some n) : n.WellFormed := by
  unfold insert? at inserted
  split at inserted
  · contradiction
  · rename_i fresh
    cases inserted
    have absent : key ∉ m.keys := fun member => fresh (containsListed.mpr member)
    unfold WellFormed
    rw [pushKeys]
    exact List.nodup_append.mpr ⟨h, by simp, by
      intro a ha b hb
      cases List.mem_singleton.mp hb
      exact fun same => absent (same ▸ ha)⟩

end OrderedMap
end StudyPlan
