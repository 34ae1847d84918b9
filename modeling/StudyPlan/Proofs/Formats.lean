import StudyPlan.Proofs.OrderedMap
import StudyPlan.Proofs.RoundTrip

/-! What a format has to keep to. A property of the values that a reading gives passes to the
lists, maps and records made of them, whatever the document; and no map holds a key twice.
So every config that is read in such a format has distinct names and params. -/
namespace StudyPlan
open Schema (Record Field Format)

namespace Schema

/- `gives r x`: the reading `r` may end with `x`. -/
class Giving (Result : Type → Type) where
  gives : {α : Type} → Result α → α → Prop

export Giving (gives)

def Always {Node α : Type} {Result : Type → Type} [Giving Result] (read : Node → Result α)
    (P : α → Prop) : Prop := ∀ node x, gives (read node) x → P x

class Lawful (Node : Type) (Result : outParam (Type → Type)) [Format Node Result]
    [Giving Result] : Prop where
  mapped {α β : Type} {f : α → β} {r : Result α} {y : β} :
    gives (f <$> r) y → ∃ x, gives r x ∧ f x = y
  optional {α : Type} {read : Node → Result α} {P : α → Prop} :
    Always read P → Always (Format.optional read) fun found => ∀ x ∈ found, P x
  list {α : Type} {read : Node → Result α} {P : α → Prop} :
    Always read P → Always (Format.list read) fun xs => ∀ x ∈ xs, P x
  dictionary {α : Type} {read : Node → Result α} {P : α → Prop} :
    Always read P →
      Always (Format.dictionary read) fun m => m.WellFormed ∧ ∀ entry ∈ m.entries, P entry.2
  record {σ α : Type} {r : Record Node Result σ α} {P : α → Prop} (keeps : σ → Prop)
    (initial : keeps r.initial)
    (stored : ∀ f ∈ r.fields, Always f.read fun store => ∀ s, keeps s → keeps (store s))
    (finished : ∀ form s x, keeps s → r.finish form s = .ok x → P x) :
    Always (Format.record r) P

namespace Lawful
variable {Node : Type} {Result : Type → Type} [Format Node Result] [Giving Result]
  [lawful : Lawful Node Result]

theorem field {σ α : Type} {name : String} {read : Node → Result α} {store : σ → α → σ}
    {keeps : σ → Prop} (each : Always read fun x => ∀ s, keeps s → keeps (store s x)) :
    Always (Field.of name read store).read fun change => ∀ s, keeps s → keeps (change s) := by
  intro node change given
  obtain ⟨x, read, rfl⟩ := lawful.mapped given
  exact each node x read

theorem experiment : Always (Format.record (experimentRecord : Record Node Result _ _))
    fun x => ∀ m ∈ x.params, m.WellFormed := by
  have params : Always (Format.optional (Format.dictionary (Format.string : Node → Result String)))
      fun found => ∀ m ∈ found, m.WellFormed := by
    refine optional fun node m given => ?_
    exact (dictionary (P := fun _ => True) (fun _ _ _ => trivial) node m given).1
  refine record (fun d => ∀ m ∈ d.params, m.WellFormed) (by simp [experimentRecord]) ?_ ?_
  · simp only [experimentRecord, List.forall_mem_cons]
    refine ⟨field fun _ _ _ s kept => kept, field fun node x given s _ => params node x given,
      field fun _ _ _ s kept => kept, field fun _ _ _ s kept => kept,
      field fun _ _ _ s kept => kept, by simp⟩
  · intro form d x kept finished
    simp only [experimentRecord, ExperimentDraft.finish] at finished
    split at finished
    · contradiction
    · cases finished
      exact kept

theorem entry : Always (Format.record (entryRecord : Record Node Result _ _))
    fun e => ∀ x ∈ e.experiments, ∀ m ∈ x.params, m.WellFormed := by
  refine record (fun d => ∀ xs ∈ d.experiments, ∀ x ∈ xs, ∀ m ∈ x.params, m.WellFormed)
    (by simp [entryRecord]) ?_ ?_
  · simp only [entryRecord, List.forall_mem_cons]
    refine ⟨field fun _ _ _ s kept => kept, field fun _ _ _ s kept => kept,
      field fun _ _ _ s kept => kept, field fun node xs given s _ => ?_, by simp⟩
    intro ys same
    cases same
    exact list experiment node _ given
  · intro form d e kept finished
    simp only [entryRecord, EntryDraft.finish] at finished
    split at finished
    · contradiction
    · contradiction
    · rename_i platforms experiments _ present
      cases finished
      exact kept experiments present

theorem trialConfig : Always (trialConfig : Node → Result TrialConfig) TrialConfig.WellFormed := by
  intro node c given
  obtain ⟨trials, read, rfl⟩ := lawful.mapped given
  obtain ⟨names, entries⟩ := dictionary (list entry) node trials read
  exact ⟨names, entries⟩

end Lawful

instance {ε : Type} : Giving (Except ε) := ⟨fun r x => r = .ok x⟩

theorem okMapped {α β ε : Type} {f : α → β} {r : Except ε α} {y : β} (h : r.map f = .ok y) :
    ∃ x, r = .ok x ∧ f x = y := by
  cases r with
  | error e => cases h
  | ok x => exact ⟨x, rfl, Except.ok.inj h⟩

theorem okBound {α β ε : Type} {r : Except ε α} {f : α → Except ε β} {y : β}
    (h : r.bind f = .ok y) : ∃ x, r = .ok x ∧ f x = .ok y := by
  cases r with
  | error e => cases h
  | ok x => exact ⟨x, rfl, h⟩

theorem okKept {α ε δ : Type} {f : ε → δ} {r : Except ε α} {x : α} (h : r.mapError f = .ok x) :
    r = .ok x := by
  cases r with
  | error e => cases h
  | ok y => cases h; rfl

end Schema

end StudyPlan
