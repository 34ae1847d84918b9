import StudyPlan.Json.Printer
import StudyPlan.Proofs.Json.Spelling

/-! What a text has to be like so that a value can be read out of it: its numbers are legible, as a
reader passes over the whole of each; and nothing of it is lost, as each number comes back and no
object has a key twice. -/
namespace StudyPlan.Json
open Text (Glyph)

def Starts (text : List Char) : Prop :=
  ∃ c rest, text = c :: rest ∧ Cursor.isBlank c = false ∧ c ≠ ']'

def Ends (rest : List Glyph) : Prop :=
  rest = [] ∨ ∃ c more, rest = .char c :: more ∧
    (c ∈ [',', ']', '\x7d'] ∨ Cursor.isBlank c = true)

structure Number.Legible (n : Number) : Prop where
  starts : Starts n.text.toList
  read : ∀ fuel p rest, Ends rest → ∃ node q,
    Node.read (fuel + 1) ⟨p, Glyph.ofString n.text ++ rest⟩ = (node, .ok ⟨q, rest⟩) ∧
      Spells node (.number n)

structure Number.Exact (n : Number) : Prop extends n.Legible where
  back : ∀ fuel p rest, Ends rest → ∃ behind q,
    Node.read (fuel + 1) ⟨p, Glyph.ofString n.text ++ rest⟩ =
      (.scalar (.ok (.number n)) none behind, .ok ⟨q, rest⟩)

namespace Value

mutual

def Legible : Value → Prop
  | .number n => n.Legible
  | .array items => ItemsLegible items
  | .object members => MembersLegible members
  | _ => True

def ItemsLegible : List Value → Prop
  | [] => True
  | v :: rest => v.Legible ∧ ItemsLegible rest

def MembersLegible : List (String × Value) → Prop
  | [] => True
  | (_, v) :: rest => v.Legible ∧ MembersLegible rest

end

theorem itemsLegible {items : List Value} (all : ∀ v ∈ items, v.Legible) :
    ItemsLegible items := by
  induction items with
  | nil => trivial
  | cons v rest ih => exact ⟨all v (by simp), ih fun w member => all w (by simp [member])⟩

theorem membersLegible {members : List (String × Value)} (all : ∀ m ∈ members, m.2.Legible) :
    MembersLegible members := by
  induction members with
  | nil => trivial
  | cons m rest ih => exact ⟨all m (by simp), ih fun n member => all n (by simp [member])⟩

theorem stringsLegible (texts : List String) : (strings texts).Legible := by
  refine itemsLegible fun v member => ?_
  obtain ⟨text, -, rfl⟩ := List.mem_map.mp member
  trivial

mutual

/- The text gives the value back: its numbers are exact, and no object has a key twice. -/
def Lossless : Value → Prop
  | .number n => n.Exact
  | .array items => ItemsLossless items
  | .object members => (members.map Prod.fst).Nodup ∧ MembersLossless members
  | _ => True

def ItemsLossless : List Value → Prop
  | [] => True
  | v :: rest => v.Lossless ∧ ItemsLossless rest

def MembersLossless : List (String × Value) → Prop
  | [] => True
  | (_, v) :: rest => v.Lossless ∧ MembersLossless rest

end

theorem itemsLossless {items : List Value} (all : ∀ v ∈ items, v.Lossless) :
    ItemsLossless items := by
  induction items with
  | nil => trivial
  | cons v rest ih => exact ⟨all v (by simp), ih fun w member => all w (by simp [member])⟩

theorem membersLossless {members : List (String × Value)} (all : ∀ m ∈ members, m.2.Lossless) :
    MembersLossless members := by
  induction members with
  | nil => trivial
  | cons m rest ih => exact ⟨all m (by simp), ih fun n member => all n (by simp [member])⟩

theorem mappedLossless {α : Type} {encode : α → Value} (lossless : ∀ x, (encode x).Lossless)
    (xs : List α) : (Value.array (xs.map encode)).Lossless := by
  refine itemsLossless ?_
  intro v member
  obtain ⟨x, -, rfl⟩ := List.mem_map.mp member
  exact lossless x

theorem optionalLossless {α : Type} {name : String} {encode : α → Value} {x? : Option α}
    (lossless : ∀ x, (encode x).Lossless) : ∀ m ∈ optionalMember name encode x?, m.2.Lossless := by
  cases x? with
  | none => simp [optionalMember]
  | some x => simp [optionalMember, lossless x]

mutual

theorem Lossless.legible : (v : Value) → v.Lossless → v.Legible
  | .null, _ | .bool _, _ | .string _, _ => trivial
  | .number _, exact => exact.toLegible
  | .array items, lossless => ItemsLossless.legible items lossless
  | .object members, lossless => MembersLossless.legible members lossless.2

theorem ItemsLossless.legible : (items : List Value) → ItemsLossless items → ItemsLegible items
  | [], _ => trivial
  | v :: rest, lossless => ⟨Lossless.legible v lossless.1, ItemsLossless.legible rest lossless.2⟩

theorem MembersLossless.legible : (members : List (String × Value)) → MembersLossless members →
    MembersLegible members
  | [], _ => trivial
  | (_, v) :: rest, lossless =>
    ⟨Lossless.legible v lossless.1, MembersLossless.legible rest lossless.2⟩

end

end Value

end StudyPlan.Json
