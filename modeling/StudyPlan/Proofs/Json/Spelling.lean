import Mathlib.Data.List.Forall2
import StudyPlan.Json.Read
import StudyPlan.Schema.Trial

/-! Trees that spell a value without a flaw. Reading by a schema looks at nothing but
what is spelt: out of such a tree it gets what it gets out of the value itself. -/
namespace StudyPlan.Json
open Schema (Problem Record Field Format)

mutual

/-- The tree spells the value, wherever its parts stand. Numbers only have to be numbers,
and may be too large to be read. -/
inductive Spells : Node → Value → Prop where
  | null {behind} : Spells (.scalar (.ok .null) none behind) .null
  | bool {b behind} : Spells (.scalar (.ok (.bool b)) none behind) (.bool b)
  | string {s behind} : Spells (.scalar (.ok (.string s)) none behind) (.string s)
  | number {m n behind} : Spells (.scalar (.ok (.number m)) none behind) (.number n)
  | unread {flaw n behind} : Spells (.scalar (.error flaw) none behind) (.number n)
  | array {start inside items values} (spelt : ItemsSpell inside items values) :
      Spells (.array start inside items) (.array values)
  | object {start inside members pairs} (spelt : MembersSpell members pairs) :
      Spells (.object start inside members) (.object pairs)

inductive ItemsSpell : Cursor → Items → List Value → Prop where
  | close {c : Cursor} (closed : c.closeArray = .ok ()) : ItemsSpell c .close []
  | item {c behind : Cursor} {node value rest values} (opened : c.closeArray ≠ .ok ())
      (head : Spells node value) (tail : ItemsSpell behind rest values) :
      ItemsSpell c (.item node behind rest) (value :: values)

inductive MembersSpell : Members → List (String × Value) → Prop where
  | close : MembersSpell .close []
  | member {key behindKey node behind value rest pairs} (head : Spells node value)
      (tail : MembersSpell rest pairs) :
      MembersSpell (.member (.ok key) behindKey node behind rest) ((key, value) :: pairs)

end

mutual

theorem Spells.notSkipped {node value} : Spells node value → node.skipped? = none
  | .null | .bool | .string | .number | .unread => rfl
  | .array spelt => spelt.notSkipped
  | .object spelt => spelt.notSkipped

theorem ItemsSpell.notSkipped {c items values} :
    ItemsSpell c items values → Node.itemsSkipped? items = none
  | .close _ => rfl
  | .item _ head tail => by simp [Node.itemsSkipped?, head.notSkipped, tail.notSkipped]

theorem MembersSpell.notSkipped {members pairs} :
    MembersSpell members pairs → Node.membersSkipped? members = none
  | .close => rfl
  | .member head tail => by simp [Node.membersSkipped?, head.notSkipped, tail.notSkipped]

end

variable {σ α β : Type}

theorem fieldPaired {Left Right : Type} {ResultLeft ResultRight : Type → Type}
    {r : Record Left ResultLeft σ α} {r' : Record Right ResultRight σ α}
    {same : Field Left ResultLeft σ → Field Right ResultRight σ → Prop}
    (paired : List.Forall₂ (fun f g => f.name = g.name ∧ same f g) r.fields r'.fields)
    (key : String) :
    (r.field? key = none ∧ r'.field? key = none) ∨
      ∃ f g, r.field? key = some f ∧ r'.field? key = some g ∧ same f g := by
  unfold Record.field?
  generalize r.fields = fields, r'.fields = fields' at paired
  induction paired with
  | nil => simp
  | @cons f g fields fields' head tail ih =>
    rw [List.find?_cons, List.find?_cons, ← head.1]
    cases f.name == key with
    | true => exact .inr ⟨f, g, rfl, rfl, head.2⟩
    | false => exact ih

/-- Two readings agree: one out of a value, one out of any tree that spells it. -/
def Agree (readValue : Value → Except Problem α) (readNode : Node → Except Refusal α) : Prop :=
  ∀ ⦃node value⦄, Spells node value → ∀ x, readValue value = .ok x ↔ readNode node = .ok x

namespace Agree
variable {readValue : Value → Except Problem α} {readNode : Node → Except Refusal α}

theorem refused (agree : Agree readValue readNode) {node value} (spelt : Spells node value)
    {problem : Problem} (bad : readValue value = .error problem) :
    ∃ refusal, readNode node = .error refusal := by
  cases read : readNode node with
  | error refusal => exact ⟨refusal, rfl⟩
  | ok x => exact absurd ((agree spelt x).mpr read) (by simp [bad])

theorem string : Agree Value.readString Node.readString := by
  intro node value spelt x
  cases spelt <;> simp [Value.readString, Value.unexpected, Node.readString, Node.unexpected]

theorem bool : Agree Value.readBool Node.readBool := by
  intro node value spelt x
  cases spelt <;> simp [Value.readBool, Value.unexpected, Node.readBool, Node.unexpected]

theorem mapped {f : α → β} {left : Except Problem α} {right : Except Refusal α}
    (same : ∀ x, left = .ok x ↔ right = .ok x) (y : β) :
    left.map f = .ok y ↔ right.map f = .ok y := by
  cases left with
  | error e =>
    cases right with
    | error e' => simp [Except.map]
    | ok x => exact absurd ((same x).mpr rfl) (by simp)
  | ok x =>
    rw [(same x).mp rfl]
    simp [Except.map]

theorem map (f : α → β) (agree : Agree readValue readNode) :
    Agree (fun value => f <$> readValue value) (fun node => f <$> readNode node) := by
  intro node value spelt y
  exact mapped (agree spelt) y

theorem optional (agree : Agree readValue readNode) :
    Agree (Value.readOptional readValue) (Node.readOptional readNode) := by
  intro node value spelt x
  cases spelt with
  | null => simp [Value.readOptional, Node.readOptional]
  | bool => exact mapped (agree .bool) x
  | string => exact mapped (agree .string) x
  | number => exact mapped (agree .number) x
  | unread => exact mapped (agree .unread) x
  | array spelt => exact mapped (agree (.array spelt)) x
  | object spelt => exact mapped (agree (.object spelt)) x

theorem items (agree : Agree readValue readNode) {c items values}
    (spelt : ItemsSpell c items values) (xs : List α) :
    Value.readItems readValue values = .ok xs ↔ Node.readEach readNode items = .ok xs := by
  induction values generalizing c items xs with
  | nil =>
    cases spelt
    simp [Value.readItems, Node.readEach]
  | cons value values ih =>
    cases spelt with
    | item opened head tail =>
      cases read : readValue value with
      | ok x =>
        simp only [Value.readItems, Node.readEach, read, (agree head x).mp read]
        exact mapped (ih tail) xs
      | error e =>
        obtain ⟨refusal, refused⟩ := agree.refused head read
        simp [Value.readItems, Node.readEach, read, refused]

theorem list (agree : Agree readValue readNode) :
    Agree (Value.readList readValue) (Node.readList readNode) := by
  intro node value spelt xs
  cases spelt with
  | array spelt => exact items agree spelt xs
  | _ => simp [Value.readList, Value.unexpected, Node.readList, Node.unexpected]

theorem entries (agree : Agree readValue readNode) {members pairs}
    (spelt : MembersSpell members pairs) (before m : OrderedMap α) :
    Value.readEntries readValue before pairs = .ok m ↔
      Node.readEntries readNode before members = .ok m := by
  induction pairs generalizing members before with
  | nil =>
    cases spelt
    simp [Value.readEntries, Node.readEntries]
  | cons pair pairs ih =>
    cases spelt with
    | member head tail =>
      rename_i key behindKey node behind value rest
      cases read : readValue value with
      | ok x =>
        simp only [Value.readEntries, Node.readEntries, read, (agree head x).mp read]
        cases before.insert? key x with
        | none => simp
        | some more => exact ih tail more
      | error e =>
        obtain ⟨refusal, refused⟩ := agree.refused head read
        simp [Value.readEntries, Node.readEntries, read, refused]

theorem dictionary (agree : Agree readValue readNode) :
    Agree (Value.readDictionary readValue) (Node.readDictionary readNode) := by
  intro node value spelt m
  cases spelt with
  | object spelt => exact entries agree spelt .empty m
  | _ => simp [Value.readDictionary, Value.unexpected, Node.readDictionary, Node.unexpected]

end Agree

structure SameRecord (r : Record Value (Except Problem) σ α)
    (r' : Record Node (Except Refusal) σ α) : Prop where
  fields : List.Forall₂ (fun f g => f.name = g.name ∧ Agree f.read g.read) r.fields r'.fields
  refusesUnknown : r.refusesUnknown = r'.refusesUnknown
  initial : r.initial = r'.initial
  finish : r.finish = r'.finish

namespace SameRecord
variable {r : Record Value (Except Problem) σ α} {r' : Record Node (Except Refusal) σ α}

theorem inOrder {fields : List (Field Value (Except Problem) σ)}
    {fields' : List (Field Node (Except Refusal) σ)}
    (same : List.Forall₂ (fun f g => f.name = g.name ∧ Agree f.read g.read) fields fields')
    {c items values} (spelt : ItemsSpell c items values) (s : σ) :
    (∀ t left, Value.readInOrder s fields values = .ok (t, left) →
      ∃ c' complete, Node.readInOrder s c fields' items = .ok (t, c', complete) ∧
        (left = 0 ↔ complete = false ∨ c'.closeArray = .ok ())) ∧
    (∀ problem, Value.readInOrder s fields values = .error problem →
      ∃ refusal, Node.readInOrder s c fields' items = .error refusal) := by
  induction same generalizing c items values s with
  | nil =>
    cases spelt with
    | close closed => simp [Value.readInOrder, Node.readInOrder, closed]
    | item opened head tail => simp [Value.readInOrder, Node.readInOrder, opened]
  | cons field fields ih =>
    cases spelt with
    | close closed => simp [Value.readInOrder, Node.readInOrder]
    | item opened head tail =>
      rename_i f g fs gs behind node value rest values
      cases read : f.read value with
      | ok store =>
        simp only [Value.readInOrder, Node.readInOrder, read, (field.2 head store).mp read]
        exact ih tail (store s)
      | error problem =>
        obtain ⟨refusal, refused⟩ := field.2.refused head read
        simp [Value.readInOrder, Node.readInOrder, read, refused]

theorem byName (same : SameRecord r r') {members pairs} (spelt : MembersSpell members pairs)
    (seen : List String) (s t : σ) (c : Cursor) :
    Value.readByName r seen s pairs = .ok t ↔
      ∃ c', Node.readByName r' seen s c members = .ok (t, c') := by
  induction pairs generalizing members seen s c with
  | nil =>
    cases spelt
    simp [Value.readByName, Node.readByName]
  | cons pair pairs ih =>
    cases spelt with
    | member head tail =>
      rename_i key behindKey node behind value rest
      rcases fieldPaired same.fields key with ⟨absent, absent'⟩ | ⟨f, g, found, found', agree⟩
      · simp only [Value.readByName, Node.readByName, absent, absent', same.refusesUnknown,
          head.notSkipped]
        split
        · simp
        · exact ih tail seen s behind
      · simp only [Value.readByName, Node.readByName, found, found']
        split
        · simp
        · cases read : f.read value with
          | ok store =>
            simp only [(agree head store).mp read]
            exact ih tail (key :: seen) (store s) behind
          | error problem =>
            obtain ⟨refusal, refused⟩ := agree.refused head read
            simp [refused]

theorem agree (same : SameRecord r r') : Agree (Value.readRecord r) (Node.readRecord r') := by
  intro node value spelt x
  cases spelt with
  | array spelt =>
    simp only [Value.readRecord, Node.readRecord, ← same.initial, ← same.finish]
    cases read : Value.readInOrder r.initial r.fields _ with
    | error problem =>
      obtain ⟨refusal, refused⟩ := (inOrder same.fields spelt r.initial).2 problem read
      simp [refused]
    | ok result =>
      obtain ⟨t, left⟩ := result
      obtain ⟨c, complete, read', ends⟩ := (inOrder same.fields spelt r.initial).1 t left read
      simp only [read']
      cases r.finish .positional t with
      | error missing => simp
      | ok y =>
        cases complete with
        | false => simp [ends.mpr (.inl rfl)]
        | true =>
          cases closed : c.closeArray with
          | ok _ => simp [ends.mpr (.inr closed), Except.mapError, Except.map]
          | error flaw =>
            have more : left ≠ 0 := by simp [ends, closed]
            simp [more, Except.mapError, Except.map]
  | object spelt =>
    rename_i start inside members pairs
    simp only [Value.readRecord, Node.readRecord, ← same.initial, ← same.finish]
    cases read : Value.readByName r [] r.initial pairs with
    | ok t =>
      obtain ⟨c, read'⟩ := (same.byName spelt [] r.initial t inside).mp read
      simp only [read']
      cases r.finish .keyed t <;> simp [Except.mapError]
    | error problem =>
      cases read' : Node.readByName r' [] r.initial inside members with
      | error refusal => simp
      | ok result =>
        have known := (same.byName spelt [] r.initial result.1 inside).mpr ⟨result.2, read'⟩
        exact absurd known (by simp [read])
  | _ => simp [Value.readRecord, Value.unexpected, Node.readRecord, Node.unexpected]

theorem field {readValue : Value → Except Problem α} {readNode : Node → Except Refusal α}
    (agree : Agree readValue readNode) (name : String) (store : σ → α → σ) :
    (Field.of name readValue store).name = (Field.of name readNode store).name ∧
      Agree (Field.of name readValue store).read (Field.of name readNode store).read :=
  ⟨rfl, agree.map fun x s => store s x⟩

end SameRecord

theorem stringsAgree : Agree Schema.strings Schema.strings := Agree.string.list

theorem experimentSame : SameRecord Schema.experimentRecord Schema.experimentRecord where
  fields := .cons (SameRecord.field .string ..) <|
    .cons (SameRecord.field (Agree.dictionary .string).optional ..) <|
    .cons (SameRecord.field stringsAgree.optional ..) <|
    .cons (SameRecord.field stringsAgree.optional ..) <|
    .cons (SameRecord.field (Agree.optional .string) ..) .nil
  refusesUnknown := rfl
  initial := rfl
  finish := rfl

theorem entrySame : SameRecord Schema.entryRecord Schema.entryRecord where
  fields := .cons (SameRecord.field stringsAgree ..) <|
    .cons (SameRecord.field stringsAgree ..) <|
    .cons (SameRecord.field (Agree.optional .bool) ..) <|
    .cons (SameRecord.field experimentSame.agree.list ..) .nil
  refusesUnknown := rfl
  initial := rfl
  finish := rfl

theorem trialConfigAgrees : Agree Schema.trialConfig Schema.trialConfig :=
  (Agree.dictionary entrySame.agree.list).map TrialConfig.mk

end StudyPlan.Json
