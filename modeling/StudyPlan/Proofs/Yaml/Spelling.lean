import StudyPlan.Proofs.Formats
import StudyPlan.Proofs.Yaml.TreeRead
import StudyPlan.Yaml.Read

/-! Reading by a schema gets out of a tree of YAML what it gets out of the value that the tree
spells, as long as the value suits the schema. Only records given in order are no records here. -/
namespace StudyPlan.Yaml
open Json (Value)
open Schema (Problem Record Field Format)

variable {σ α β : Type}

mutual

theorem Spells.whole {node value} : Spells node value → node.isCut = false
  | .bool | .string => rfl
  | .array spelt => spelt.whole
  | .object spelt => spelt.whole

theorem ItemsSpell.whole {items values} : ItemsSpell items values → Node.itemsCut items = false
  | .close => rfl
  | .item _ head tail => by simp [Node.itemsCut, head.whole, tail.whole]

theorem MembersSpell.whole {members pairs} :
    MembersSpell members pairs → Node.membersCut members = false
  | .close => rfl
  | .member head tail => by simp [Node.membersCut, Node.isCut, head.whole, tail.whole]

end

def Result.Yields (r : Result α) (x : α) : Prop := ∀ s route n, r s route n = .ok (x, n)

namespace Result.Yields
variable {r : Result α} {x : α}

theorem pure (x : α) : Yields (Result.pure x) x := fun _ _ _ => rfl

theorem bind {k : α → Result β} {y : β} (first : Yields r x) (second : Yields (k x) y) :
    Yields (r.bind k) y := by
  intro s route n
  simp only [Result.bind, first s route n]
  exact second s route n

theorem map (f : α → β) (yields : Yields r x) : Yields (r.map f) (f x) := yields.bind (pure (f x))

theorem within (step : Route → Route) (yields : Yields r x) : Yields (r.within step) x :=
  fun s route n => yields s (step route) n

theorem located (mark : Mark) (yields : Yields r x) : Yields (r.located mark) x := by
  intro s route n
  simp [Result.located, yields s route n, Except.mapError]

end Result.Yields

open Result (Yields)

def Follows (readValue : Value → Except Problem α) (readNode : Node → Result α) : Prop :=
  ∀ ⦃node value⦄, Spells node value → ∀ x, readValue value = .ok x → Yields (readNode node) x

/- The same for what may be an item of a list, where no arrays are. -/
def FollowsFlat (readValue : Value → Except Problem α) (readNode : Node → Result α) : Prop :=
  ∀ ⦃node value⦄, value.isArray = false → Spells node value →
    ∀ x, readValue value = .ok x → Yields (readNode node) x

namespace Follows
variable {readValue : Value → Except Problem α} {readNode : Node → Result α}

theorem flat (follows : Follows readValue readNode) : FollowsFlat readValue readNode :=
  fun _ _ _ spelt => follows spelt

theorem string : Follows Value.readString Node.readString := by
  intro node value spelt x read
  cases spelt with
  | string =>
    cases read
    exact .pure x
  | _ => cases read

theorem bool : Follows Value.readBool Node.readBool := by
  intro node value spelt x read
  cases spelt with
  | bool =>
    cases read
    have known : Implied.bool? (flagText x) = some x := by cases x <;> rfl
    intro s route n
    simp [Node.readBool, Node.follow, Node.isFlagScalar, known, Result.pure]
  | _ => cases read

theorem map (f : α → β) (follows : Follows readValue readNode) :
    Follows (fun value => f <$> readValue value) (fun node => (readNode node).map f) := by
  intro node value spelt y read
  obtain ⟨x, found, rfl⟩ := Schema.okMapped read
  exact (follows spelt x found).map f

theorem optional (follows : Follows readValue readNode) :
    Follows (Value.readOptional readValue) (Node.readOptional readNode) := by
  intro node value spelt y read
  have present : ∃ x, readValue value = .ok x ∧ some x = y := by
    cases spelt <;> exact Schema.okMapped read
  obtain ⟨x, found, rfl⟩ := present
  have yields := (follows spelt x found).map some
  cases spelt with
  | @bool m b =>
    have something : Node.saysNothing ⟨flagText b, .plain, none⟩ = .ok false := by cases b <;> rfl
    simpa only [Node.readOptional, Node.follow, something] using yields
  | string => exact yields
  | array => exact yields
  | object => exact yields

theorem entries (follows : Follows readValue readNode) {members pairs}
    (spelt : MembersSpell members pairs) (before m : OrderedMap α)
    (read : Value.readEntries readValue before pairs = .ok m) :
    Yields (Node.readEntries readNode before members) m := by
  induction pairs generalizing members before with
  | nil =>
    cases spelt
    cases read
    exact .pure _
  | cons pair pairs ih =>
    cases spelt with
    | @member mark key node value rest _ head tail =>
      cases found : readValue value with
      | error e => simp [Value.readEntries, found] at read
      | ok x =>
        simp only [Value.readEntries, found] at read
        cases inserted : before.insert? key x with
        | none => simp [inserted] at read
        | some more =>
          simp only [inserted] at read
          have others := ih tail more read
          have value := (follows head x found).within (·.member key)
          refine Yields.bind (.pure key) (value.bind ?_)
          simp only [inserted]
          exact others

theorem dictionary (follows : Follows readValue readNode) :
    Follows (Value.readDictionary readValue) (Node.readDictionary readNode) := by
  intro node value spelt m read
  cases spelt with
  | @object mark _ _ spelt => exact (entries follows spelt .empty m read).located mark
  | _ => cases read

end Follows

namespace FollowsFlat
variable {readValue : Value → Except Problem α} {readNode : Node → Result α}

theorem items (follows : FollowsFlat readValue readNode) {items values}
    (spelt : ItemsSpell items values) (i : Nat) (xs : List α)
    (read : Value.readItems readValue values = .ok xs) :
    Yields (Node.readItems readNode i items) xs := by
  induction values generalizing i items xs with
  | nil =>
    cases spelt
    cases read
    exact .pure []
  | cons value values ih =>
    cases spelt with
    | @item node _ rest _ flat head tail =>
      cases found : readValue value with
      | error e => simp [Value.readItems, found] at read
      | ok x =>
        simp only [Value.readItems, found] at read
        obtain ⟨others, left, rfl⟩ := Schema.okMapped read
        have first := (follows flat head x found).within (·.index i)
        have second := (ih tail (i + 1) others left).map (x :: ·)
        have step : Node.readItems readNode i (.item node rest) =
            ((readNode node).within (·.index i)).bind fun x =>
              (Node.readItems readNode (i + 1) rest).map (x :: ·) := by
          cases head <;> rfl
        rw [step]
        exact first.bind second

theorem list (follows : FollowsFlat readValue readNode) :
    Follows (Value.readList readValue) (Node.readList readNode) := by
  intro node value spelt xs read
  cases spelt with
  | @array m _ _ spelt => exact (items follows spelt 0 xs read).located m
  | _ => cases read

end FollowsFlat

structure FollowsRecord (r : Record Value (Except Problem) σ α) (r' : Record Node Result σ α) :
    Prop where
  fields : List.Forall₂ (fun f g => f.name = g.name ∧ Follows f.read g.read) r.fields r'.fields
  refusesUnknown : r.refusesUnknown = r'.refusesUnknown
  initial : r.initial = r'.initial
  finish : r.finish = r'.finish

namespace FollowsRecord
variable {r : Record Value (Except Problem) σ α} {r' : Record Node Result σ α}

theorem nameRead {key : String} (m : Mark)
    (known : (r'.field? key).isSome ∨ r'.refusesUnknown = false) :
    Yields (Node.readFieldName r' (.scalar m none ⟨key, .doubleQuoted, none⟩)) key := by
  have taken : ((r'.field? key).isNone && r'.refusesUnknown) = false := by
    rcases known with found | permitted
    · simp [Option.isSome_iff_ne_none.mp found]
    · simp [permitted]
  intro s route n
  simp only [Node.readFieldName, Node.follow, taken]
  rfl

theorem byName (same : FollowsRecord r r') {members pairs} (spelt : MembersSpell members pairs)
    (seen : List String) (s t : σ) (read : Value.readByName r seen s pairs = .ok t) :
    Yields (Node.readFields r' seen s members) t := by
  induction pairs generalizing members seen s with
  | nil =>
    cases spelt
    cases read
    exact .pure _
  | cons pair pairs ih =>
    cases spelt with
    | @member mark key node value rest _ head tail =>
      rcases Json.fieldPaired same.fields key with
        ⟨absent, absent'⟩ | ⟨f, g, found, found', follows⟩
      · simp only [Value.readByName, absent, same.refusesUnknown] at read
        split at read
        · contradiction
        · rename_i permitted
          refine (nameRead mark (.inr (by simpa using permitted))).bind ?_
          simp only [absent', head.whole]
          exact ih tail seen s read
      · simp only [Value.readByName, found] at read
        split at read
        · contradiction
        · rename_i new
          refine (nameRead mark (.inl (by simp [found']))).bind ?_
          cases stored : f.read value with
          | error problem => simp [stored] at read
          | ok store =>
            simp only [stored] at read
            simp only [found', new]
            have value := (follows head store stored).within (·.member key)
            exact value.bind (ih tail (key :: seen) (store s) read)

theorem follows (same : FollowsRecord r r') :
    FollowsFlat (Value.readRecord r) (Node.readRecord r') := by
  intro node value flat spelt x read
  cases spelt with
  | array => cases flat
  | @object mark members pairs spelt =>
    simp only [Value.readRecord] at read
    cases found : Value.readByName r [] r.initial pairs with
    | error problem => simp [found] at read
    | ok t =>
      simp only [found] at read
      have fields := same.byName spelt [] r.initial t found
      have finished : r'.finish .keyed t = .ok x := by
        rw [← same.finish]
        exact Schema.okKept read
      rw [same.initial] at fields
      have whole : Yields (Node.finishRecord r' t) x := by
        simp only [Node.finishRecord, finished]
        exact .pure x
      exact (fields.bind whole).located mark
  | _ => cases read

theorem field {readValue : Value → Except Problem α} {readNode : Node → Result α}
    (follows : Follows readValue readNode) (name : String) (store : σ → α → σ) :
    (Field.of name readValue store).name = (Field.of name readNode store).name ∧
      Follows (Field.of name readValue store).read (Field.of name readNode store).read :=
  ⟨rfl, follows.map fun x s => store s x⟩

end FollowsRecord

theorem stringsFollow : Follows Schema.strings Schema.strings := Follows.string.flat.list

theorem experimentFollows : FollowsRecord Schema.experimentRecord Schema.experimentRecord where
  fields := .cons (FollowsRecord.field .string ..) <|
    .cons (FollowsRecord.field (Follows.dictionary .string).optional ..) <|
    .cons (FollowsRecord.field stringsFollow.optional ..) <|
    .cons (FollowsRecord.field stringsFollow.optional ..) <|
    .cons (FollowsRecord.field (Follows.optional .string) ..) .nil
  refusesUnknown := rfl
  initial := rfl
  finish := rfl

theorem entryFollows : FollowsRecord Schema.entryRecord Schema.entryRecord where
  fields := .cons (FollowsRecord.field stringsFollow ..) <|
    .cons (FollowsRecord.field stringsFollow ..) <|
    .cons (FollowsRecord.field (Follows.optional .bool) ..) <|
    .cons (FollowsRecord.field experimentFollows.follows.list ..) .nil
  refusesUnknown := rfl
  initial := rfl
  finish := rfl

theorem trialConfigFollows : Follows Schema.trialConfig Schema.trialConfig :=
  (Follows.dictionary entryFollows.follows.list).map TrialConfig.mk

end StudyPlan.Yaml
