import StudyPlan.Proofs.Json.Passage

/-! Readings that look at everything. A schema that refuses what it does not know reads every
part of a text, so a text out of which it gets something has no stray byte anywhere. -/
namespace StudyPlan.Json
open Text (Glyph)
open Schema (Record Field okMapped okKept)

def Passing {α : Type} (read : Node → Except Refusal α) : Prop :=
  ∀ ⦃c node d⦄, Spans c node d → ∀ x, read node = .ok x → Passes c d

namespace Passing
variable {σ α β : Type} {read : Node → Except Refusal α}

theorem string : Passing Node.readString := by
  intro c node d spans x given
  unfold Node.readString at given
  split at given
  · cases spans with
    | scalar clean => exact clean _ rfl
  · exact absurd given Node.notUnexpected

theorem bool : Passing Node.readBool := by
  intro c node d spans x given
  unfold Node.readBool at given
  split at given
  · cases spans with
    | scalar clean => exact clean _ rfl
  · exact absurd given Node.notUnexpected

theorem map (f : α → β) (passing : Passing read) : Passing fun node => f <$> read node := by
  intro c node d spans y given
  obtain ⟨x, got, -⟩ := okMapped given
  exact passing spans x got

theorem optional (passing : Passing read) : Passing (Node.readOptional read) := by
  intro c node d spans found given
  unfold Node.readOptional at given
  split at given
  · cases spans with
    | scalar clean => exact clean _ rfl
  · obtain ⟨x, got, -⟩ := okMapped given
    exact passing spans x got

theorem items (passing : Passing read) {items : Items} {c d : Cursor}
    (span : ItemsSpan c items d) {xs : List α} (given : Node.readEach read items = .ok xs) :
    Passes c d := by
  fun_induction Node.readEach read items generalizing c xs with
  | case1 =>
    cases span with
    | close closed => exact closed
  | case2 | case3 => contradiction
  | case4 value behind rest x got ih =>
    cases span with
    | item _ head tail =>
      obtain ⟨_, others, -⟩ := okMapped given
      exact (passing head x got).trans (ih tail others)

theorem list (passing : Passing read) : Passing (Node.readList read) := by
  intro c node d spans xs given
  unfold Node.readList at given
  split at given
  · cases spans with
    | array opened all => exact opened.trans (items passing all given)
  · exact absurd given Node.notUnexpected

theorem entries (passing : Passing read) {members : Members} {c d : Cursor}
    (span : MembersSpan c members d) {before m : OrderedMap α}
    (given : Node.readEntries read before members = .ok m) : Passes c d := by
  fun_induction Node.readEntries read before members generalizing c with
  | case1 =>
    cases span with
    | close closed => exact closed
  | case2 | case3 | case4 | case5 => contradiction
  | case6 before key _ value _ rest x got next inserted ih =>
    cases span with
    | member named head tail =>
      exact ((named key rfl).trans (passing head x got)).trans (ih tail given)

theorem dictionary (passing : Passing read) : Passing (Node.readDictionary read) := by
  intro c node d spans m given
  unfold Node.readDictionary at given
  split at given
  · cases spans with
    | object opened all => exact opened.trans (entries passing all given)
  · exact absurd given Node.notUnexpected

variable {r : Record Node (Except Refusal) σ α}

theorem inOrder {fields : List (Field Node (Except Refusal) σ)}
    (passing : ∀ f ∈ fields, Passing f.read) {items : Items} {c d behind : Cursor} {s t : σ}
    {complete : Bool} (span : ItemsSpan c items d)
    (given : Node.readInOrder s c fields items = .ok (t, behind, complete)) :
    if complete then ∃ rest, ItemsSpan behind rest d ∧ Passes c behind else Passes c d := by
  induction fields generalizing items c s with
  | nil =>
    cases given
    exact ⟨items, span, .refl _⟩
  | cons f fields ih =>
    cases span with
    | close closed =>
      cases given
      exact closed
    | item _ head tail =>
      simp only [Node.readInOrder] at given
      split at given
      · contradiction
      · rename_i store got
        obtain ⟨here, later⟩ := List.forall_mem_cons.mp passing
        have first := here head store got
        have others := ih later tail given
        cases complete with
        | true =>
          obtain ⟨rest, left, passed⟩ := others
          exact ⟨rest, left, first.trans passed⟩
        | false => exact first.trans others

theorem byName (closed : r.refusesUnknown = true) (passing : ∀ f ∈ r.fields, Passing f.read)
    {members : Members} {c d inside behind : Cursor} {seen : List String} {s t : σ}
    (span : MembersSpan c members d)
    (given : Node.readByName r seen s inside members = .ok (t, behind)) : Passes c d := by
  fun_induction Node.readByName r seen s inside members generalizing c with
  | case1 =>
    cases span with
    | close closed => exact closed
  | case2 | case3 | case4 | case5 | case7 | case8 => contradiction
  | case6 _ _ _ _ _ _ _ _ _ lenient => exact absurd closed lenient
  | case9 seen s _ key _ value _ _ f found _ store got ih =>
    cases span with
    | member named head tail =>
      have field := passing f (List.mem_of_find?_eq_some found)
      exact ((named key rfl).trans (field head store got)).trans (ih tail given)

theorem record (closed : r.refusesUnknown = true) (passing : ∀ f ∈ r.fields, Passing f.read) :
    Passing (Node.readRecord r) := by
  intro c node d spans x given
  unfold Node.readRecord at given
  split at given
  · split at given
    · contradiction
    · rename_i t behind complete read
      cases spans with
      | array opened all =>
        have passed := inOrder passing all read
        refine opened.trans ?_
        split at given
        · contradiction
        · cases complete with
          | false => exact passed
          | true =>
            obtain ⟨rest, left, passed⟩ := passed
            simp only [if_true] at given
            obtain ⟨_, bracket, -⟩ := okMapped given
            -- the array was closed there, so no item is left
            cases left with
            | close ended => exact passed.trans ended
            | item open_ => exact absurd (okKept bracket) open_
  · split at given
    · contradiction
    · rename_i read
      cases spans with
      | object opened all => exact opened.trans (byName closed passing all read)
  · exact absurd given Node.notUnexpected

theorem field {name : String} {store : σ → α → σ} (passing : Passing read) :
    Passing (Field.of name read store).read := passing.map fun x s => store s x

theorem strings : Passing Schema.strings := string.list

theorem experiment : Passing (Node.readRecord Schema.experimentRecord) := by
  refine record rfl ?_
  simp only [Schema.experimentRecord, List.forall_mem_cons]
  exact ⟨string.field, string.dictionary.optional.field, strings.optional.field,
    strings.optional.field, string.optional.field, by simp⟩

theorem entry : Passing (Node.readRecord Schema.entryRecord) := by
  refine record rfl ?_
  simp only [Schema.entryRecord, List.forall_mem_cons]
  exact ⟨strings.field, strings.field, bool.optional.field, experiment.list.field, by simp⟩

theorem trialConfig : Passing Schema.trialConfig := entry.list.dictionary.map TrialConfig.mk

end Passing

theorem textPasses {α : Type} {read : Node → Except Refusal α} (passing : Passing read)
    {text : List Glyph} {x : α} (given : Node.readText read text = .ok x) :
    ∃ cs : List Char, text = cs.map .char := by
  unfold Node.readText at given
  split at given
  rename_i node behind tree
  split at given
  · contradiction
  · rename_i y got
    obtain ⟨_, closing, -⟩ := okMapped given
    have ended := okKept closing
    unfold Node.ending at ended
    split at ended
    · contradiction
    · rename_i d
      split at ended
      · rename_i blank
        have spans := nodeSpans (c := .ofGlyphs text) tree
        obtain ⟨cs, passed⟩ := (passing spans y got).trans (.skip d)
        have nothing : d.skip.rest = [] := by simpa [Cursor.isAtEnd] using blank
        rw [nothing, List.append_nil] at passed
        exact ⟨cs, passed⟩
      · contradiction

end StudyPlan.Json
