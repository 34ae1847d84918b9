import StudyPlan.Proofs.Formats

/-! JSON is lawful, as values and as texts. -/
namespace StudyPlan
open Schema (Problem Record Field Always okMapped)

namespace Json.Value
variable {σ α : Type} {P : α → Prop}

theorem optionalGives {read : Value → Except Problem α} (all : Always read P) :
    Always (readOptional read) fun found => ∀ x ∈ found, P x := by
  intro v found given
  change readOptional read v = .ok found at given
  unfold readOptional at given
  split at given
  · cases given
    simp
  · obtain ⟨x, read, rfl⟩ := okMapped given
    rintro y ⟨⟩
    exact all v x read

theorem itemsGive {read : Value → Except Problem α} (all : Always read P) {values : List Value}
    {xs : List α} (given : readItems read values = .ok xs) : ∀ x ∈ xs, P x := by
  induction values generalizing xs with
  | nil =>
    cases given
    simp
  | cons v rest ih =>
    simp only [readItems] at given
    split at given
    · contradiction
    · rename_i x head
      obtain ⟨tail, others, rfl⟩ := okMapped given
      exact List.forall_mem_cons.mpr ⟨all v x head, ih others⟩

theorem listGives {read : Value → Except Problem α} (all : Always read P) :
    Always (readList read) fun xs => ∀ x ∈ xs, P x := by
  intro v xs given
  cases v with
  | array items => exact itemsGive all given
  | _ => cases given

theorem entriesGive {read : Value → Except Problem α} (all : Always read P)
    {members : List (String × Value)} {before m : OrderedMap α} (distinct : before.WellFormed)
    (kept : ∀ entry ∈ before.entries, P entry.2)
    (given : readEntries read before members = .ok m) :
    m.WellFormed ∧ ∀ entry ∈ m.entries, P entry.2 := by
  induction members generalizing before with
  | nil =>
    cases given
    exact ⟨distinct, kept⟩
  | cons member rest ih =>
    obtain ⟨key, v⟩ := member
    simp only [readEntries] at given
    split at given
    · contradiction
    · rename_i x head
      split at given
      · contradiction
      · rename_i next inserted
        refine ih (OrderedMap.insertWellFormed distinct inserted) ?_ given
        exact OrderedMap.insertKeeps kept (all v x head) inserted

theorem dictionaryGives {read : Value → Except Problem α} (all : Always read P) :
    Always (readDictionary read) fun m => m.WellFormed ∧ ∀ entry ∈ m.entries, P entry.2 := by
  intro v m given
  cases v with
  | object members => exact entriesGive all OrderedMap.emptyWellFormed nofun given
  | _ => cases given

variable {r : Record Value (Except Problem) σ α} {keeps : σ → Prop}

theorem inOrderKeeps {fields : List (Field Value (Except Problem) σ)}
    (stored : ∀ f ∈ fields, Always f.read fun store => ∀ s, keeps s → keeps (store s))
    {values : List Value} {s t : σ} {left : Nat} (kept : keeps s)
    (given : readInOrder s fields values = .ok (t, left)) : keeps t := by
  induction fields generalizing values s with
  | nil =>
    cases given
    exact kept
  | cons f fields ih =>
    cases values with
    | nil =>
      cases given
      exact kept
    | cons v rest =>
      simp only [readInOrder] at given
      split at given
      · contradiction
      · rename_i store read
        obtain ⟨head, tail⟩ := List.forall_mem_cons.mp stored
        exact ih tail (head v store read s kept) given

theorem memberRead {key : String} {v : Value} {rest : List (String × Value)}
    {seen : List String} {s t : σ} (given : readByName r seen s ((key, v) :: rest) = .ok t) :
    (r.field? key = none ∧ readByName r seen s rest = .ok t) ∨
      ∃ f change, r.field? key = some f ∧ f.read v = .ok change ∧
        readByName r (key :: seen) (change s) rest = .ok t := by
  simp only [readByName] at given
  split at given
  · rename_i absent
    split at given
    · contradiction
    · exact .inl ⟨absent, given⟩
  · rename_i f found
    split at given
    · contradiction
    · split at given
      · contradiction
      · rename_i change read
        exact .inr ⟨f, change, found, read, given⟩

theorem byNameKeeps
    (stored : ∀ f ∈ r.fields, Always f.read fun store => ∀ s, keeps s → keeps (store s))
    {members : List (String × Value)} {seen : List String} {s t : σ} (kept : keeps s)
    (given : readByName r seen s members = .ok t) : keeps t := by
  induction members generalizing seen s with
  | nil =>
    cases given
    exact kept
  | cons member rest ih =>
    obtain ⟨key, v⟩ := member
    rcases memberRead given with ⟨-, later⟩ | ⟨f, store, found, read, later⟩
    · exact ih kept later
    · exact ih (stored f (List.mem_of_find?_eq_some found) v store read s kept) later

theorem recordGives (initial : keeps r.initial)
    (stored : ∀ f ∈ r.fields, Always f.read fun store => ∀ s, keeps s → keeps (store s))
    (finished : ∀ form s x, keeps s → r.finish form s = .ok x → P x) :
    Always (readRecord r) P := by
  intro v x given
  change readRecord r v = .ok x at given
  cases v with
  | array items =>
    simp only [readRecord] at given
    split at given
    · contradiction
    · rename_i t left read
      have kept := inOrderKeeps stored initial read
      split at given
      · contradiction
      · rename_i y ready
        split at given
        · cases given
          exact finished _ t x kept ready
        · contradiction
  | object members =>
    simp only [readRecord] at given
    split at given
    · contradiction
    · rename_i t read
      have kept := byNameKeeps stored initial read
      cases ready : r.finish .keyed t with
      | error missing =>
        rw [ready] at given
        cases given
      | ok y =>
        rw [ready] at given
        cases given
        exact finished _ t x kept ready
  | _ => cases given

instance : Schema.Lawful Value (Except Problem) where
  mapped := okMapped
  optional := optionalGives
  list := listGives
  dictionary := dictionaryGives
  record _ initial stored finished := recordGives initial stored finished

end Json.Value

namespace Json.Node
variable {σ α : Type} {P : α → Prop}

theorem optionalGives {read : Node → Except Refusal α} (all : Always read P) :
    Always (readOptional read) fun found => ∀ x ∈ found, P x := by
  intro node found given
  change readOptional read node = .ok found at given
  unfold readOptional at given
  split at given
  · cases given
    simp
  · obtain ⟨x, read, rfl⟩ := okMapped given
    rintro y ⟨⟩
    exact all node x read

theorem eachGives {read : Node → Except Refusal α} (all : Always read P) {items : Items}
    {xs : List α} (given : readEach read items = .ok xs) : ∀ x ∈ xs, P x := by
  fun_induction readEach read items generalizing xs with
  | case1 =>
    cases given
    simp
  | case2 => contradiction
  | case3 => contradiction
  | case4 value behind rest x head ih =>
    obtain ⟨tail, others, rfl⟩ := okMapped given
    exact List.forall_mem_cons.mpr ⟨all value x head, ih others⟩

theorem notUnexpected {node : Node} {expected : String} {x : α} :
    node.unexpected expected ≠ .ok x := by
  unfold unexpected
  split <;> simp

theorem listGives {read : Node → Except Refusal α} (all : Always read P) :
    Always (readList read) fun xs => ∀ x ∈ xs, P x := by
  intro node xs given
  change readList read node = .ok xs at given
  unfold readList at given
  split at given
  · exact eachGives all given
  · exact absurd given notUnexpected

theorem entriesGive {read : Node → Except Refusal α} (all : Always read P)
    {members : Members} {before m : OrderedMap α} (distinct : before.WellFormed)
    (kept : ∀ entry ∈ before.entries, P entry.2)
    (given : readEntries read before members = .ok m) :
    m.WellFormed ∧ ∀ entry ∈ m.entries, P entry.2 := by
  fun_induction readEntries read before members with
  | case1 =>
    cases given
    exact ⟨distinct, kept⟩
  | case2 | case3 | case4 | case5 => contradiction
  | case6 before key _ value _ rest x head next inserted ih =>
    refine ih (OrderedMap.insertWellFormed distinct inserted) ?_ given
    exact OrderedMap.insertKeeps kept (all value x head) inserted

theorem dictionaryGives {read : Node → Except Refusal α} (all : Always read P) :
    Always (readDictionary read) fun m => m.WellFormed ∧ ∀ entry ∈ m.entries, P entry.2 := by
  intro node m given
  change readDictionary read node = .ok m at given
  unfold readDictionary at given
  split at given
  · exact entriesGive all OrderedMap.emptyWellFormed nofun given
  · exact absurd given notUnexpected

variable {r : Record Node (Except Refusal) σ α} {keeps : σ → Prop}

theorem inOrderKeeps {fields : List (Field Node (Except Refusal) σ)}
    (stored : ∀ f ∈ fields, Always f.read fun store => ∀ s, keeps s → keeps (store s))
    {items : Items} {s t : σ} {c behind : Cursor} {complete : Bool} (kept : keeps s)
    (given : readInOrder s c fields items = .ok (t, behind, complete)) : keeps t := by
  induction fields generalizing items s c with
  | nil =>
    cases given
    exact kept
  | cons f fields ih =>
    cases items with
    | close =>
      cases given
      exact kept
    | broken => cases given
    | item value place rest =>
      simp only [readInOrder] at given
      split at given
      · contradiction
      · rename_i store read
        obtain ⟨head, tail⟩ := List.forall_mem_cons.mp stored
        exact ih tail (head value store read s kept) given

theorem byNameKeeps
    (stored : ∀ f ∈ r.fields, Always f.read fun store => ∀ s, keeps s → keeps (store s))
    {members : Members} {seen : List String} {s t : σ} {c behind : Cursor} (kept : keeps s)
    (given : readByName r seen s c members = .ok (t, behind)) : keeps t := by
  fun_induction readByName r seen s c members with
  | case1 =>
    cases given
    exact kept
  | case2 | case3 | case4 | case5 | case7 | case8 => contradiction
  | case6 _ _ _ _ _ _ _ _ _ _ _ ih => exact ih kept given
  | case9 seen s _ _ _ value _ _ f found _ store read ih =>
    exact ih (stored f (List.mem_of_find?_eq_some found) value store read s kept) given

theorem recordGives (initial : keeps r.initial)
    (stored : ∀ f ∈ r.fields, Always f.read fun store => ∀ s, keeps s → keeps (store s))
    (finished : ∀ form s x, keeps s → r.finish form s = .ok x → P x) :
    Always (readRecord r) P := by
  intro node x given
  change readRecord r node = .ok x at given
  unfold readRecord at given
  split at given
  · split at given
    · contradiction
    · rename_i t c complete read
      have kept := inOrderKeeps stored initial read
      split at given
      · contradiction
      · rename_i y ready
        have same : y = x := by
          split at given
          · obtain ⟨_, _, same⟩ := okMapped given
            exact same
          · exact Except.ok.inj given
        cases same
        exact finished _ t x kept ready
  · split at given
    · contradiction
    · rename_i t c read
      have kept := byNameKeeps stored initial read
      cases ready : r.finish .keyed t with
      | error missing =>
        rw [ready] at given
        cases given
      | ok y =>
        rw [ready] at given
        cases given
        exact finished _ t x kept ready
  · exact absurd given notUnexpected

instance : Schema.Lawful Node (Except Refusal) where
  mapped := okMapped
  optional := optionalGives
  list := listGives
  dictionary := dictionaryGives
  record _ initial stored finished := recordGives initial stored finished

end Json.Node

end StudyPlan
