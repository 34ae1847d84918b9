import StudyPlan.Proofs.Json.Lawful

/-! What readings of JSON values accept: each kind of reading is described by the values
that it takes and by what it makes of them. A record by name and a record in order are
described as one, by the members that the value gives to it. -/
namespace StudyPlan.Json.Value
open Schema (Problem Record Field okMapped)

variable {σ α β γ : Type}

theorem stringAccepted {v : Value} {s : String} : readString v = .ok s ↔ v = .string s := by
  cases v <;> simp [readString, unexpected]

theorem boolAccepted {v : Value} {b : Bool} : readBool v = .ok b ↔ v = .bool b := by
  cases v <;> simp [readBool, unexpected]

theorem itemsAccepted {read : Value → Except Problem α} {values : List Value} {xs : List α} :
    readItems read values = .ok xs ↔ List.Forall₂ (fun v x => read v = .ok x) values xs := by
  induction values generalizing xs with
  | nil => cases xs <;> simp [readItems]
  | cons v rest ih =>
    cases head : read v with
    | error e => cases xs <;> simp [readItems, head]
    | ok x =>
      cases others : readItems read rest with
      | error e => cases xs <;> simp [readItems, head, others, Except.map, ← ih]
      | ok tail => cases xs <;> simp [readItems, head, others, Except.map, ← ih]

theorem listAccepted {read : Value → Except Problem α} {v : Value} {xs : List α} :
    readList read v = .ok xs ↔
      ∃ values, v = .array values ∧ List.Forall₂ (fun v x => read v = .ok x) values xs := by
  cases v <;> simp [readList, unexpected, itemsAccepted]

theorem mappedFrom {f : β → γ} {xs : List γ} {ys : List β} :
    List.Forall₂ (fun x y => x = f y) xs ys ↔ xs = ys.map f := by
  calc List.Forall₂ (fun x y => x = f y) xs ys
      ↔ List.Forall₂ Eq xs (ys.map f) := List.forall₂_map_right_iff.symm
    _ ↔ xs = ys.map f := by rw [List.forall₂_eq_eq_eq]

theorem optionalAccepted {read : Value → Except Problem α} {v : Value} {found : Option α} :
    readOptional read v = .ok found ↔
      (v = .null ∧ found = none) ∨ (v ≠ .null ∧ ∃ x, read v = .ok x ∧ found = some x) := by
  by_cases null : v = .null
  · subst null
    simp [readOptional, eq_comm]
  · have present : readOptional read v = (read v).map some := by
      cases v <;> simp_all [readOptional]
    cases given : read v <;> simp [present, given, null, Except.map, eq_comm]

def EntryRead (read : Value → Except Problem α) (member : String × Value) (entry : String × α) :
    Prop := member.1 = entry.1 ∧ read member.2 = .ok entry.2

theorem entriesAccepted {read : Value → Except Problem α} {before m : OrderedMap α}
    (distinct : before.WellFormed) {members : List (String × Value)} :
    readEntries read before members = .ok m ↔ m.WellFormed ∧ ∃ entries,
      m.entries = before.entries ++ entries ∧ List.Forall₂ (EntryRead read) members entries := by
  induction members generalizing before with
  | nil =>
    obtain ⟨entries⟩ := m
    obtain ⟨kept⟩ := before
    simp only [readEntries, Except.ok.injEq, OrderedMap.mk.injEq, List.forall₂_nil_left_iff,
      exists_eq_right, List.append_nil]
    exact ⟨fun same => ⟨same ▸ distinct, same.symm⟩, fun given => given.2.symm⟩
  | cons member rest ih =>
    obtain ⟨key, v⟩ := member
    simp only [readEntries]
    cases head : read v with
    | error e => simp [List.forall₂_cons_left_iff, EntryRead, head]
    | ok x =>
      by_cases taken : key ∈ before.keys
      · simp only [OrderedMap.insertedTaken taken, reduceCtorEq, false_iff]
        rintro ⟨unique, entries, whole, others⟩
        obtain ⟨⟨name, y⟩, tail, ⟨rfl, -⟩, -, rfl⟩ := List.forall₂_cons_left_iff.mp others
        simp only [OrderedMap.WellFormed, OrderedMap.keys, whole, List.map_append] at unique
        exact (List.nodup_append.mp unique).2.2 _ taken _ (by simp) rfl
      · have inserted : before.insert? key x = some (before.push key x) :=
          OrderedMap.insertedFresh taken
        simp only [inserted]
        rw [ih (OrderedMap.insertWellFormed distinct inserted)]
        constructor
        · rintro ⟨unique, entries, whole, others⟩
          refine ⟨unique, (key, x) :: entries, ?_, .cons ⟨rfl, head⟩ others⟩
          simpa [OrderedMap.push] using whole
        · rintro ⟨unique, entries, whole, paired⟩
          obtain ⟨⟨name, y⟩, tail, ⟨rfl, same⟩, others, rfl⟩ := List.forall₂_cons_left_iff.mp paired
          cases Except.ok.inj (head.symm.trans same)
          exact ⟨unique, tail, by simpa [OrderedMap.push] using whole, others⟩

theorem dictionaryAccepted {read : Value → Except Problem α} {v : Value} {m : OrderedMap α} :
    readDictionary read v = .ok m ↔ m.WellFormed ∧ ∃ members, v = .object members ∧
      List.Forall₂ (EntryRead read) members m.entries := by
  cases v with
  | object members =>
    have all := @entriesAccepted _ read .empty m OrderedMap.emptyWellFormed members
    simpa [readDictionary, OrderedMap.empty] using all
  | _ => simp [readDictionary, unexpected]

/- The members that a value gives to a record with these fields. An object names each of
them, and none twice; an array gives as many as it has values. -/
inductive Gives (fields : List String) : Value → List (String × Value) → Prop where
  | byName {members : List (String × Value)} (known : ∀ m ∈ members, m.1 ∈ fields)
      (distinct : (members.map Prod.fst).Nodup) : Gives fields (.object members) members
  | inOrder {values : List Value} (fit : values.length ≤ fields.length) :
      Gives fields (.array values) (fields.zip values)

theorem zipNames (fields : List String) (values : List Value) :
    ((fields.zip values).map Prod.fst).Sublist fields := by
  induction fields generalizing values with
  | nil => simp
  | cons name fields ih =>
    cases values with
    | nil => simp
    | cons v rest => exact (ih rest).cons_cons name

theorem Gives.distinct {fields : List String} {v : Value} {members : List (String × Value)}
    (given : Gives fields v members) (once : fields.Nodup) : (members.map Prod.fst).Nodup := by
  cases given with
  | byName _ distinct => exact distinct
  | inOrder fit =>
    exact once.sublist (zipNames fields _)

theorem Gives.known {fields : List String} {v : Value} {members : List (String × Value)}
    (given : Gives fields v members) : ∀ m ∈ members, m.1 ∈ fields := by
  cases given with
  | byName known => exact known
  | inOrder => exact fun m member => (List.of_mem_zip member).1

/- Records. Their members are read one after the other, so the order in which they are given
does not matter as long as no field is given twice. -/

variable {r : Record Value (Except Problem) σ α}

theorem byNameGiven (closed : r.refusesUnknown = true) {members : List (String × Value)}
    {seen : List String} {s : σ} :
    (∃ t, readByName r seen s members = .ok t) ↔
      (members.map Prod.fst).Nodup ∧ (∀ m ∈ members, m.1 ∉ seen) ∧
        ∀ m ∈ members, ∃ f change, r.field? m.1 = some f ∧ f.read m.2 = .ok change := by
  induction members generalizing seen s with
  | nil => simp [readByName]
  | cons member rest ih =>
    obtain ⟨key, v⟩ := member
    simp only [readByName, closed, if_true]
    cases found : r.field? key with
    | none => simp [found]
    | some f =>
      by_cases again : key ∈ seen
      · simp [again]
      · cases given : f.read v with
        | error problem => simp [again, found, given]
        | ok change =>
          have apart : (∀ m ∈ rest, m.1 ∉ key :: seen) ↔
              key ∉ rest.map Prod.fst ∧ ∀ m ∈ rest, m.1 ∉ seen := by
            simp only [List.mem_cons, not_or, List.mem_map, not_exists, not_and]
            exact ⟨fun all => ⟨fun m member => (all m member).1, fun m member => (all m member).2⟩,
              fun all m member => ⟨all.1 m member, all.2 m member⟩⟩
          simp only [List.contains_iff_mem, again, if_false, given, ih, apart]
          simp [found, given, again, and_assoc, and_left_comm]

def Apart (get : σ → γ) (f : Field Value (Except Problem) σ) : Prop :=
  ∀ v change, f.read v = .ok change → ∀ s, get (change s) = get s

structure Part (r : Record Value (Except Problem) σ α) (name : String)
    (read : Value → Except Problem β) (get : σ → γ) (put : β → γ) : Prop where
  own : ∃ store, r.field? name = some (.of name read store) ∧ ∀ s x, get (store s x) = put x
  beside : ∀ f ∈ r.fields, f.name = name ∨ Apart get f

theorem ofName {name : String} {read : Value → Except Problem β} {store : σ → β → σ} :
    (Field.of name read store).name = name := rfl

theorem apartOf {name : String} {read : Value → Except Problem β} {store : σ → β → σ}
    {get : σ → γ} : Apart get (.of name read store) ↔
      ∀ v x, read v = .ok x → ∀ s, get (store s x) = get s := by
  constructor
  · intro apart v x given
    exact apart v (store · x) (by simp [Field.of, given])
  · rintro kept v change given
    obtain ⟨x, read, rfl⟩ := okMapped given
    exact kept v x read

def Stored (members : List (String × Value)) (name : String) (read : Value → Except Problem β)
    (put : β → γ) (before after : γ) : Prop :=
  match members.lookup name with
  | none => after = before
  | some v => ∃ x, read v = .ok x ∧ after = put x

theorem fieldName {name : String} {f : Field Value (Except Problem) σ}
    (found : r.field? name = some f) : f.name = name ∧ f ∈ r.fields :=
  ⟨by simpa using List.find?_some found, List.mem_of_find?_eq_some found⟩

theorem partStored {name : String} {read : Value → Except Problem β} (get : σ → γ) (put : β → γ)
    (part : Part r name read get put) {members : List (String × Value)} {seen : List String}
    {s t : σ} (distinct : (members.map Prod.fst).Nodup)
    (given : readByName r seen s members = .ok t) :
    Stored members name read put (get s) (get t) := by
  obtain ⟨store, own, written⟩ := part.own
  induction members generalizing seen s with
  | nil =>
    cases given
    rfl
  | cons member rest ih =>
    obtain ⟨key, v⟩ := member
    obtain ⟨fresh, others⟩ := List.nodup_cons.mp distinct
    by_cases same : name = key
    · subst same
      rcases memberRead given with ⟨absent, -⟩ | ⟨f, change, found, read', later⟩
      · simp [own] at absent
      · cases own.symm.trans found
        obtain ⟨x, value, rfl⟩ := okMapped read'
        have last := ih others later
        simp only [Stored, OrderedMap.lookupFresh fresh] at last
        simp only [Stored, List.lookup_cons_self]
        exact ⟨x, value, last.trans (written s x)⟩
    · have other : (name == key) = false := by simpa using same
      have passed : ((key, v) :: rest).lookup name = rest.lookup name := by
        simp [List.lookup_cons, other]
      unfold Stored
      rw [passed]
      rcases memberRead given with ⟨-, later⟩ | ⟨f, change, found, read', later⟩
      · exact ih others later
      · obtain ⟨named, member⟩ := fieldName found
        have kept := (part.beside f member).resolve_left (by rw [named]; exact Ne.symm same)
        rw [← kept v change read' s]
        exact ih others later

theorem inOrderByName {fields : List (Field Value (Except Problem) σ)}
    (known : ∀ f ∈ fields, r.field? f.name = some f) (distinct : (fields.map (·.name)).Nodup)
    {seen : List String} (apart : ∀ f ∈ fields, f.name ∉ seen) (s : σ) (values : List Value) :
    (readInOrder s fields values).map Prod.fst =
      readByName r seen s ((fields.map (·.name)).zip values) := by
  induction fields generalizing seen s values with
  | nil => rfl
  | cons f fields ih =>
    cases values with
    | nil => rfl
    | cons v rest =>
      obtain ⟨here, later⟩ := List.forall_mem_cons.mp known
      obtain ⟨fresh, others⟩ := List.nodup_cons.mp distinct
      obtain ⟨new, apart⟩ := List.forall_mem_cons.mp apart
      simp only [readInOrder, List.map_cons, List.zip_cons_cons, readByName, here]
      simp only [List.contains_iff_mem, new, if_false]
      cases f.read v with
      | error problem => rfl
      | ok change =>
        refine ih later others ?_ (change s) rest
        intro g member
        have different : g.name ≠ f.name := fun same => fresh (List.mem_map.mpr ⟨g, member, same⟩)
        simp [different, apart g member]

theorem inOrderLeft {fields : List (Field Value (Except Problem) σ)} {s t : σ}
    {values : List Value} {left : Nat} (given : readInOrder s fields values = .ok (t, left)) :
    left = values.length - fields.length := by
  induction fields generalizing s values with
  | nil =>
    cases given
    rfl
  | cons f fields ih =>
    cases values with
    | nil =>
      cases given
      simp
    | cons v rest =>
      simp only [readInOrder] at given
      split at given
      · contradiction
      · have tail := ih given
        simp only [List.length_cons]
        omega

theorem fieldsFound (distinct : r.fieldNames.Nodup) : ∀ f ∈ r.fields, r.field? f.name = some f := by
  unfold Record.field?
  unfold Record.fieldNames at distinct
  generalize r.fields = fields at distinct ⊢
  induction fields with
  | nil => simp
  | cons g fields ih =>
    obtain ⟨fresh, others⟩ := List.nodup_cons.mp distinct
    intro f member
    rcases List.mem_cons.mp member with rfl | later
    · simp
    · have different : g.name ≠ f.name := fun same => fresh (List.mem_map.mpr ⟨f, later, same.symm⟩)
      simp [different, ih others f later]

theorem keyedAccepted {members : List (String × Value)} {x : α} :
    readRecord r (.object members) = .ok x ↔
      ∃ t, readByName r [] r.initial members = .ok t ∧ r.finish .keyed t = .ok x := by
  simp only [readRecord]
  cases readByName r [] r.initial members with
  | error problem => simp
  | ok t => cases ready : r.finish .keyed t <;> simp [ready, Except.mapError]

theorem orderedAccepted (distinct : r.fieldNames.Nodup)
    (uniform : r.finish .positional = r.finish .keyed) {values : List Value} {x : α} :
    readRecord r (.array values) = .ok x ↔ values.length ≤ r.fields.length ∧
      ∃ t, readByName r [] r.initial (r.fieldNames.zip values) = .ok t ∧
        r.finish .keyed t = .ok x := by
  have apart : ∀ f ∈ r.fields, f.name ∉ ([] : List String) := by simp
  have same := inOrderByName (fieldsFound distinct) distinct apart r.initial values
  rw [show r.fieldNames = r.fields.map (·.name) from rfl, ← same]
  simp only [readRecord, uniform]
  cases read : readInOrder r.initial r.fields values with
  | error problem => simp [Except.map]
  | ok found =>
    obtain ⟨t, left⟩ := found
    have count := inOrderLeft read
    have none : left = 0 ↔ values.length ≤ r.fields.length := by omega
    cases ready : r.finish .keyed t with
    | error missing => simp [Except.map, ready]
    | ok y =>
      by_cases fit : values.length ≤ r.fields.length
      · simp [Except.map, ready, none.mpr fit, fit]
      · simp [Except.map, ready, mt none.mp fit, fit]

theorem recordAccepted (closed : r.refusesUnknown = true) (distinct : r.fieldNames.Nodup)
    (uniform : r.finish .positional = r.finish .keyed) {v : Value} {x : α} :
    readRecord r v = .ok x ↔ ∃ members, Gives r.fieldNames v members ∧
      ∃ t, readByName r [] r.initial members = .ok t ∧ r.finish .keyed t = .ok x := by
  cases v with
  | object members =>
    rw [keyedAccepted]
    constructor
    · rintro ⟨t, read, ready⟩
      obtain ⟨unique, -, known⟩ := (byNameGiven closed).mp ⟨t, read⟩
      refine ⟨members, .byName ?_ unique, t, read, ready⟩
      intro m member
      obtain ⟨f, -, found, -⟩ := known m member
      obtain ⟨named, inside⟩ := fieldName found
      exact List.mem_map.mpr ⟨f, inside, named⟩
    · rintro ⟨_, ⟨⟩, read⟩
      exact read
  | array values =>
    rw [orderedAccepted distinct uniform]
    constructor
    · rintro ⟨fit, read⟩
      exact ⟨_, .inOrder (by simpa [Record.fieldNames] using fit), read⟩
    · rintro ⟨_, given, read⟩
      cases given with
      | inOrder fit => exact ⟨by simpa [Record.fieldNames] using fit, read⟩
  | _ =>
    simp only [readRecord, unexpected, reduceCtorEq, false_iff]
    rintro ⟨_, ⟨⟩, _⟩

def Optional (is : Value → α → Prop) (given : Option Value) : Option α → Prop
  | none => given = none ∨ given = some .null
  | some x => ∃ v, given = some v ∧ is v x

theorem optionalStored {is : Value → α → Prop} {read : Value → Except Problem α}
    (accepted : ∀ v x, read v = .ok x ↔ is v x) (notNull : ∀ x, ¬ is .null x)
    {members : List (String × Value)} {name : String} {found : Option α} :
    Stored members name (readOptional read) id none found ↔
      Optional is (members.lookup name) found := by
  unfold Stored
  cases members.lookup name with
  | none => cases found <;> simp [Optional]
  | some v =>
    by_cases null : v = .null
    · subst null
      cases found <;> simp [Optional, optionalAccepted, notNull]
    · cases found <;> simp [Optional, optionalAccepted, accepted, null]

theorem requiredStored {read : Value → Except Problem α} {members : List (String × Value)}
    {name : String} {x : α} :
    Stored members name read some none (some x) ↔
      ∃ v, members.lookup name = some v ∧ read v = .ok x := by
  unfold Stored
  cases members.lookup name <;> simp

theorem storedOnce {read : Value → Except Problem β} {put : β → γ}
    {members : List (String × Value)} {name : String} {before left right : γ}
    (one : Stored members name read put before left)
    (other : Stored members name read put before right) : left = right := by
  unfold Stored at one other
  cases given : members.lookup name with
  | none =>
    simp only [given] at one other
    exact one.trans other.symm
  | some v =>
    simp only [given] at one other
    obtain ⟨x, read, rfl⟩ := one
    obtain ⟨y, same, rfl⟩ := other
    rw [Except.ok.inj (read.symm.trans same)]

theorem storedReads {read : Value → Except Problem β} {put : β → γ} {store : σ → β → σ}
    {members : List (String × Value)} {name : String} {before after : γ}
    (distinct : (members.map Prod.fst).Nodup)
    (stored : Stored members name read put before after) :
    ∀ v, ((Field.of name read store).name, v) ∈ members →
      ∃ change, (Field.of name read store).read v = .ok change := by
  intro v member
  rw [ofName] at member
  unfold Stored at stored
  rw [(OrderedMap.lookupExactly distinct).mpr member] at stored
  obtain ⟨x, given, -⟩ := stored
  exact ⟨(store · x), by simp [Field.of, given]⟩

theorem givenReads (closed : r.refusesUnknown = true) (once : r.fieldNames.Nodup) {v : Value}
    {members : List (String × Value)} (given : Gives r.fieldNames v members)
    (reads : ∀ f ∈ r.fields, ∀ v, (f.name, v) ∈ members → ∃ change, f.read v = .ok change) :
    ∃ t, readByName r [] r.initial members = .ok t := by
  refine (byNameGiven closed).mpr ⟨given.distinct once, by simp, ?_⟩
  rintro ⟨key, v⟩ member
  obtain ⟨f, inside, rfl⟩ := List.mem_map.mp (given.known _ member)
  obtain ⟨change, read⟩ := reads f inside v member
  exact ⟨f, change, fieldsFound once f inside, read⟩

theorem openReads (opened : r.refusesUnknown = false) {members : List (String × Value)}
    {seen : List String} {s : σ} (distinct : (members.map Prod.fst).Nodup)
    (fresh : ∀ m ∈ members, m.1 ∉ seen)
    (reads : ∀ f ∈ r.fields, ∀ v, (f.name, v) ∈ members → ∃ change, f.read v = .ok change) :
    ∃ t, readByName r seen s members = .ok t := by
  induction members generalizing seen s with
  | nil => exact ⟨s, rfl⟩
  | cons member rest ih =>
    obtain ⟨key, v⟩ := member
    obtain ⟨apart, others⟩ := List.nodup_cons.mp distinct
    obtain ⟨new, later⟩ := List.forall_mem_cons.mp fresh
    have reads' : ∀ f ∈ r.fields, ∀ v, (f.name, v) ∈ rest → ∃ change, f.read v = .ok change :=
      fun f inside v member => reads f inside v (List.mem_cons_of_mem _ member)
    simp only [readByName, opened]
    cases found : r.field? key with
    | none => exact ih others later reads'
    | some f =>
      obtain ⟨rfl, inside⟩ := fieldName found
      obtain ⟨change, read⟩ := reads f inside v (by simp)
      simp only [List.contains_iff_mem, new, if_false, read]
      refine ih others ?_ reads'
      intro m member
      have different : m.1 ≠ f.name := fun same => apart (List.mem_map.mpr ⟨m, member, same⟩)
      simp [different, later m member]

theorem openAccepted {r : Record Value (Except Problem) σ σ} (opened : r.refusesUnknown = false)
    (whole : r.finish .keyed = .ok) {members : List (String × Value)} {Made : σ → Prop}
    (distinct : (members.map Prod.fst).Nodup)
    (made : ∀ t, readByName r [] r.initial members = .ok t → Made t)
    (settles : ∀ t t', Made t → Made t' → t = t')
    (reads : ∀ t, Made t → ∀ f ∈ r.fields, ∀ v, (f.name, v) ∈ members →
      ∃ change, f.read v = .ok change) {t : σ} :
    readRecord r (.object members) = .ok t ↔ Made t := by
  rw [keyedAccepted]
  simp only [whole, Except.ok.injEq]
  constructor
  · rintro ⟨_, read, rfl⟩
    exact made _ read
  · intro is
    obtain ⟨t', read⟩ : ∃ t', readByName r [] r.initial members = .ok t' :=
      openReads opened distinct (by simp) (reads t is)
    exact ⟨t', read, settles _ _ (made t' read) is⟩

end StudyPlan.Json.Value
