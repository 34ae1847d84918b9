import Mathlib.Data.Finset.Card
import StudyPlan.Proofs.Formats
import StudyPlan.Proofs.Scan

/-! What has been offered to an ordered map says what is in it: of each key the first offer, in the
order of the offers. Whether the offers were inserted one by one, collected or read makes no
difference. -/
namespace StudyPlan.OrderedMap
open Scan (First)
open Schema (Format Giving Lawful gives)

variable {α : Type} {m : OrderedMap α} {offers : List (String × α)}

def firstOffers (offers : List (String × α)) : List (String × α) :=
  (offers.zipIdx.filter fun (offer, i) => offer.1 ∉ (offers.take i).map Prod.fst).map Prod.fst

theorem firstOffered {key : String} {x : α} :
    (key, x) ∈ firstOffers offers ↔ ∃ i, First (·.1 = key) offers i (key, x) := by
  unfold firstOffers
  constructor
  · intro member
    obtain ⟨⟨offer, i⟩, kept, same⟩ := List.mem_map.mp member
    obtain ⟨placed, fresh⟩ := List.mem_filter.mp kept
    subst same
    refine ⟨i, List.mem_zipIdx_iff_getElem?.mp placed, rfl, ?_⟩
    intro j y lt here again
    obtain ⟨bound, rfl⟩ := List.getElem?_eq_some_iff.mp here
    have earlier : offers[j] ∈ offers.take i := List.mem_take_iff_getElem.mpr ⟨j, by omega, rfl⟩
    exact of_decide_eq_true fresh (List.mem_map.mpr ⟨_, earlier, again⟩)
  · intro ⟨i, first⟩
    refine List.mem_map.mpr ⟨((key, x), i), List.mem_filter.mpr ⟨?_, decide_eq_true ?_⟩, rfl⟩
    · exact List.mem_zipIdx_iff_getElem?.mpr first.here
    · intro taken
      obtain ⟨earlier, member, again⟩ := List.mem_map.mp taken
      obtain ⟨j, bound, rfl⟩ := List.mem_take_iff_getElem.mp member
      exact first.before j _ (by omega) (List.getElem?_eq_getElem (by omega)) again

theorem offersAppend (offers : List (String × α)) (key : String) (x : α) :
    firstOffers (offers ++ [(key, x)]) =
      firstOffers offers ++ if key ∈ offers.map Prod.fst then [] else [(key, x)] := by
  unfold firstOffers
  rw [List.zipIdx_append, List.filter_append, List.map_append]
  have earlier : ∀ placed ∈ offers.zipIdx,
      (offers ++ [(key, x)]).take placed.2 = offers.take placed.2 := by
    intro ⟨offer, i⟩ member
    have bound := (List.mem_zipIdx member).2.1
    exact List.take_append_of_le_length (by omega)
  congr 2
  · refine List.filter_congr fun placed member => ?_
    simp only [earlier placed member]
  · by_cases taken : key ∈ offers.map Prod.fst <;> simp [taken]

theorem offerAgain {key : String} (taken : key ∈ offers.map Prod.fst) (x : α) :
    firstOffers (offers ++ [(key, x)]) = firstOffers offers := by
  rw [offersAppend, if_pos taken, List.append_nil]

theorem offerNew {key : String} (fresh : key ∉ offers.map Prod.fst) (x : α) :
    firstOffers (offers ++ [(key, x)]) = firstOffers offers ++ [(key, x)] := by
  rw [offersAppend, if_neg fresh]

theorem keysOffered (key : String) :
    key ∈ (firstOffers offers).map Prod.fst ↔ key ∈ offers.map Prod.fst := by
  induction offers using List.reverseRecOn with
  | nil => rfl
  | append_singleton offers offer ih =>
    obtain ⟨name, x⟩ := offer
    by_cases taken : name ∈ offers.map Prod.fst
    · rw [offerAgain taken, ih, List.map_append, List.mem_append]
      constructor
      · exact .inl
      · intro known
        rcases known with known | last
        · exact known
        · cases List.mem_singleton.mp last
          exact taken
    · rw [offerNew taken, List.map_append, List.map_append, List.mem_append, List.mem_append, ih]

theorem offeredOnce (offers : List (String × α)) : ((firstOffers offers).map Prod.fst).Nodup := by
  induction offers using List.reverseRecOn with
  | nil => exact List.nodup_nil
  | append_singleton offers offer ih =>
    obtain ⟨name, x⟩ := offer
    by_cases taken : name ∈ offers.map Prod.fst
    · rwa [offerAgain taken]
    · rw [offerNew taken, List.map_append]
      refine ih.append (List.nodup_singleton name) ?_
      exact List.disjoint_singleton.mpr fun known => taken ((keysOffered name).mp known)

theorem offersDistinct (distinct : (offers.map Prod.fst).Nodup) : firstOffers offers = offers := by
  induction offers using List.reverseRecOn with
  | nil => rfl
  | append_singleton offers offer ih =>
    obtain ⟨name, x⟩ := offer
    rw [List.map_append, List.nodup_append] at distinct
    obtain ⟨before, -, apart⟩ := distinct
    have fresh : name ∉ offers.map Prod.fst := fun taken => apart name taken name (by simp) rfl
    rw [offerNew fresh, ih before]

theorem insertFresh {key : String} (fresh : key ∉ m.keys) (x : α) :
    m.insert key x = (.ok (), m.push key x) := by
  simp only [insert, insertedFresh fresh]

theorem insertTaken {key : String} (taken : key ∈ m.keys) (x : α) :
    m.insert key x = (.error x, m) := by
  simp only [insert, insertedTaken taken]

theorem insertOffers (held : m.entries = firstOffers offers) (key : String) (x : α) :
    (m.insert key x).2.entries = firstOffers (offers ++ [(key, x)]) := by
  have known : key ∈ m.keys ↔ key ∈ offers.map Prod.fst := by
    rw [keys, held, keysOffered]
  by_cases taken : key ∈ m.keys
  · rw [insertTaken taken, offerAgain (known.mp taken), held]
  · rw [insertFresh taken, offerNew (mt known.mpr taken), ← held]
    rfl

theorem insertNewIn (m : OrderedMap α) (key : String) (x : α) :
    m.insertNew key x = (m.insert key x).2 := by
  unfold insertNew insert
  cases m.insert? key x <;> rfl

theorem collectedOffers (pairs : List (String × α)) :
    (ofList pairs).entries = firstOffers pairs := by
  induction pairs using List.reverseRecOn with
  | nil => rfl
  | append_singleton pairs pair ih =>
    have last : ofList (pairs ++ [pair]) = (ofList pairs).insertNew pair.1 pair.2 := by
      simp [ofList, List.foldl_append]
    rw [last, insertNewIn]
    exact insertOffers ih pair.1 pair.2

/- What a map has been offered since it was empty. Out of a document it is what the document
holds. -/
inductive Offered : List (String × α) → OrderedMap α → Prop where
  | empty : Offered [] .empty
  | collected (pairs : List (String × α)) : Offered pairs (.ofList pairs)
  | loaded {Node : Type} {Result : Type → Type} [Format Node Result] [Giving Result]
      [Lawful Node Result] {read : Node → Result α} {node : Node} {m : OrderedMap α}
      (given : gives (Format.dictionary read node) m) : Offered m.entries m
  | inserted {offers : List (String × α)} {m : OrderedMap α} (key : String) (x : α)
      (before : Offered offers m) : Offered (offers ++ [(key, x)]) (m.insert key x).2

namespace Offered

theorem entries (offered : Offered offers m) : m.entries = firstOffers offers := by
  induction offered with
  | empty => rfl
  | collected pairs => exact collectedOffers pairs
  | loaded given =>
    have distinct := Lawful.dictionary (P := fun _ => True) (fun _ _ _ => trivial) _ _ given
    exact (offersDistinct distinct.1).symm
  | inserted key x _ ih => exact insertOffers ih key x

theorem distinct (offered : Offered offers m) : m.WellFormed := by
  unfold WellFormed keys
  rw [offered.entries]
  exact offeredOnce offers

theorem known (offered : Offered offers m) (key : String) :
    key ∈ m.keys ↔ key ∈ offers.map Prod.fst := by
  unfold keys
  rw [offered.entries]
  exact keysOffered key

theorem counted (offered : Offered offers m) :
    m.size = (offers.map Prod.fst).toFinset.card := by
  have same : (offers.map Prod.fst).toFinset = m.keys.toFinset := by
    ext key
    rw [List.mem_toFinset, List.mem_toFinset, offered.known]
  rw [same, List.toFinset_card_of_nodup offered.distinct]
  simp [size, keys]

theorem contained (offered : Offered offers m) (key : String) :
    m.contains key = true ↔ ∃ x, m.get? key = some x := by
  rw [containsListed, keys, List.mem_map]
  constructor
  · intro known
    obtain ⟨⟨_, x⟩, member, rfl⟩ := known
    exact ⟨x, (foundExactly offered.distinct).mpr member⟩
  · intro found
    obtain ⟨x, found⟩ := found
    exact ⟨(key, x), (foundExactly offered.distinct).mp found, rfl⟩

end Offered

structure Associates (offers : List (String × α)) (m : OrderedMap α) : Prop where
  entries : m.entries = firstOffers offers
  refused : ∀ key x, m.insert key x = (.error x, m) ↔ key ∈ offers.map Prod.fst
  taken : ∀ key x, m.insert key x = (.ok (), m.push key x) ↔ key ∉ offers.map Prod.fst
  found : ∀ key x, m.get? key = some x ↔ ∃ i, First (·.1 = key) offers i (key, x)
  contained : ∀ key, m.contains key = true ↔ ∃ x, m.get? key = some x
  counted : m.size = (offers.map Prod.fst).toFinset.card

theorem Offered.associates (offered : Offered offers m) : Associates offers m where
  entries := offered.entries
  refused key x := by
    rw [← offered.known]
    by_cases taken : key ∈ m.keys
    · simp [insertTaken taken, taken]
    · simp [insertFresh taken, taken]
  taken key x := by
    rw [← offered.known]
    by_cases taken : key ∈ m.keys
    · simp [insertTaken taken, taken]
    · simp [insertFresh taken, taken]
  found key x := by
    rw [foundExactly offered.distinct, offered.entries, firstOffered]
  contained := offered.contained
  counted := offered.counted

end StudyPlan.OrderedMap
