import Mathlib.Data.List.Nodup
import StudyPlan.Json.Value

/-! The members of objects: what setting one does, which names the optional ones have, and how
lists of members are told apart. -/
namespace StudyPlan.Json.Value
variable {α : Type}

theorem setFresh {key : String} {v : Value} {members : List (String × Value)}
    (fresh : key ∉ members.map Prod.fst) : setMember key v members = members ++ [(key, v)] := by
  induction members with
  | nil => rfl
  | cons m rest ih =>
    simp only [List.map_cons, List.mem_cons, not_or] at fresh
    rw [setMember, if_neg (Ne.symm fresh.1), ih fresh.2, List.cons_append]

theorem setPresentFresh {key : String} {encode : α → Value} {x : Option α}
    {members : List (String × Value)} (fresh : key ∉ members.map Prod.fst) :
    setPresent key encode x members = members ++ optionalMember key encode x := by
  cases x with
  | none => simp [setPresent, optionalMember]
  | some x => exact setFresh fresh

theorem optionalKeys {name : String} {encode : α → Value} (x : Option α) :
    (optionalMember name encode x).map Prod.fst = x.toList.map fun _ => name := by
  cases x <;> rfl

theorem optionalNamed {name : String} {encode : α → Value} (x : Option α) :
    ((optionalMember name encode x).map Prod.fst).Sublist [name] := by
  cases x <;> simp [optionalMember]

theorem optionalSplit {name : String} {encode : α → Value} (injective : Function.Injective encode)
    {x y : Option α} {rest others : List (String × Value)} (fresh : name ∉ rest.map Prod.fst)
    (fresh' : name ∉ others.map Prod.fst)
    (same : optionalMember name encode x ++ rest = optionalMember name encode y ++ others) :
    x = y ∧ rest = others := by
  cases x with
  | none =>
    cases y with
    | none => exact ⟨rfl, same⟩
    | some y =>
      rw [optionalMember, List.nil_append] at same
      simp [same, optionalMember] at fresh
  | some x =>
    cases y with
    | none =>
      rw [optionalMember, optionalMember, List.nil_append] at same
      simp [← same] at fresh'
    | some y =>
      obtain ⟨member, rest⟩ := List.cons.inj same
      exact ⟨congrArg some (injective (Prod.mk.inj member).2), rest⟩

end StudyPlan.Json.Value
