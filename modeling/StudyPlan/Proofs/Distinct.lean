import StudyPlan.Proofs.Elements
import StudyPlan.Proofs.Json.TextWritten

/-! Elements documents are told apart by their texts: under one namespace, two texts are the same
only when they have one element name and one description. The text gives the document back, and
every writer below the envelope keeps its values apart. -/
namespace StudyPlan
open Json (Value)
open Json.Value

theorem Platform.symbolInjective : Function.Injective Platform.symbol := by
  have distinct : (Platform.all.map Platform.symbol).Nodup := by decide
  exact fun p q same => List.inj_on_of_nodup_map distinct (memAll p) (memAll q) same

theorem FormFactor.symbolInjective : Function.Injective FormFactor.symbol := by
  have distinct : (FormFactor.all.map FormFactor.symbol).Nodup := by decide
  exact fun f g same => List.inj_on_of_nodup_map distinct (memAll f) (memAll g) same

theorem OptionalBool.symbolInjective : Function.Injective OptionalBool.symbol := by
  intro a b same
  cases a <;> cases b <;> simp [symbol] at same ⊢

theorem Json.Value.stringsInjective : Function.Injective strings := by
  intro left right same
  exact List.map_injective_iff.mpr (fun _ _ => Value.string.inj) (Value.array.inj same)

namespace ElementsLayout
variable (l : ElementsLayout)

theorem symbolInjective : Function.Injective l.symbol := by
  intro name other same
  exact (String.append_right_inj _).mp (Value.string.inj same)

theorem symbolsInjective {α : Type} {symbol : α → String} (injective : Function.Injective symbol) :
    Function.Injective fun xs : List α => Value.array (xs.map fun x => l.symbol (symbol x)) := by
  intro left right same
  have each : Function.Injective fun x => l.symbol (symbol x) := l.symbolInjective.comp injective
  exact List.map_injective_iff.mpr each (Value.array.inj same)

theorem paramInjective : Function.Injective param := by
  rintro ⟨key, value⟩ ⟨key', value'⟩ same
  simpa [param] using same

theorem paramsInjective :
    Function.Injective fun ps : List Param => Value.array (ps.map param) := by
  intro left right same
  exact List.map_injective_iff.mpr paramInjective (Value.array.inj same)

/- The members stand in one order, whichever of the optional ones are there, so that they can be
taken off one after the other. -/
theorem experimentInjective : Function.Injective l.experiment := by
  intro e f same
  have members := Value.object.inj same
  simp only [membersSet, List.append_assoc, List.cons_append, List.nil_append] at members
  obtain ⟨name, members⟩ := List.cons.inj members
  obtain ⟨platforms, members⟩ := List.cons.inj members
  obtain ⟨params, members⟩ :=
    optionalSplit paramsInjective (by simp [optionalKeys]) (by simp [optionalKeys]) members
  obtain ⟨enable, members⟩ :=
    optionalSplit stringsInjective (by simp [optionalKeys]) (by simp [optionalKeys]) members
  obtain ⟨disable, members⟩ :=
    optionalSplit stringsInjective (by simp [optionalKeys]) (by simp [optionalKeys]) members
  obtain ⟨flag, members⟩ :=
    optionalSplit (fun _ _ => Value.string.inj) (by simp) (by simp) members
  obtain ⟨lowEnd, members⟩ := List.cons.inj members
  obtain ⟨formFactors, -⟩ := List.cons.inj members
  have name := Value.string.inj (Prod.mk.inj name).2
  have platforms := l.symbolsInjective Platform.symbolInjective (Prod.mk.inj platforms).2
  have lowEnd := OptionalBool.symbolInjective (l.symbolInjective (Prod.mk.inj lowEnd).2)
  have formFactors := l.symbolsInjective FormFactor.symbolInjective (Prod.mk.inj formFactors).2
  cases e
  cases f
  simp_all

theorem studyInjective : Function.Injective l.study := by
  rintro ⟨name, experiments⟩ ⟨name', experiments'⟩ same
  simp only [study, Value.object.injEq, List.cons.injEq, Prod.mk.injEq, Value.string.injEq,
    Value.array.injEq, true_and, and_true] at same
  rw [same.1, List.map_injective_iff.mpr l.experimentInjective same.2]

theorem paramLossless (p : Param) : (param p).Lossless := by
  simp [param, Lossless, MembersLossless]

def experimentNames : List String :=
  ["name", "platforms"] ++ ["params"] ++ ["enable_features"] ++ ["disable_features"] ++
    ["forcing_flag"] ++ ["is_low_end_device", "form_factors"]

theorem experimentNamed (e : StudyExperiment) :
    ((l.experimentMembers e).map Prod.fst).Sublist experimentNames := by
  rw [membersSet]
  simp only [List.map_append]
  exact (((((List.Sublist.refl ["name", "platforms"]).append (optionalNamed _)).append
    (optionalNamed _)).append (optionalNamed _)).append (optionalNamed _)).append
    (List.Sublist.refl ["is_low_end_device", "form_factors"])

theorem experimentLossless (e : StudyExperiment) : (l.experiment e).Lossless := by
  have symbols : ∀ name, (l.symbol name).Lossless := fun _ => trivial
  have texts : ∀ s : String, (Value.string s).Lossless := fun _ => trivial
  have distinct : experimentNames.Nodup := by decide
  refine ⟨(l.experimentNamed e).nodup distinct, membersLossless ?_⟩
  rw [membersSet]
  simp only [List.mem_append, List.mem_cons, List.not_mem_nil, or_false]
  rintro m ((((((rfl | rfl) | params) | enable) | disable) | flag) | rfl | rfl)
  · trivial
  · exact mappedLossless (fun p => symbols p.symbol) e.platforms
  · exact optionalLossless (mappedLossless paramLossless) m params
  · exact optionalLossless (mappedLossless texts) m enable
  · exact optionalLossless (mappedLossless texts) m disable
  · exact optionalLossless texts m flag
  · trivial
  · exact mappedLossless (fun f => symbols f.symbol) e.formFactors

theorem studyLossless (s : Study) : (l.study s).Lossless := by
  have experiments := mappedLossless l.experimentLossless s.experiments
  simpa [study, Lossless, MembersLossless] using experiments

end ElementsLayout

namespace Description

theorem elementsLossless (d : Description) (l : ElementsLayout) : (d.elements l).Lossless := by
  have studies := mappedLossless l.studyLossless d.studies
  simpa [elements, setMember, Lossless, MembersLossless] using studies

theorem elementsInjective {d e : Description} {lead name other : String}
    (same : d.elements ⟨name, lead⟩ = e.elements ⟨other, lead⟩) : name = other ∧ d = e := by
  obtain ⟨studies⟩ := d
  obtain ⟨studies'⟩ := e
  simp only [elements, setMember, Value.object.injEq, List.cons.injEq, Prod.mk.injEq,
    Value.array.injEq, true_and, and_true] at same
  obtain ⟨named, described⟩ := same
  exact ⟨named, congrArg _ (List.map_injective_iff.mpr (ElementsLayout.studyInjective _) described)⟩

/-- Under one namespace, the text of an elements document tells its element name and all of the
description. -/
theorem elementsTextTells (d e : Description) (lead name other : String) :
    (d.elements ⟨name, lead⟩).compact = (e.elements ⟨other, lead⟩).compact ↔
      name = other ∧ d = e := by
  constructor
  · intro same
    exact elementsInjective
      (compactInjective (d.elementsLossless _) (e.elementsLossless _) same)
  · rintro ⟨rfl, rfl⟩
    rfl

end Description
end StudyPlan
