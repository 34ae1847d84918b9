import StudyPlan.Document.Description
import StudyPlan.Proofs.Json.Members

/-! The elements document of a description is the written description with the namespace in
front of its symbols, put into its envelope. The two are written by different writers; that
they write the same members in the same order is what is shown here. -/
namespace StudyPlan
namespace Json.Value

inductive Down where
  | member (name : String)
  | items
  deriving DecidableEq, Repr

def mapAt (change : Value → Value) : List Down → Value → Value
  | [], v => change v
  | .member name :: steps, .object members =>
    .object (members.map fun (key, v) => (key, if key = name then mapAt change steps v else v))
  | .items :: steps, .array items => .array (items.map (mapAt change steps))
  | _, v => v

mutual

def outline : Value → Value
  | .array items => .array (itemsOutline items)
  | .object members => .object (membersOutline members)
  | _ => .null

def itemsOutline : List Value → List Value
  | [] => []
  | v :: rest => v.outline :: itemsOutline rest

def membersOutline : List (String × Value) → List (String × Value)
  | [] => []
  | (key, v) :: rest => (key, v.outline) :: membersOutline rest

end

theorem itemsOutlined (items : List Value) : itemsOutline items = items.map outline := by
  induction items with
  | nil => rfl
  | cons v rest ih => rw [itemsOutline, ih, List.map_cons]

theorem membersOutlined (members : List (String × Value)) :
    membersOutline members = members.map fun (key, v) => (key, v.outline) := by
  induction members with
  | nil => rfl
  | cons m rest ih => rw [membersOutline, ih, List.map_cons]

theorem outlineKept {change : Value → Value} (kept : ∀ v, (change v).outline = v.outline)
    (steps : List Down) (v : Value) : (v.mapAt change steps).outline = v.outline := by
  induction steps generalizing v with
  | nil => exact kept v
  | cons step steps ih =>
    cases step with
    | member name =>
      cases v with
      | object members =>
        have each : ∀ m : String × Value,
            (if m.1 = name then m.2.mapAt change steps else m.2).outline = m.2.outline := by
          intro m
          split
          · exact ih m.2
          · rfl
        simp [mapAt, outline, membersOutlined, each]
      | _ => rfl
    | items =>
      cases v with
      | array items => simp [mapAt, outline, itemsOutlined, ih]
      | _ => rfl

theorem mapAtSame {change : Value → Value} (same : ∀ v, change v = v) (steps : List Down)
    (v : Value) : v.mapAt change steps = v := by
  induction steps generalizing v with
  | nil => exact same v
  | cons step steps ih =>
    have all : mapAt change steps = id := funext ih
    cases step with
    | member name => cases v <;> simp [mapAt, ih]
    | items => cases v <;> simp [mapAt, all]

theorem optionalBeside {α : Type} {change : Value → Value} {name other : String}
    {encode : α → Value} (x : Option α) (beside : other ≠ name) :
    (optionalMember other encode x).map
        (fun m => (m.1, if m.1 = name then change m.2 else m.2)) =
      optionalMember other encode x := by
  cases x with
  | none => rfl
  | some x => simp [optionalMember, beside]

end Json.Value

open Json (Value quote)
open Json.Value

def inFront (lead : String) : Value → Value
  | .string s => .string (lead ++ s)
  | v => v

def symbolPlaces : List (List Down) :=
  [[.member "platforms", .items], [.member "is_low_end_device"], [.member "form_factors", .items]]

def prefixSymbols (lead : String) (v : Value) : Value :=
  v.mapAt (fun e => symbolPlaces.foldl (fun e steps => e.mapAt (inFront lead) steps) e)
    [.member "studies", .items, .member "experiments", .items]

namespace ElementsLayout

theorem membersSet (l : ElementsLayout) (e : StudyExperiment) :
    l.experimentMembers e =
      [("name", .string e.name),
        ("platforms", .array (e.platforms.map fun p => l.symbol p.symbol))] ++
      optionalMember "params" (fun ps => .array (ps.map param)) e.params ++
      optionalMember "enable_features" Value.strings e.enableFeatures ++
      optionalMember "disable_features" Value.strings e.disableFeatures ++
      optionalMember "forcing_flag" .string e.forcingFlag ++
      [("is_low_end_device", l.symbol e.isLowEndDevice.symbol),
        ("form_factors", .array (e.formFactors.map fun f => l.symbol f.symbol))] := by
  unfold experimentMembers
  simp (disch := simp [optionalKeys]) only [setFresh, setPresentFresh]
  simp only [List.nil_append, List.append_assoc, List.cons_append]

theorem symbolFronted (l : ElementsLayout) (name : String) :
    inFront l.symbolPrefix (.string name) = l.symbol name := rfl

theorem paramWritten : Param.toValue = param := rfl

theorem experimentPrefixed (l : ElementsLayout) (e : StudyExperiment) :
    symbolPlaces.foldl (fun v steps => v.mapAt (inFront l.symbolPrefix) steps) e.toValue =
      l.experiment e := by
  rw [experiment, membersSet]
  simp [symbolPlaces, StudyExperiment.toValue, mapAt, optionalBeside, symbolFronted, paramWritten,
    Function.comp_def]

theorem studyPrefixed (l : ElementsLayout) (s : Study) :
    s.toValue.mapAt
        (fun e => symbolPlaces.foldl (fun e steps => e.mapAt (inFront l.symbolPrefix) steps) e)
        [.member "experiments", .items] = l.study s := by
  simp [Study.toValue, study, mapAt, experimentPrefixed]

end ElementsLayout

theorem outlineFronted (lead : String) (v : Value) : (inFront lead v).outline = v.outline := by
  cases v <;> rfl

theorem nothingFronted (v : Value) : inFront "" v = v := by
  cases v <;> simp [inFront]

namespace Description

theorem symbolsPrefixed (d : Description) (l : ElementsLayout) :
    prefixSymbols l.symbolPrefix d.toValue = .object [("studies", .array (d.studies.map l.study))] := by
  simp [prefixSymbols, toValue, mapAt, l.studyPrefixed]

theorem outlinePrefixed (lead : String) (v : Value) :
    (prefixSymbols lead v).outline = v.outline := by
  refine outlineKept ?_ _ v
  intro e
  simp only [symbolPlaces, List.foldl_cons, List.foldl_nil, outlineKept (outlineFronted lead)]

theorem nothingPrefixed (v : Value) : prefixSymbols "" v = v := by
  refine mapAtSame ?_ _ v
  intro e
  simp only [symbolPlaces, List.foldl_cons, List.foldl_nil, mapAtSame nothingFronted]

theorem enveloped (key : String) (v : Value) :
    (Value.object [(key, v)]).compact = "\x7b" ++ quote key ++ ":" ++ v.compact ++ "\x7d" := by
  simp [compact, compactMembers, String.append_assoc]

/-- The elements document is an envelope around the written description, with the namespace in
front of its symbols and all else as it was. -/
theorem elementsText (d : Description) (l : ElementsLayout) :
    (d.elements l).compact =
      "\x7b\"elements\":\x7b" ++ quote l.elementName ++ ":" ++
        (prefixSymbols l.symbolPrefix d.toValue).compact ++ "\x7d\x7d" ∧
    (prefixSymbols l.symbolPrefix d.toValue).outline = d.toValue.outline ∧
    (prefixSymbols "" d.toValue).compact = d.text := by
  refine ⟨?_, outlinePrefixed l.symbolPrefix d.toValue, by rw [nothingPrefixed, text]⟩
  have opening : "\x7b\"elements\":\x7b" = "\x7b" ++ quote "elements" ++ ":" ++ "\x7b" := by decide
  have closing : "\x7d\x7d" = "\x7d" ++ "\x7d" := by decide
  rw [symbolsPrefixed, opening, closing]
  simp only [elements, setMember, enveloped, String.append_assoc]

end Description

end StudyPlan
