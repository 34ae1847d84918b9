import StudyPlan.Proofs.Json.TextRead

/-! The text of a value on one line and its indented text both show the value, so that both
read back; and a text on one line belongs to one value only. -/
namespace StudyPlan.Json
open Text (Glyph)

def listed (close : List Char) (first : Bool) : List String → List Char
  | [] => close
  | text :: rest => separator first ++ (text.toList ++ listed close false rest)

theorem listedFollows (close : List Char) (text : String) (rest : List String) :
    listed close false (text :: rest) = ',' :: listed close true (text :: rest) := rfl

theorem listedJoined (close : List Char) (texts : List String) :
    (",".intercalate texts).toList ++ close = listed close true texts := by
  induction texts with
  | nil => simp [listed]
  | cons text rest ih =>
    cases rest with
    | nil => simp [listed, separator]
    | cons next rest =>
      rw [String.intercalate_cons_cons, listed, listedFollows, ← ih]
      simp [separator]

theorem boolShown (b : Bool) : Shows (if b then "true" else "false").toList (.bool b) := by
  cases b with
  | false => exact .no
  | true => exact .yes

theorem arrayText (items : List Value) :
    (Value.array items).compact.toList = '[' :: listed [']'] true (Value.compactItems items) := by
  simp [Value.compact, ← listedJoined]

theorem objectText (members : List (String × Value)) :
    (Value.object members).compact.toList =
      '\x7b' :: listed ['\x7d'] true (Value.compactMembers members) := by
  simp [Value.compact, ← listedJoined]

mutual

theorem compactShown : (v : Value) → v.Legible → Shows v.compact.toList v
  | .null, _ => .null
  | .bool b, _ => boolShown b
  | .number _, legible => .number legible
  | .string _, _ => .string
  | .array items, legible => by
    rw [arrayText]
    exact .array (itemsCompact items legible true)
  | .object members, legible => by
    rw [objectText]
    exact .object (membersCompact members legible true)

theorem itemsCompact : (items : List Value) → Value.ItemsLegible items → ∀ first,
    ItemsShow first (listed [']'] first (Value.compactItems items)) items
  | [], _, _ => .close noGap
  | v :: rest, legible, _ =>
    .item noGap (compactShown v legible.1) (itemsCompact rest legible.2 false)

theorem membersCompact : (members : List (String × Value)) → Value.MembersLegible members →
    ∀ first, MembersShow first (listed ['\x7d'] first (Value.compactMembers members)) members
  | [], _, _ => .close noGap
  | (key, v) :: rest, legible, first => by
    have tail := membersCompact rest legible.2 false
    have shown : MembersShow first _ ((key, v) :: rest) :=
      .member noGap noGap (compactShown v legible.1) tail
    simpa [Value.compactMembers, listed] using shown

end

theorem lineGap (level : Nat) : Gap (Value.lineBreak level).toList := by
  intro c member
  simp only [Value.lineBreak, String.toList_append, String.toList_ofList, List.mem_append] at member
  rcases member with newline | blank
  · rw [List.mem_singleton.mp newline]
    rfl
  · rw [List.eq_of_mem_replicate blank]
    rfl

mutual

theorem prettyShown : (v : Value) → v.Legible → ∀ level, Shows (v.pretty level).toList v
  | .null, _, _ => by
    rw [Value.pretty]
    exact .null
  | .bool b, _, _ => by
    rw [Value.pretty]
    exact boolShown b
  | .number _, legible, _ => by
    rw [Value.pretty]
    exact .number legible
  | .string _, _, _ => by
    rw [Value.pretty]
    exact .string
  | .array [], _, _ => by
    rw [Value.pretty]
    exact .array (.close noGap)
  | .array (v :: rest), legible, level => by
    have shown := itemsPretty (v :: rest) legible true (level + 1) (lineGap level)
    have text := Shows.array shown
    simpa [Value.pretty, ← listedJoined] using text
  | .object [], _, _ => by
    rw [Value.pretty]
    exact .object (.close noGap)
  | .object (m :: rest), legible, level => by
    have shown := membersPretty (m :: rest) legible true (level + 1) (lineGap level)
    have text := Shows.object shown
    simpa [Value.pretty, ← listedJoined] using text

theorem itemsPretty : (items : List Value) → Value.ItemsLegible items → ∀ first level {gap},
    Gap gap → ItemsShow first (listed (gap ++ [']']) first (Value.prettyItems level items)) items
  | [], _, _, _, _, blank => .close blank
  | v :: rest, legible, first, level, _, blank => by
    have tail := itemsPretty rest legible.2 false level blank
    have shown : ItemsShow first _ (v :: rest) :=
      .item (lineGap level) (prettyShown v legible.1 level) tail
    simpa [Value.prettyItems, listed] using shown

theorem membersPretty : (members : List (String × Value)) → Value.MembersLegible members →
    ∀ first level {gap}, Gap gap →
    MembersShow first (listed (gap ++ ['\x7d']) first (Value.prettyMembers level members)) members
  | [], _, _, _, _, blank => .close blank
  | (key, v) :: rest, legible, first, level, _, blank => by
    have space : Gap [' '] := by simp [Gap, Cursor.isBlank]
    have tail := membersPretty rest legible.2 false level blank
    have shown : MembersShow first _ ((key, v) :: rest) :=
      .member (lineGap level) space (prettyShown v legible.1 level) tail
    simpa [Value.prettyMembers, listed] using shown

end

theorem textAgrees {α : Type} {readValue : Value → Except Schema.Problem α}
    {readNode : Node → Except Refusal α} (agree : Agree readValue readNode) {v : Value}
    (legible : v.Legible) (x : α) :
    Node.readText readNode (Glyph.ofString v.compact) = .ok x ↔ readValue v = .ok x :=
  shownAgrees agree (compactShown v legible) x

namespace Value

theorem compactParsed {v : Value} (lossless : v.Lossless) : parse v.compact = .ok v := by
  have shown := compactShown v (Lossless.legible v lossless)
  exact shownParsed shown noGap (by simp) lossless

theorem prettyParsed {v : Value} (lossless : v.Lossless) (level : Nat) {gap : String}
    (blank : Gap gap.toList) : parse (v.pretty level ++ gap) = .ok v := by
  have shown := prettyShown v (Lossless.legible v lossless) level
  exact shownParsed shown blank (by simp) lossless

theorem compactInjective {v w : Value} (left : v.Lossless) (right : w.Lossless)
    (same : v.compact = w.compact) : v = w := by
  have read := compactParsed left
  rw [same, compactParsed right] at read
  exact (Except.ok.inj read).symm

end Value
end StudyPlan.Json
