import StudyPlan.Proofs.Yaml.TokensRead
import StudyPlan.Yaml.Document

/-! The tree that the tokens of a value are read as. It spells the value: wherever its parts
stand, it has no tags, no anchors and no aliases, and it is cut nowhere. -/
namespace StudyPlan.Yaml
open Json (Value)

mutual

inductive Spells : Node → Value → Prop where
  | bool {m b} : Spells (.scalar m none ⟨flagText b, .plain, none⟩) (.bool b)
  | string {m s} : Spells (.scalar m none ⟨s, .doubleQuoted, none⟩) (.string s)
  | array {m items values} (spelt : ItemsSpell items values) :
      Spells (.sequence m none items) (.array values)
  | object {m members pairs} (spelt : MembersSpell members pairs) :
      Spells (.mapping m none members) (.object pairs)

inductive ItemsSpell : Items → List Value → Prop where
  | close : ItemsSpell .close []
  | item {node value rest values} (flat : value.isArray = false) (head : Spells node value)
      (tail : ItemsSpell rest values) : ItemsSpell (.item node rest) (value :: values)

inductive MembersSpell : Members → List (String × Value) → Prop where
  | close : MembersSpell .close []
  | member {m key node value rest pairs} (head : Spells node value)
      (tail : MembersSpell rest pairs) :
      MembersSpell (.member (.scalar m none ⟨key, .doubleQuoted, none⟩) node rest)
        ((key, value) :: pairs)

end

namespace Reading

def At (r : Reading) (shown : List TokenKind) : Prop := r.tokens.map (·.kind) = shown

theorem At.next {r : Reading} {kind : TokenKind} {rest : List TokenKind}
    (there : r.At (kind :: rest)) :
    ∃ token, r.peek = .ok token ∧ token.kind = kind ∧ r.advance.At rest := by
  obtain ⟨token, tokens, same, isKind, others⟩ := List.map_eq_cons_iff.mp there
  refine ⟨token, by simp [peek, same], isKind, ?_⟩
  simpa [At, advance, same] using others

theorem At.separated {r : Reading} {first : Bool} {shown : List TokenKind}
    (there : r.At ((if first then [] else [.flowEntry]) ++ shown)) :
    (if first then r else r.advance).At shown := by
  cases first with
  | true => exact there
  | false =>
    obtain ⟨_, _, _, there⟩ := there.next
    exact there

/- A value starts with a token of its own, which no reader of parts takes for anything else. -/
def Opens (kind : TokenKind) : Prop :=
  kind = .flowSequenceStart ∨ kind = .flowMappingStart ∨ ∃ text style, kind = .scalar text style

theorem kindsOpen : (v : Value) → v.Common → ∃ kind shown, kinds v = kind :: shown ∧ Opens kind
  | .null, common | .number _, common => common.elim
  | .bool _, _ => ⟨_, _, rfl, .inr (.inr ⟨_, _, rfl⟩)⟩
  | .string _, _ => ⟨_, _, rfl, .inr (.inr ⟨_, _, rfl⟩)⟩
  | .array _, _ => ⟨_, _, rfl, .inl rfl⟩
  | .object _, _ => ⟨_, _, rfl, .inr (.inl rfl)⟩

variable {r : Reading} {kind : TokenKind} {rest shown : List TokenKind}

theorem scalarRead {text : String} {style : ScalarStyle} (fuel : Nat) (inBlock : Bool)
    (there : r.At (.scalar text style :: rest)) :
    ∃ m, r.node (fuel + 1) inBlock false = (.scalar m none ⟨text, style, none⟩, .ok r.advance) := by
  obtain ⟨token, next, isScalar, -⟩ := there.next
  refine ⟨token.start, ?_⟩
  simp [node, next, isScalar, properties, bind, Except.bind, pure, Except.pure, resolveTag,
    register, shape?]

theorem collectionRead {shape : Shape} (fuel : Nat) (inBlock : Bool) (there : r.At (kind :: rest))
    (opening : (kind = .flowSequenceStart ∧ shape = .flowSequence) ∨
      (kind = .flowMappingStart ∧ shape = .flowMapping)) :
    ∃ m, r.node (fuel + 1) inBlock false = r.collection fuel shape m m none := by
  obtain ⟨token, next, isKind, -⟩ := there.next
  refine ⟨token.start, ?_⟩
  rcases opening with ⟨rfl, rfl⟩ | ⟨rfl, rfl⟩ <;>
    simp [node, next, isKind, properties, bind, Except.bind, pure, Except.pure, resolveTag,
      register, shape?]

theorem itemsClosed (fuel : Nat) (first : Bool) (opening : Mark)
    (there : r.At (.flowSequenceEnd :: rest)) :
    r.flowItems (fuel + 1) first opening = (.close, .ok r.advance) := by
  obtain ⟨token, next, isEnd, -⟩ := there.next
  simp [flowItems, next, isEnd]

theorem membersClosed (fuel : Nat) (first : Bool) (opening : Mark)
    (there : r.At (.flowMappingEnd :: rest)) :
    r.flowMembers (fuel + 1) first opening = (.close, .ok r.advance) := by
  obtain ⟨token, next, isEnd, -⟩ := there.next
  simp [flowMembers, next, isEnd]

theorem itemRead {first : Bool} {fuel : Nat} {value : Node} {r' : Reading} (opening : Mark)
    (opens : Opens kind) (there : r.At ((if first then [] else [.flowEntry]) ++ kind :: shown))
    (read : (if first then r else r.advance).node fuel false false = (value, .ok r')) :
    r.flowItems (fuel + 1) first opening =
      (.item value (r'.flowItems fuel false opening).1, (r'.flowItems fuel false opening).2) := by
  obtain ⟨token, next, isKind, -⟩ := there.separated.next
  have goesOn : token.kind ≠ .flowSequenceEnd ∧ token.kind ≠ .key := by
    rcases opens with rfl | rfl | ⟨text, style, rfl⟩ <;> simp [isKind]
  cases first with
  | true =>
    simp only [if_true] at next read
    simp [flowItems, next, goesOn, read]
  | false =>
    obtain ⟨comma, next', isComma, -⟩ := there.next
    simp only [Bool.false_eq_true, if_false] at next read
    simp [flowItems, next', isComma, next, goesOn, read]

theorem partRead (fuel : Nat) (omits : TokenKind → Bool) (there : r.At (kind :: rest))
    (present : omits kind = false) :
    r.part (fuel + 1) false false omits none = r.node fuel false false := by
  obtain ⟨token, next, isKind, -⟩ := there.next
  simp [part, next, isKind, present]

theorem partsRead {key : String} {token : Token} (fuel : Nat) (opens : Opens kind)
    (isKey : token.kind = .key)
    (there : r.At (.key :: .scalar key .doubleQuoted :: .value :: kind :: shown)) :
    ∃ m, ∃ r' : Reading, r'.At (kind :: shown) ∧ r.flowMember (fuel + 3) token =
      (.scalar m none ⟨key, .doubleQuoted, none⟩, r'.node fuel false false) := by
  obtain ⟨_, _, _, atKey⟩ := there.next
  obtain ⟨m, keyRead⟩ := scalarRead fuel false atKey
  have keyThere : r.advance.part (fuel + 2) false false
      (fun kind => kind = .value || endsFlowPart kind) none =
        r.advance.node (fuel + 1) false false := partRead (fuel + 1) _ atKey rfl
  obtain ⟨_, _, _, atColon⟩ := atKey.next
  obtain ⟨colon, next, isColon, atValue⟩ := atColon.next
  have present : endsFlowPart kind = false := by
    rcases opens with rfl | rfl | ⟨text, style, rfl⟩ <;> rfl
  have valueThere := partRead fuel endsFlowPart atValue present
  refine ⟨m, _, atValue, ?_⟩
  simp [flowMember, isKey, keyThere, keyRead, flowValue, next, isColon, valueThere]

theorem memberRead {first : Bool} {key : String} (fuel : Nat) (opening : Mark) (opens : Opens kind)
    (there : r.At ((if first then [] else [.flowEntry]) ++
      ([.key, .scalar key .doubleQuoted, .value] ++ kind :: shown))) :
    ∃ m, ∃ r' : Reading, r'.At (kind :: shown) ∧ ∀ value r'',
      r'.node fuel false false = (value, .ok r'') →
      r.flowMembers (fuel + 4) first opening =
        (.member (.scalar m none ⟨key, .doubleQuoted, none⟩) value
          (r''.flowMembers (fuel + 3) false opening).1,
          (r''.flowMembers (fuel + 3) false opening).2) := by
  obtain ⟨token, next, isKey, -⟩ := there.separated.next
  obtain ⟨m, r', there', given⟩ := partsRead fuel opens isKey there.separated
  refine ⟨m, r', there', ?_⟩
  intro value r'' read
  rw [read] at given
  cases first with
  | true =>
    simp only [if_true] at next given
    simp [flowMembers, next, isKey, given]
  | false =>
    obtain ⟨comma, next', isComma, -⟩ := there.next
    simp only [Bool.false_eq_true, if_false] at next given
    simp [flowMembers, next', isComma, next, isKey, given]

/- Four levels of fuel for each token suffice. -/

theorem itemKindsPositive (first : Bool) (items : List Value) :
    0 < (itemKinds first items).length := by
  induction items generalizing first with
  | nil => simp [itemKinds]
  | cons v items ih =>
    have rest := ih false
    simp only [itemKinds, List.length_append]
    omega

theorem memberKindsPositive (first : Bool) (members : List (String × Value)) :
    0 < (memberKinds first members).length := by
  cases members with
  | nil => simp [memberKinds]
  | cons m members =>
    simp only [memberKinds, List.length_append, List.length_cons]
    omega

mutual

theorem valueRead : (v : Value) → v.Common → ∀ (fuel : Nat) (inBlock : Bool) (r : Reading)
    (rest : List TokenKind), 4 * (kinds v).length ≤ fuel → r.At (kinds v ++ rest) →
    ∃ value, ∃ r' : Reading, r.node fuel inBlock false = (value, .ok r') ∧ r'.At rest ∧
      Spells value v
  | .null, common, _, _, _, _, _, _ | .number _, common, _, _, _, _, _, _ => common.elim
  | .bool b, _, fuel + 1, inBlock, r, rest, _, there => by
    obtain ⟨m, read⟩ := scalarRead fuel inBlock there
    obtain ⟨_, _, _, there⟩ := there.next
    exact ⟨_, _, read, there, .bool⟩
  | .string s, _, fuel + 1, inBlock, r, rest, _, there => by
    obtain ⟨m, read⟩ := scalarRead fuel inBlock there
    obtain ⟨_, _, _, there⟩ := there.next
    exact ⟨_, _, read, there, .string⟩
  | .array items, common, fuel + 2, inBlock, r, rest, enough, there => by
    obtain ⟨m, opened⟩ := collectionRead (fuel + 1) inBlock there (.inl ⟨rfl, rfl⟩)
    obtain ⟨_, _, _, there⟩ := there.next
    simp only [kinds, List.length_cons] at enough
    obtain ⟨values, r', read, there, spelt⟩ :=
      itemsRead items common true fuel m r.advance rest (by omega) there
    refine ⟨.sequence m none values, r', ?_, there, .array spelt⟩
    rw [opened]
    simp [collection, read]
  | .object members, common, fuel + 2, inBlock, r, rest, enough, there => by
    obtain ⟨m, opened⟩ := collectionRead (fuel + 1) inBlock there (.inr ⟨rfl, rfl⟩)
    obtain ⟨_, _, _, there⟩ := there.next
    simp only [kinds, List.length_cons] at enough
    obtain ⟨values, r', read, there, spelt⟩ :=
      membersRead members common true fuel m r.advance rest (by omega) there
    refine ⟨.mapping m none values, r', ?_, there, .object spelt⟩
    rw [opened]
    simp [collection, read]

theorem itemsRead : (items : List Value) → Value.ItemsCommon items → ∀ (first : Bool) (fuel : Nat)
    (opening : Mark) (r : Reading) (rest : List TokenKind),
    4 * (itemKinds first items).length ≤ fuel → r.At (itemKinds first items ++ rest) →
    ∃ values, ∃ r' : Reading, r.flowItems fuel first opening = (values, .ok r') ∧ r'.At rest ∧
      ItemsSpell values items
  | [], _, first, fuel + 1, opening, r, rest, _, there => by
    have read := itemsClosed (r := r) fuel first opening there
    obtain ⟨_, _, _, there⟩ := there.next
    exact ⟨_, _, read, there, .close⟩
  | v :: items, common, first, fuel, opening, r, rest, enough, there => by
    obtain ⟨flat, head, tail⟩ := common
    obtain ⟨kind, shown, starts, opens⟩ := kindsOpen v head
    -- what follows the item pays for the level that it takes
    have more := itemKindsPositive false items
    have some : 0 < (kinds v).length := by simp [starts]
    simp only [itemKinds, List.length_append, List.append_assoc] at enough there
    obtain ⟨fuel, rfl⟩ : ∃ less, fuel = less + 1 := ⟨fuel - 1, by omega⟩
    obtain ⟨value, r', headRead, there', headSpelt⟩ :=
      valueRead v head fuel false _ _ (by omega) there.separated
    obtain ⟨values, r'', tailRead, there'', tailSpelt⟩ :=
      itemsRead items tail false fuel opening r' rest (by omega) there'
    rw [starts] at there
    refine ⟨.item value values, r'', ?_, there'', .item flat headSpelt tailSpelt⟩
    rw [itemRead opening opens there headRead, tailRead]

theorem membersRead : (members : List (String × Value)) → Value.MembersCommon members →
    ∀ (first : Bool) (fuel : Nat) (opening : Mark) (r : Reading) (rest : List TokenKind),
    4 * (memberKinds first members).length ≤ fuel → r.At (memberKinds first members ++ rest) →
    ∃ values, ∃ r' : Reading, r.flowMembers fuel first opening = (values, .ok r') ∧ r'.At rest ∧
      MembersSpell values members
  | [], _, first, fuel + 1, opening, r, rest, _, there => by
    have read := membersClosed (r := r) fuel first opening there
    obtain ⟨_, _, _, there⟩ := there.next
    exact ⟨_, _, read, there, .close⟩
  | (key, v) :: members, common, first, fuel, opening, r, rest, enough, there => by
    obtain ⟨_, head, tail⟩ := common
    obtain ⟨kind, shown, starts, opens⟩ := kindsOpen v head
    have more := memberKindsPositive false members
    simp only [memberKinds, List.length_append, List.length_cons, List.append_assoc] at enough there
    obtain ⟨fuel, rfl⟩ : ∃ less, fuel = less + 4 := ⟨fuel - 4, by omega⟩
    rw [starts] at there
    obtain ⟨m, r₀, there₀, step⟩ := memberRead fuel opening opens there
    have valueThere : r₀.At (kinds v ++ (memberKinds false members ++ rest)) := by
      rw [starts]
      exact there₀
    obtain ⟨value, r', headRead, there', headSpelt⟩ :=
      valueRead v head fuel false r₀ _ (by omega) valueThere
    obtain ⟨values, r'', tailRead, there'', tailSpelt⟩ :=
      membersRead members tail false (fuel + 3) opening r' rest (by omega) there'
    have read := step value r' headRead
    rw [tailRead] at read
    exact ⟨_, r'', read, there'', .member headSpelt tailSpelt⟩

end

end Reading

namespace Document

theorem quotePrintable {s : String} (printable : Printable s) : Printable (Json.quote s) := by
  intro c member
  rw [Quoted.quoteText] at member
  simp only [List.mem_cons, List.mem_append, List.not_mem_nil, or_false, Quoted.escaped,
    List.mem_flatMap] at member
  obtain rfl | ⟨d, inside, spelt⟩ | rfl := member
  · decide
  · have here := printable d inside
    rw [Quoted.escapeText here] at spelt
    split at spelt
    · obtain rfl | rfl : c = '\\' ∨ c = d := by simpa using spelt
      · decide
      · exact here
    · cases List.mem_singleton.mp spelt
      exact here
  · decide

theorem listedPrintable {close : Char} (closing : PrintableChar close) {texts : List String}
    (printable : ∀ text ∈ texts, Printable text) (first : Bool) :
    ∀ c ∈ Json.listed [close] first texts, PrintableChar c := by
  induction texts generalizing first with
  | nil => exact List.forall_mem_singleton.mpr closing
  | cons text texts ih =>
    obtain ⟨head, tail⟩ := List.forall_mem_cons.mp printable
    have comma : ∀ c ∈ Json.separator first, PrintableChar c := by
      cases first with
      | true => exact List.forall_mem_nil _
      | false => exact List.forall_mem_singleton.mpr (by decide)
    simp only [Json.listed, List.forall_mem_append]
    exact ⟨comma, head, ih tail false⟩

mutual

theorem textPrintable : (v : Value) → v.Common → Printable v.compact
  | .null, common | .number _, common => common.elim
  | .bool b, _ => by
    cases b <;> decide
  | .string _, printable => quotePrintable printable
  | .array items, common => by
    have closing : PrintableChar ']' := by decide
    have listed := listedPrintable closing (itemsPrintable items common) true
    unfold Printable
    rw [Json.arrayText]
    exact List.forall_mem_cons.mpr ⟨by decide, listed⟩
  | .object members, common => by
    have closing : PrintableChar '\x7d' := by decide
    have listed := listedPrintable closing (membersPrintable members common) true
    unfold Printable
    rw [Json.objectText]
    exact List.forall_mem_cons.mpr ⟨by decide, listed⟩

theorem itemsPrintable : (items : List Value) → Value.ItemsCommon items →
    ∀ text ∈ Value.compactItems items, Printable text
  | [], _ => by simp [Value.compactItems]
  | v :: rest, common => by
    rw [Value.compactItems, List.forall_mem_cons]
    exact ⟨textPrintable v common.2.1, itemsPrintable rest common.2.2⟩

theorem membersPrintable : (members : List (String × Value)) → Value.MembersCommon members →
    ∀ text ∈ Value.compactMembers members, Printable text
  | [], _ => by simp [Value.compactMembers]
  | (key, v) :: rest, common => by
    have quoted := quotePrintable common.1.printable
    have value := textPrintable v common.2.1
    rw [Value.compactMembers, List.forall_mem_cons]
    refine ⟨?_, membersPrintable rest common.2.2⟩
    simp only [Printable, String.toList_append, List.forall_mem_append]
    have colon : Printable ":" := by decide
    exact ⟨⟨quoted, colon⟩, value⟩

end

theorem noneForbidden (bytes : Nat) {cs : List Char} (printable : ∀ c ∈ cs, PrintableChar c) :
    forbidden? bytes cs = none := by
  induction cs generalizing bytes with
  | nil => rfl
  | cons c cs ih =>
    obtain ⟨head, tail⟩ := List.forall_mem_cons.mp printable
    have range : ' ' ≤ c ∧ c ≤ '~' := head
    have allowed : isAllowed c = true := by simp [isAllowed, range]
    simp only [forbidden?, allowed, if_true]
    exact ih (bytes + c.utf8Size) tail

theorem documentRead {members : List (String × Value)} (common : Value.MembersCommon members) :
    ∃ root, ofString (Value.object members).compact = ⟨some root, none, false⟩ ∧
      Spells root (.object members) := by
  have printable := textPrintable (.object members) common
  obtain ⟨shown, scanned, same⟩ := tokensOfText common
  have there : Reading.At ⟨shown, .plain "" .start, [], standardHandles⟩
      (kinds (.object members) ++ [.streamEnd]) := same
  have count := congrArg List.length same
  simp only [List.length_map, List.length_append] at count
  obtain ⟨first, next, isStart, -⟩ := there.next
  obtain ⟨root, after, read, there', spelt⟩ := Reading.valueRead (.object members) common
    (fuelFor ⟨shown, .plain "" .start, [], standardHandles⟩) true _ _
    (by simp only [fuelFor]; omega) there
  obtain ⟨last, tokens, ending, isEnd, -⟩ := List.map_eq_cons_iff.mp there'
  have next' : after.peek = .ok last := by simp [Reading.peek, ending]
  have alone : followedBy after.tokens = false := by simp [followedBy, ending, isEnd]
  refine ⟨root, ?_, spelt⟩
  simp [ofString, noneForbidden 0 printable, scanned, next, isStart, read, finish, next', alone]

end Document
end StudyPlan.Yaml
