import StudyPlan.Proofs.Json.Legible
import StudyPlan.Proofs.Json.Members
import StudyPlan.Proofs.Json.StringRead

/-! Texts that show a value: its parts in order, with blanks between them or without. Each of
them reads back as a tree that spells the value, and that gives it back where nothing in it is
lost. The fuel of the reader is no bound: the length of the text always suffices. -/
namespace StudyPlan.Json
open Text (Glyph)

def Gap (blanks : List Char) : Prop := ∀ c ∈ blanks, Cursor.isBlank c = true

theorem noGap : Gap [] := nofun

theorem skipSolid {c : Char} (solid : Cursor.isBlank c = false) (p : Place) (rest : List Glyph) :
    Cursor.skip ⟨p, .char c :: rest⟩ = ⟨p, .char c :: rest⟩ := by
  simp [Cursor.skip, Cursor.skipBlanks, solid]

theorem skipGap {gap : List Char} (blank : Gap gap) (p : Place) (rest : List Glyph) :
    ∃ q, Cursor.skip ⟨p, gap.map .char ++ rest⟩ = Cursor.skip ⟨q, rest⟩ := by
  induction gap generalizing p with
  | nil => exact ⟨p, rfl⟩
  | cons c gap ih =>
    obtain ⟨head, tail⟩ := List.forall_mem_cons.mp blank
    obtain ⟨q, others⟩ := ih tail (p.after (.char c))
    refine ⟨q, ?_⟩
    rw [← others]
    simp [Cursor.skip, Cursor.skipBlanks, head]

theorem skipTo {gap : List Char} (blank : Gap gap) {c : Char} (solid : Cursor.isBlank c = false)
    (p : Place) (rest : List Glyph) :
    ∃ q, Cursor.skip ⟨p, gap.map .char ++ .char c :: rest⟩ = ⟨q, .char c :: rest⟩ := by
  obtain ⟨q, skipped⟩ := skipGap blank p (.char c :: rest)
  exact ⟨q, by rw [skipped, skipSolid solid]⟩

theorem readBehindGap {gap : List Char} (blank : Gap gap) (fuel : Nat) (p : Place)
    (rest : List Glyph) :
    ∃ q, Node.read (fuel + 1) ⟨p, gap.map .char ++ rest⟩ = Node.read (fuel + 1) ⟨q, rest⟩ := by
  obtain ⟨q, skipped⟩ := skipGap blank p rest
  exact ⟨q, by simp only [Node.read, skipped]⟩

theorem closesAt {c : Char} (solid : Cursor.isBlank c = false) (p : Place) (rest : List Glyph) :
    Cursor.closeArray ⟨p, .char c :: rest⟩ = .ok () ↔ c = ']' := by
  by_cases bracket : c = ']'
  · subst bracket
    simp [Cursor.closeArray, skipSolid solid, Cursor.next?]
  · by_cases comma : c = ','
    · subst comma
      have here : Cursor.next? ⟨p, .char ',' :: rest⟩ = some ',' := rfl
      simp only [Cursor.closeArray, skipSolid solid, here, bracket, iff_false]
      split <;> simp
    · simp [Cursor.closeArray, skipSolid solid, Cursor.next?, bracket, comma]

theorem closesBehind {gap : List Char} (blank : Gap gap) {c : Char}
    (solid : Cursor.isBlank c = false) (p : Place) (rest : List Glyph) :
    Cursor.closeArray ⟨p, gap.map .char ++ .char c :: rest⟩ = .ok () ↔ c = ']' := by
  obtain ⟨q, skipped⟩ := skipTo blank solid p rest
  rw [← closesAt solid q rest]
  simp only [Cursor.closeArray, skipped, skipSolid solid]

def separator (first : Bool) : List Char := if first then [] else [',']

mutual

inductive Shows : List Char → Value → Prop where
  | null : Shows ['n', 'u', 'l', 'l'] .null
  | yes : Shows ['t', 'r', 'u', 'e'] (.bool true)
  | no : Shows ['f', 'a', 'l', 's', 'e'] (.bool false)
  | number {n : Number} (legible : n.Legible) : Shows n.text.toList (.number n)
  | string {s : String} : Shows (quote s).toList (.string s)
  | array {text : List Char} {items : List Value} (shown : ItemsShow true text items) :
      Shows ('[' :: text) (.array items)
  | object {text : List Char} {members : List (String × Value)}
      (shown : MembersShow true text members) : Shows ('\x7b' :: text) (.object members)

inductive ItemsShow : Bool → List Char → List Value → Prop where
  | close {first : Bool} {gap : List Char} (blank : Gap gap) : ItemsShow first (gap ++ [']']) []
  | item {first : Bool} {gap text more : List Char} {v : Value} {rest : List Value}
      (blank : Gap gap) (head : Shows text v) (tail : ItemsShow false more rest) :
      ItemsShow first (separator first ++ (gap ++ (text ++ more))) (v :: rest)

inductive MembersShow : Bool → List Char → List (String × Value) → Prop where
  | close {first : Bool} {gap : List Char} (blank : Gap gap) : MembersShow first (gap ++ ['\x7d']) []
  | member {first : Bool} {gap between text more : List Char} {key : String} {v : Value}
      {rest : List (String × Value)} (blank : Gap gap) (blank' : Gap between)
      (head : Shows text v) (tail : MembersShow false more rest) :
      MembersShow first
        (separator first ++ (gap ++ ((quote key).toList ++ ':' :: (between ++ (text ++ more)))))
        ((key, v) :: rest)

end

theorem quoted (s : String) : (quote s).toList = '"' :: (quote s).toList.tail := by
  simp [quote]

theorem Shows.starts {text : List Char} {v : Value} (shown : Shows text v) : Starts text := by
  cases shown with
  | null => exact ⟨'n', _, rfl, rfl, by simp⟩
  | yes => exact ⟨'t', _, rfl, rfl, by simp⟩
  | no => exact ⟨'f', _, rfl, rfl, by simp⟩
  | number legible => exact legible.starts
  | @string s =>
    rw [quoted]
    exact ⟨'"', _, rfl, rfl, by simp⟩
  | array => exact ⟨'[', _, rfl, rfl, by simp⟩
  | object => exact ⟨'\x7b', _, rfl, rfl, by simp⟩

theorem startsPositive {text : List Char} (starts : Starts text) : 0 < text.length := by
  obtain ⟨c, rest, rfl, -⟩ := starts
  simp

theorem gapEnds {gap : List Char} (blank : Gap gap) : Ends (gap.map .char) := by
  cases gap with
  | nil => exact .inl rfl
  | cons c gap => exact .inr ⟨c, _, rfl, .inr (blank c (by simp))⟩

theorem closingEnds {gap : List Char} (blank : Gap gap) {close : Char}
    (closing : close ∈ [']', '\x7d']) (rest : List Glyph) :
    Ends ((gap ++ [close]).map .char ++ rest) := by
  cases gap with
  | nil => exact .inr ⟨close, rest, rfl, .inl (List.mem_cons_of_mem _ closing)⟩
  | cons c gap => exact .inr ⟨c, _, rfl, .inr (blank c (by simp))⟩

theorem ItemsShow.ends {text : List Char} {vs : List Value} (shown : ItemsShow false text vs)
    (rest : List Glyph) : Ends (text.map .char ++ rest) := by
  cases shown with
  | close blank => exact closingEnds blank (by simp) rest
  | item => exact .inr ⟨',', _, rfl, .inl (by simp)⟩

theorem MembersShow.ends {text : List Char} {ms : List (String × Value)}
    (shown : MembersShow false text ms) (rest : List Glyph) : Ends (text.map .char ++ rest) := by
  cases shown with
  | close blank => exact closingEnds blank (by simp) rest
  | member => exact .inr ⟨',', _, rfl, .inl (by simp)⟩

theorem opensAt {gap text : List Char} (blank : Gap gap) (starts : Starts text) (first : Bool)
    (p : Place) (rest : List Glyph) :
    Cursor.closeArray ⟨p, (separator first ++ (gap ++ text)).map .char ++ rest⟩ ≠ .ok () := by
  obtain ⟨c, more, rfl, solid, inside⟩ := starts
  cases first with
  | true =>
    have closes := closesBehind blank solid p (more.map .char ++ rest)
    simpa [separator, inside] using closes
  | false =>
    have closes := closesAt (c := ',') rfl p ((gap ++ c :: more).map .char ++ rest)
    simpa [separator] using closes

theorem itemStarts {gap text : List Char} (blank : Gap gap) (starts : Starts text) (first : Bool)
    (p : Place) (rest : List Glyph) :
    ∃ start q,
      Cursor.skip ⟨p, (separator first ++ (gap ++ text)).map .char ++ rest⟩ = start ∧
      start.next? ≠ some ']' ∧ Node.itemStart start first = .ok ⟨q, text.map .char ++ rest⟩ := by
  obtain ⟨c, more, rfl, solid, inside⟩ := starts
  cases first with
  | true =>
    obtain ⟨q, skipped⟩ := skipTo blank solid p (more.map .char ++ rest)
    refine ⟨_, q, by simpa [separator] using skipped, ?_, ?_⟩
    · simp [Cursor.next?, inside]
    · simp [Node.itemStart, Cursor.isAtEnd]
  | false =>
    obtain ⟨q, skipped⟩ := skipTo blank solid (p.after (.char ',')) (more.map .char ++ rest)
    refine ⟨_, q, skipSolid (c := ',') rfl p _, by simp [Cursor.next?], ?_⟩
    simp [Node.itemStart, Cursor.isAtEnd, Cursor.next?, Cursor.advance, skipped, inside]

theorem keyStarts {gap : List Char} (blank : Gap gap) (first : Bool) (p : Place)
    (rest : List Glyph) :
    ∃ start q, Cursor.skip ⟨p, (separator first ++ gap).map .char ++ .char '"' :: rest⟩ = start ∧
      start.next? ≠ some '\x7d' ∧ Node.keyStart start first = .ok ⟨q, .char '"' :: rest⟩ := by
  have solid : Cursor.isBlank '"' = false := rfl
  cases first with
  | true =>
    obtain ⟨q, skipped⟩ := skipTo blank solid p rest
    refine ⟨_, q, by simpa [separator] using skipped, by simp [Cursor.next?], ?_⟩
    simp [Node.keyStart, Cursor.isAtEnd, Cursor.next?]
  | false =>
    obtain ⟨q, skipped⟩ := skipTo blank solid (p.after (.char ',')) rest
    refine ⟨_, q, skipSolid (c := ',') rfl p _, by simp [Cursor.next?], ?_⟩
    simp [Node.keyStart, Cursor.isAtEnd, Cursor.next?, Cursor.advance, skipped]

theorem keyRead (key : String) (p : Place) (rest : List Glyph) :
    ∃ q, Node.readKey ⟨p, .char '"' :: ((quote key).toList.tail.map .char ++ rest)⟩ =
      .ok (.ok key, ⟨q, rest⟩) := by
  obtain ⟨q, read⟩ := StringText.readQuoted key (p.after (.char '"')) rest
  exact ⟨q, by simp only [Node.readKey, Cursor.advance, read]⟩

theorem wordRead (word : List Char) (p : Place) (rest : List Glyph) :
    ∃ q, Node.expectWord ⟨p, word.map .char ++ rest⟩ word = .ok ⟨q, rest⟩ := by
  induction word generalizing p with
  | nil => exact ⟨p, rfl⟩
  | cons c word ih =>
    obtain ⟨q, read⟩ := ih (p.after (.char c))
    refine ⟨q, ?_⟩
    simpa [Node.expectWord, Cursor.isAtEnd, Cursor.next?, Cursor.advance] using read

theorem wordValue (value : Scalar) (c : Char) (word : List Char) (p : Place)
    (rest : List Glyph) :
    ∃ q, Node.ofWord ⟨p, (c :: word).map .char ++ rest⟩ word value =
      (.scalar (.ok value) none q, .ok ⟨q, rest⟩) := by
  obtain ⟨q, read⟩ := wordRead word (p.after (.char c)) rest
  refine ⟨q, ?_⟩
  simp only [Node.ofWord, Cursor.advance, List.map_cons, List.cons_append, read]
  rfl

theorem stringRead (s : String) (fuel : Nat) (p : Place) (rest : List Glyph) :
    ∃ q, Node.read (fuel + 1) ⟨p, (quote s).toList.map .char ++ rest⟩ =
      (.scalar (.ok (.string s)) none q, .ok ⟨q, rest⟩) := by
  have solid : Cursor.isBlank '"' = false := rfl
  obtain ⟨q, read⟩ := StringText.readQuoted s (p.after (.char '"')) rest
  refine ⟨q, ?_⟩
  rw [quoted, List.map_cons, List.cons_append]
  simp only [Node.read, skipSolid solid, Cursor.next?, Node.ofScalar, Node.ofReadings,
    Cursor.advance, read]
  rfl

theorem itemsStep {gap text : List Char} (blank : Gap gap) (starts : Starts text) (first : Bool)
    (fuel : Nat) (p : Place) (rest : List Glyph) :
    ∃ q, ∀ node behind,
      Node.read fuel ⟨q, text.map .char ++ rest⟩ = (node, .ok behind) →
      Node.readItems (fuel + 1) ⟨p, (separator first ++ (gap ++ text)).map .char ++ rest⟩ first =
        (.item node behind (Node.readItems fuel behind false).1,
          (Node.readItems fuel behind false).2) := by
  obtain ⟨start, q, skipped, inside, found⟩ := itemStarts blank starts first p rest
  refine ⟨q, ?_⟩
  intro node behind read
  simp only [Node.readItems, skipped, inside, if_false, found, read]

theorem membersStep {gap between : List Char} (blank : Gap gap) (blank' : Gap between)
    (key : String) (text : List Char) (first : Bool) (fuel : Nat) (p : Place)
    (rest : List Glyph) :
    ∃ q behindKey, ∀ node behind,
      Node.read (fuel + 1) ⟨q, text.map .char ++ rest⟩ = (node, .ok behind) →
      Node.readMembers (fuel + 2)
          ⟨p, (separator first ++
            (gap ++ ((quote key).toList ++ ':' :: (between ++ text)))).map .char ++ rest⟩ first =
        (.member (.ok key) behindKey node behind (Node.readMembers (fuel + 1) behind false).1,
          (Node.readMembers (fuel + 1) behind false).2) := by
  have colon : Cursor.isBlank ':' = false := rfl
  obtain ⟨start, mark, skipped, inside, found⟩ := keyStarts blank first p
    ((quote key).toList.tail.map .char ++
      .char ':' :: (between.map .char ++ (text.map .char ++ rest)))
  obtain ⟨behindKey, keyed⟩ := keyRead key mark
    (.char ':' :: (between.map .char ++ (text.map .char ++ rest)))
  obtain ⟨q, across⟩ := readBehindGap blank' fuel (behindKey.after (.char ':'))
    (text.map .char ++ rest)
  have spelt : (separator first ++ (gap ++ ((quote key).toList ++ ':' :: (between ++ text)))).map
        Glyph.char ++ rest =
      (separator first ++ gap).map .char ++ .char '"' :: ((quote key).toList.tail.map .char ++
        .char ':' :: (between.map .char ++ (text.map .char ++ rest))) := by
    rw [quoted]
    simp
  rw [spelt]
  refine ⟨q, ⟨behindKey, .char ':' :: (between.map .char ++ (text.map .char ++ rest))⟩, ?_⟩
  intro node behind read
  rw [← across] at read
  have marked : Cursor.next? ⟨behindKey, .char ':' ::
      (between.map .char ++ (text.map .char ++ rest))⟩ = some ':' := rfl
  rw [Node.readMembers]
  simp only [skipped, inside, if_false, found, keyed, Except.bind, skipSolid colon, marked,
    if_true, Cursor.advance, read]

theorem arrayStep (fuel : Nat) (p : Place) (rest : List Glyph) :
    Node.read (fuel + 1) ⟨p, .char '[' :: rest⟩ =
      (.array p ⟨p.after (.char '['), rest⟩
        (Node.readItems fuel ⟨p.after (.char '['), rest⟩ true).1,
        (Node.readItems fuel ⟨p.after (.char '['), rest⟩ true).2) := by
  have solid : Cursor.isBlank '[' = false := rfl
  simp only [Node.read, skipSolid solid]
  rfl

theorem objectStep (fuel : Nat) (p : Place) (rest : List Glyph) :
    Node.read (fuel + 1) ⟨p, .char '\x7b' :: rest⟩ =
      (.object p ⟨p.after (.char '\x7b'), rest⟩
        (Node.readMembers fuel ⟨p.after (.char '\x7b'), rest⟩ true).1,
        (Node.readMembers fuel ⟨p.after (.char '\x7b'), rest⟩ true).2) := by
  have solid : Cursor.isBlank '\x7b' = false := rfl
  simp only [Node.read, skipSolid solid]
  rfl

/- What is read where a value is shown: a tree that spells it, and that gives it back. -/

structure Holds (node : Node) (v : Value) : Prop where
  spelt : Spells node v
  value : v.Lossless → node.toValue = .ok v

structure ItemsHold (c : Cursor) (items : Items) (vs : List Value) : Prop where
  spelt : ItemsSpell c items vs
  values : Value.ItemsLossless vs → Node.itemValues items = .ok vs

structure MembersHold (members : Members) (pairs : List (String × Value)) : Prop where
  spelt : MembersSpell members pairs
  values : ∀ before, ((before ++ pairs).map Prod.fst).Nodup → Value.MembersLossless pairs →
    Node.memberValues before members = .ok (before ++ pairs)

theorem ItemsHold.item {c behind : Cursor} {node : Node} {v : Value} {items : Items}
    {vs : List Value} (opened : c.closeArray ≠ .ok ()) (head : Holds node v)
    (tail : ItemsHold behind items vs) : ItemsHold c (.item node behind items) (v :: vs) where
  spelt := .item opened head.spelt tail.spelt
  values := by
    intro lossless
    simp [Node.itemValues, head.value lossless.1, tail.values lossless.2, Except.map]

theorem MembersHold.member {key : String} {behindKey behind : Cursor} {node : Node} {v : Value}
    {members : Members} {pairs : List (String × Value)} (head : Holds node v)
    (tail : MembersHold members pairs) :
    MembersHold (.member (.ok key) behindKey node behind members) ((key, v) :: pairs) where
  spelt := .member head.spelt tail.spelt
  values := by
    intro before distinct lossless
    have fresh : key ∉ before.map Prod.fst := by
      intro taken
      rw [List.map_append, List.nodup_append] at distinct
      exact distinct.2.2 key taken key (by simp) rfl
    have others := tail.values (before ++ [(key, v)]) (by simpa using distinct) lossless.2
    simp [Node.memberValues, head.value lossless.1, Value.setFresh fresh, others]

theorem ItemsShow.positive {first : Bool} {text : List Char} {vs : List Value}
    (shown : ItemsShow first text vs) : 0 < text.length := by
  cases shown with
  | close => simp
  | item blank head tail =>
    have part := startsPositive head.starts
    simp only [List.length_append]
    omega

theorem MembersShow.positive {first : Bool} {text : List Char} {ms : List (String × Value)}
    (shown : MembersShow first text ms) : 0 < text.length := by
  cases shown with
  | close => simp
  | member =>
    simp only [List.length_append, List.length_cons]
    omega

mutual

theorem Shows.read {text : List Char} {v : Value} : Shows text v → ∀ (fuel : Nat) (p : Place)
    (rest : List Glyph), text.length ≤ fuel → Ends rest →
    ∃ node q, Node.read fuel ⟨p, text.map .char ++ rest⟩ = (node, .ok ⟨q, rest⟩) ∧ Holds node v
  | .null, fuel + 1, p, rest, _, _ => by
    obtain ⟨q, read⟩ := wordValue .null 'n' ['u', 'l', 'l'] p rest
    exact ⟨_, q, read, .null, fun _ => rfl⟩
  | .yes, fuel + 1, p, rest, _, _ => by
    obtain ⟨q, read⟩ := wordValue (.bool true) 't' ['r', 'u', 'e'] p rest
    exact ⟨_, q, read, .bool, fun _ => rfl⟩
  | .no, fuel + 1, p, rest, _, _ => by
    obtain ⟨q, read⟩ := wordValue (.bool false) 'f' ['a', 'l', 's', 'e'] p rest
    exact ⟨_, q, read, .bool, fun _ => rfl⟩
  | .number legible, fuel + 1, p, rest, _, ends => by
    obtain ⟨node, q, read, spelt⟩ := legible.read fuel p rest ends
    refine ⟨node, q, read, spelt, ?_⟩
    intro exact
    obtain ⟨behind, _, back⟩ := exact.back fuel p rest ends
    rw [(Prod.mk.inj (read.symm.trans back)).1]
    rfl
  | @Shows.string s, fuel + 1, p, rest, _, _ => by
    obtain ⟨q, read⟩ := stringRead s fuel p rest
    exact ⟨_, q, read, .string, fun _ => rfl⟩
  | @Shows.array text _ shown, fuel + 1, p, rest, enough, _ => by
    obtain ⟨items, q, read, held⟩ :=
      shown.read fuel (p.after (.char '[')) rest (Nat.le_of_succ_le_succ enough)
    have step := arrayStep fuel p (text.map .char ++ rest)
    rw [read] at step
    refine ⟨_, q, step, .array held.spelt, ?_⟩
    intro lossless
    simp [Node.toValue, held.values lossless, Except.map]
  | @Shows.object text _ shown, fuel + 1, p, rest, enough, _ => by
    obtain ⟨members, q, read, held⟩ :=
      shown.read fuel (p.after (.char '\x7b')) rest (Nat.le_of_succ_le_succ enough)
    have step := objectStep fuel p (text.map .char ++ rest)
    rw [read] at step
    refine ⟨_, q, step, .object held.spelt, ?_⟩
    intro lossless
    simp [Node.toValue, held.values [] (by simpa using lossless.1) lossless.2, Except.map]
  | shown, 0, _, _, enough, _ => by
    have positive := startsPositive shown.starts
    omega

theorem ItemsShow.read {first : Bool} {text : List Char} {vs : List Value} :
    ItemsShow first text vs → ∀ (fuel : Nat) (p : Place) (rest : List Glyph),
    text.length ≤ fuel →
    ∃ items q, Node.readItems fuel ⟨p, text.map .char ++ rest⟩ first = (items, .ok ⟨q, rest⟩) ∧
      ItemsHold ⟨p, text.map .char ++ rest⟩ items vs
  | .close blank, fuel + 1, p, rest, _ => by
    obtain ⟨q, skipped⟩ := skipTo blank (c := ']') rfl p rest
    have closed := (closesBehind blank (c := ']') rfl p rest).mpr rfl
    refine ⟨.close, q.after (.char ']'), ?_, ?_⟩
    · simp [Node.readItems, skipped, Cursor.next?, Cursor.advance]
    · exact ⟨by simpa using .close closed, fun _ => rfl⟩
  | @ItemsShow.item _ _ text more _ _ blank head tail, fuel + 1, p, rest, enough => by
    have positive := tail.positive
    have part := startsPositive head.starts
    simp only [List.length_append] at enough
    obtain ⟨start, step⟩ := itemsStep blank head.starts first fuel p (more.map .char ++ rest)
    obtain ⟨node, behind, read, held⟩ := head.read fuel start _ (by omega) (tail.ends rest)
    obtain ⟨items, q, others, holds⟩ := tail.read fuel behind rest (by omega)
    have reading := step node _ read
    rw [others] at reading
    have opened := opensAt blank head.starts first p (more.map .char ++ rest)
    refine ⟨_, q, by simpa using reading, .item ?_ held holds⟩
    simpa using opened
  | shown, 0, _, _, enough => by
    have positive := shown.positive
    omega

theorem MembersShow.read {first : Bool} {text : List Char} {ms : List (String × Value)} :
    MembersShow first text ms → ∀ (fuel : Nat) (p : Place) (rest : List Glyph),
    text.length ≤ fuel →
    ∃ members q,
      Node.readMembers fuel ⟨p, text.map .char ++ rest⟩ first = (members, .ok ⟨q, rest⟩) ∧
      MembersHold members ms
  | .close blank, fuel + 1, p, rest, _ => by
    obtain ⟨q, skipped⟩ := skipTo blank (c := '\x7d') rfl p rest
    refine ⟨.close, q.after (.char '\x7d'), ?_, .close, ?_⟩
    · simp [Node.readMembers, skipped, Cursor.next?, Cursor.advance]
    · intro before _ _
      simp [Node.memberValues]
  | @MembersShow.member _ _ _ text more key _ _ blank blank' head tail, fuel + 2, p, rest,
      enough => by
    have positive := tail.positive
    have part := startsPositive head.starts
    simp only [List.length_append, List.length_cons] at enough
    obtain ⟨start, behindKey, step⟩ :=
      membersStep blank blank' key text first fuel p (more.map .char ++ rest)
    obtain ⟨node, behind, read, held⟩ := head.read (fuel + 1) start _ (by omega) (tail.ends rest)
    obtain ⟨members, q, others, holds⟩ := tail.read (fuel + 1) behind rest (by omega)
    have reading := step node _ read
    rw [others] at reading
    exact ⟨_, q, by simpa using reading, .member held holds⟩
  | shown, 0, _, _, enough => by
    have positive := shown.positive
    omega
  | .member blank blank' head tail, 1, _, _, enough => by
    have part := startsPositive head.starts
    simp only [List.length_append, List.length_cons] at enough
    omega

end

theorem treeShown {text gap : List Char} {v : Value} (shown : Shows text v) (blank : Gap gap) :
    ∃ node q, Node.ofGlyphs ((text ++ gap).map .char) = (node, .ok ⟨q, gap.map .char⟩) ∧
      Holds node v := by
  have enough : text.length ≤ 2 * ((text ++ gap).map Glyph.char).length + 2 := by
    simp only [List.length_map, List.length_append]
    omega
  obtain ⟨node, q, read, held⟩ := shown.read _ .start _ enough (gapEnds blank)
  rw [← List.map_append] at read
  exact ⟨node, q, read, held⟩

theorem endingBlank {gap : List Char} (blank : Gap gap) (p : Place) :
    Node.ending (.ok ⟨p, gap.map .char⟩) = .ok () := by
  obtain ⟨q, skipped⟩ := skipGap blank p []
  rw [List.append_nil] at skipped
  simp only [Node.ending, skipped]
  rfl

theorem shownRead {text : String} {v : Value} (shown : Shows text.toList v) :
    ∃ node, Spells node v ∧ ∀ {α : Type} (read : Node → Except Refusal α),
      Node.readText read (Glyph.ofString text) = read node := by
  obtain ⟨node, q, tree, held⟩ := treeShown shown noGap
  have ends := endingBlank noGap q
  rw [List.append_nil] at tree
  refine ⟨node, held.spelt, ?_⟩
  intro α read
  simp only [Node.readText, Glyph.ofString, tree, ends]
  cases read node <;> rfl

theorem shownAgrees {α : Type} {readValue : Value → Except Schema.Problem α}
    {readNode : Node → Except Refusal α} (agree : Agree readValue readNode) {text : String}
    {v : Value} (shown : Shows text.toList v) (x : α) :
    Node.readText readNode (Glyph.ofString text) = .ok x ↔ readValue v = .ok x := by
  obtain ⟨node, spelt, same⟩ := shownRead shown
  rw [same, agree spelt x]

theorem shownParsed {text : String} {shown gap : List Char} {v : Value} (shows : Shows shown v)
    (blank : Gap gap) (spelt : text.toList = shown ++ gap) (lossless : v.Lossless) :
    Value.parse text = .ok v := by
  obtain ⟨node, q, tree, held⟩ := treeShown shows blank
  simp only [Value.parse, Glyph.ofString, spelt, tree, held.value lossless, endingBlank blank]
  rfl

end StudyPlan.Json
