import StudyPlan.Proofs.Json.TextWritten
import StudyPlan.Proofs.Offers
import StudyPlan.Proofs.Yaml.TreeRead
import StudyPlan.Yaml.Read

/-! Maps of strings out of documents. An object of strings is read if no key stands in it twice,
and is then the map that its members are collected in; and so whatever is read, collected or
inserted, an ordered map is told by what it has been offered. -/
namespace StudyPlan
open Schema (Problem)
open Text (Glyph)

namespace OrderedMap

theorem offeredWhole {α : Type} {pairs : List (String × α)} {m : OrderedMap α} :
    empty.offer pairs = .ok m ↔ (pairs.map Prod.fst).Nodup ∧ m = ofList pairs := by
  rcases offered emptyWellFormed pairs with ⟨distinct, whole⟩ | ⟨key, first, stopped⟩
  · have unique : (pairs.map Prod.fst).Nodup := distinct
    have collected : (ofList pairs).entries = pairs := by
      rw [collectedOffers, offersDistinct unique]
    have same : ofList pairs = ⟨pairs⟩ := congrArg mk collected
    rw [whole, same]
    simp [unique, empty, eq_comm]
  · have repeats : ¬ (pairs.map Prod.fst).Nodup := first.repeats
    simp [stopped, repeats]

end OrderedMap

def Schema.stringMap {Node : Type} {Result : Type → Type} [Format Node Result] :
    Node → Result (OrderedMap String) := Format.dictionary Format.string

namespace Json
variable {pairs : List (String × String)} {m : OrderedMap String}

def stringObject (pairs : List (String × String)) : Value :=
  .object (pairs.map fun (key, s) => (key, .string s))

theorem stringsOffered (pairs : List (String × String)) (before : OrderedMap String) :
    Value.readEntries Value.readString before (pairs.map fun (key, s) => (key, .string s)) =
      (before.offer pairs).mapError .duplicateKey := by
  induction pairs generalizing before with
  | nil => rfl
  | cons pair rest ih =>
    obtain ⟨key, s⟩ := pair
    simp only [List.map_cons, Value.readEntries, Value.readString, OrderedMap.offer]
    cases before.insert? key s with
    | none => rfl
    | some more => exact ih more

theorem objectRead : Schema.stringMap (stringObject pairs) = Except.ok m ↔
    (pairs.map Prod.fst).Nodup ∧ m = .ofList pairs := by
  have read : Schema.stringMap (stringObject pairs) =
      (OrderedMap.empty.offer pairs).mapError Problem.duplicateKey := stringsOffered pairs .empty
  rw [read, ← OrderedMap.offeredWhole]
  cases OrderedMap.empty.offer pairs <;> simp [Except.mapError]

structure ObjectText (text : List Glyph) (pairs : List (String × String)) : Prop where
  spelt : Spells (Node.ofGlyphs text).1 (stringObject pairs)
  ended : Node.ending (Node.ofGlyphs text).2 = .ok ()

theorem ObjectText.read {text : List Glyph} (shown : ObjectText text pairs) :
    Node.readText Schema.stringMap text = .ok m ↔
      (pairs.map Prod.fst).Nodup ∧ m = .ofList pairs := by
  have tree : Node.readText Schema.stringMap text =
      Node.readDictionary Node.readString (Node.ofGlyphs text).1 := by
    simp only [Node.readText, shown.ended]
    cases read : Schema.stringMap (Node.ofGlyphs text).1 with
    | error refusal => exact read.symm
    | ok found => exact read.symm
  rw [tree, ← Agree.dictionary Agree.string shown.spelt m]
  exact objectRead

theorem stringsLegible (pairs : List (String × String)) : (stringObject pairs).Legible := by
  refine Value.membersLegible ?_
  intro member inside
  obtain ⟨pair, -, rfl⟩ := List.mem_map.mp inside
  trivial

theorem objectWritten (pairs : List (String × String)) :
    ObjectText (Glyph.ofString (stringObject pairs).compact) pairs := by
  have shown := compactShown (stringObject pairs) (stringsLegible pairs)
  obtain ⟨node, q, tree, held⟩ := treeShown shown noGap
  rw [List.append_nil] at tree
  constructor
  · rw [Glyph.ofString, tree]
    exact held.spelt
  · rw [Glyph.ofString, tree]
    exact endingBlank noGap q

end Json

namespace Yaml
variable {pairs : List (String × String)} {m : OrderedMap String}

inductive Tells (anchored : List (Nat × Node)) : Node → String → Prop where
  | scalar {mark anchor s} : Tells anchored (.scalar mark anchor s) s.text
  | follow {mark number mark' anchor s}
      (found : Document.anchored? anchored number = some (.scalar mark' anchor s)) :
      Tells anchored (.alias mark number) s.text

inductive MembersTell (anchored : List (Nat × Node)) :
    Members → List (String × String) → Prop where
  | close : MembersTell anchored .close []
  | member {node node' key value rest pairs} (named : Tells anchored node key)
      (given : Tells anchored node' value) (tail : MembersTell anchored rest pairs) :
      MembersTell anchored (.member node node' rest) ((key, value) :: pairs)

theorem Tells.read {s : Setting} {node : Node} {text : String} (tells : Tells s.anchored node text)
    (route : Route) {n : Nat} (enough : n + 1 ≤ s.limit) :
    ∃ more ≤ n + 1, Node.readString node s route n = .ok (text, more) := by
  cases tells with
  | scalar => exact ⟨n, Nat.le_succ n, rfl⟩
  | follow found =>
    have permitted : ¬ s.limit < n + 1 := Nat.not_lt.mpr enough
    refine ⟨n + 1, Nat.le_refl _, ?_⟩
    simp only [Node.readString, Node.readText, Node.follow, permitted, if_false, found]
    rfl

theorem MembersTell.bound {anchored : List (Nat × Node)} {members : Members}
    (tell : MembersTell anchored members pairs) : 2 * pairs.length ≤ Node.membersSize members := by
  induction tell with
  | close => simp
  | @member node node' _ _ rest pairs named given tail ih =>
    have size : Node.membersSize (.member node node' rest) = 2 + Node.membersSize rest := by
      cases named <;> cases given <;> rfl
    rw [size, List.length_cons]
    omega

/- Members are entered in order, up to a key that is taken. No more than two aliases are followed for
each, so that there are never too many. -/
theorem MembersTell.offered {s : Setting} {members : Members}
    (tell : MembersTell s.anchored members pairs) (before : OrderedMap String) (route : Route)
    {n : Nat} (enough : n + 2 * pairs.length ≤ s.limit) :
    match before.offer pairs with
    | .ok m => ∃ more, Node.readEntries Node.readString before members s route n = .ok (m, more)
    | .error key => Node.readEntries Node.readString before members s route n =
        .error (.problem (.duplicateKey key) none) := by
  induction tell generalizing before n with
  | close => exact ⟨n, rfl⟩
  | @member node node' key value rest pairs named given tail ih =>
    rw [List.length_cons] at enough
    obtain ⟨next, bound, name⟩ := named.read route (n := n) (by omega)
    obtain ⟨last, bound', text⟩ := given.read (Node.keyStep node route) (n := next) (by omega)
    simp only [Node.readEntries, Result.bind, Result.within, name, text, OrderedMap.offer]
    cases before.insert? key value with
    | none => rfl
    | some m => exact ih m (by omega)

structure MappingText (text : String) (pairs : List (String × String)) : Prop where
  root : ∃ mark anchor members, (Document.ofString text).root = some (.mapping mark anchor members) ∧
    MembersTell (Node.mapping mark anchor members).anchored members pairs
  sound : (Document.ofString text).trouble = none
  single : (Document.ofString text).followed = false

theorem MappingText.read {text : String} (shown : MappingText text pairs) :
    readText Schema.stringMap text = .ok m ↔
      (pairs.map Prod.fst).Nodup ∧ m = .ofList pairs := by
  obtain ⟨⟨mark, anchor, members, root, tell⟩, sound, single⟩ := shown
  rw [← OrderedMap.offeredWhole]
  let node : Node := .mapping mark anchor members
  let s : Setting := ⟨node.anchored, none, node.size * 100⟩
  have whole : Schema.stringMap node s .root 0 =
      (Node.readEntries Node.readString .empty members s .root 0).mapError (·.locate .root mark) :=
    rfl
  have enough : 0 + 2 * pairs.length ≤ s.limit := by
    have bound := tell.bound
    have size : s.limit = (1 + Node.membersSize members) * 100 := rfl
    omega
  have entered := tell.offered (s := s) .empty .root enough
  simp only [readText, root, sound, single, Option.getD_some]
  cases offering : OrderedMap.empty.offer pairs with
  | ok found =>
    rw [offering] at entered
    obtain ⟨more, read⟩ := entered
    rw [read] at whole
    rw [whole]
    simp [Except.mapError]
  | error key =>
    rw [offering] at entered
    rw [entered] at whole
    rw [whole]
    simp [Except.mapError]

theorem MembersTell.ofSpelt {anchored : List (Nat × Node)} {members : Members}
    (spelt : MembersSpell members (pairs.map fun (key, s) => (key, .string s))) :
    MembersTell anchored members pairs := by
  induction pairs generalizing members with
  | nil =>
    cases spelt
    exact .close
  | cons pair rest ih =>
    cases spelt with
    | member head tail =>
      cases head
      exact .member .scalar .scalar (ih tail)

theorem mappingWritten (keyable : ∀ pair ∈ pairs, Keyable pair.1 ∧ Printable pair.2) :
    MappingText (Json.stringObject pairs).compact pairs := by
  have common : Json.Value.MembersCommon (pairs.map fun (key, s) => (key, .string s)) := by
    refine Json.Value.membersCommon ?_
    intro member inside
    obtain ⟨pair, listed, rfl⟩ := List.mem_map.mp inside
    exact keyable pair listed
  obtain ⟨root, document, spelt⟩ := Document.documentRead common
  cases spelt with
  | object spelt => exact ⟨⟨_, _, _, congrArg Document.root document, .ofSpelt spelt⟩,
      congrArg Document.trouble document, congrArg Document.followed document⟩

end Yaml

namespace OrderedMap

inductive Loading : List (String × String) → (OrderedMap String → Prop) → Prop where
  | value (pairs : List (String × String)) :
      Loading pairs fun m => Schema.stringMap (Json.stringObject pairs) = Except.ok m
  | json {text : List Glyph} {pairs : List (String × String)} (shown : Json.ObjectText text pairs) :
      Loading pairs fun m => Json.Node.readText Schema.stringMap text = .ok m
  | yaml {text : String} {pairs : List (String × String)} (shown : Yaml.MappingText text pairs) :
      Loading pairs fun m => Yaml.readText Schema.stringMap text = .ok m

theorem Loading.ends {pairs : List (String × String)} {ended : OrderedMap String → Prop}
    (loading : Loading pairs ended) (m : OrderedMap String) :
    ended m ↔ (pairs.map Prod.fst).Nodup ∧ m = .ofList pairs := by
  cases loading with
  | value => exact Json.objectRead
  | json shown => exact shown.read
  | yaml shown => exact shown.read

/-- However an ordered map came to be, it is the association in which the first offer of a key wins,
and it is equal to the maps that say the same in the same order. Reading an object of strings ends
with the map that collecting its members gives, and ends so only if no key stands in it twice. -/
theorem keepsFirstOffers {α : Type} [DecidableEq α] {offers : List (String × α)}
    {m : OrderedMap α} (offered : Offered offers m) :
    Associates offers m ∧
    (∀ {others n}, Offered others n →
      ((m == n) = true ↔ m.entries = n.entries) ∧
      (m.entries = n.entries ↔ firstOffers offers = firstOffers others)) ∧
    ∀ {pairs ended}, Loading pairs ended → ∀ loaded : OrderedMap String,
      ended loaded ↔ (pairs.map Prod.fst).Nodup ∧ loaded = .ofList pairs := by
  refine ⟨offered.associates, ?_, Loading.ends⟩
  intro others n offered'
  rw [beq_iff_eq, ← offered.entries, ← offered'.entries]
  exact ⟨⟨congrArg entries, congrArg mk⟩, .rfl⟩

def repeated : List (String × String) := [("z", "1"), ("a", "2"), ("z", "3")]

def once : OrderedMap String := ((ofList repeated).insert "a" "4").2

theorem repeatedKeptOnce :
    Associates (repeated ++ [("a", "4")]) once ∧
    (once == ofList [("z", "1"), ("a", "2")]) = true ∧
    (∀ loaded, Json.Node.readText Schema.stringMap
      (Glyph.ofString (Json.stringObject repeated).compact) ≠ .ok loaded) ∧
    Yaml.readText Schema.stringMap (Json.stringObject once.entries).compact = .ok once := by
  obtain ⟨kept, same, read⟩ := keepsFirstOffers (.inserted "a" "4" (.collected repeated))
  refine ⟨kept, (same (.collected [("z", "1"), ("a", "2")])).1.mpr (by decide), ?_, ?_⟩
  · intro loaded ended
    have distinct := ((read (.json (Json.objectWritten repeated)) loaded).mp ended).1
    exact absurd distinct (by decide)
  · have keyable : ∀ pair ∈ once.entries, Keyable pair.1 ∧ Printable pair.2 := by decide
    exact (read (.yaml (Yaml.mappingWritten keyable)) once).mpr (by decide)

end OrderedMap
end StudyPlan
