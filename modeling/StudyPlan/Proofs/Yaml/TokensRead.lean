import StudyPlan.Proofs.Json.TextWritten
import StudyPlan.Proofs.Yaml.ScalarRead
import StudyPlan.Yaml.Tokens

/-! The tokens of the texts that JSON and YAML share. On one line nothing is indented, so that
no key is required anywhere, and a key may be given up whenever it has become too old. -/
namespace StudyPlan.Yaml
open Json (Value)
open Plain (Ended)

namespace Scan

/- One level outside all brackets and one for each of them; nothing there has to be a key. -/
structure Levels (depth : Nat) (keys : List (Option PendingKey)) : Prop where
  count : keys.length = depth
  free : ∀ key ∈ keys, ∀ k ∈ key, k.isRequired = false

namespace Levels
variable {depth : Nat} {keys : List (Option PendingKey)} {key : Option PendingKey}

theorem cons (free : ∀ k ∈ key, k.isRequired = false) (levels : Levels depth keys) :
    Levels (depth + 1) (key :: keys) where
  count := by simp [levels.count]
  free := List.forall_mem_cons.mpr ⟨free, levels.free⟩

theorem keyless (levels : Levels depth keys) : Levels (depth + 1) (none :: keys) :=
  levels.cons (by simp)

theorem split (levels : Levels (depth + 1) keys) : ∃ key outer, keys = key :: outer ∧
    (∀ k ∈ key, k.isRequired = false) ∧ Levels depth outer := by
  obtain ⟨count, free⟩ := levels
  cases keys with
  | nil => contradiction
  | cons key outer =>
    obtain ⟨head, tail⟩ := List.forall_mem_cons.mp free
    exact ⟨key, outer, rfl, head, by simpa using count, tail⟩

theorem stale (levels : Levels depth keys) (m : Mark) :
    ∃ keys', dropStale m keys = .ok keys' ∧ Levels depth keys' := by
  induction depth generalizing keys with
  | zero =>
    cases List.length_eq_zero_iff.mp levels.count
    exact ⟨[], rfl, levels⟩
  | succ depth ih =>
    obtain ⟨key, outer, rfl, free, levels⟩ := levels.split
    obtain ⟨outer', dropped, levels'⟩ := ih levels
    cases key with
    | none => exact ⟨none :: outer', by simp [dropStale, dropped], levels'.keyless⟩
    | some k =>
      cases old : isStale k m with
      | false => exact ⟨some k :: outer', by simp [dropStale, dropped, old], levels'.cons free⟩
      | true =>
        have unneeded : k.isRequired = false := free k rfl
        exact ⟨none :: outer', by simp [dropStale, dropped, old, unneeded], levels'.keyless⟩

theorem fresh {k : PendingKey} {m : Mark} (new : isStale k m = false) (levels : Levels depth keys) :
    ∃ keys', dropStale m (some k :: keys) = .ok (some k :: keys') ∧ Levels depth keys' := by
  obtain ⟨keys', dropped, levels'⟩ := levels.stale m
  exact ⟨keys', by simp [dropStale, dropped, new], levels'⟩

end Levels

variable {s : Scan} {depth : Nat} {keys : List (Option PendingKey)}

theorem keyDropped (levels : Levels depth s.keys) :
    ∃ keys', s.dropKey = .ok { s with keys := keys' } ∧ Levels depth keys' := by
  obtain ⟨cursor, tokens, count, indent, indents, keys, allowed, finished⟩ := s
  cases depth with
  | zero =>
    cases List.length_eq_zero_iff.mp levels.count
    exact ⟨[], rfl, levels⟩
  | succ depth =>
    obtain ⟨key, outer, rfl, free, levels'⟩ := levels.split
    cases key with
    | none => exact ⟨none :: outer, rfl, levels⟩
    | some k =>
      have unneeded : k.isRequired = false := free k rfl
      exact ⟨none :: outer, by simp [dropKey, unneeded], levels'.keyless⟩

theorem keyOffered (outside : s.indent = -1) (allowed : s.keyAllowed = true)
    (levels : Levels (depth + 1) s.keys) :
    ∃ outer, s.offerKey = .ok { s with keys := some ⟨s.count, false, s.mark⟩ :: outer } ∧
      Levels depth outer := by
  obtain ⟨keys', dropped, levels⟩ := keyDropped levels
  obtain ⟨key, outer, rfl, -, levels⟩ := levels.split
  refine ⟨outer, ?_, levels⟩
  -- a key is required in the column of its block, and there is no block
  have column : ((-1 : Int) = (s.cursor.mark.column : Int)) = False := by simp
  simp [offerKey, allowed, dropped, outside, mark, column, bind, Except.bind, pure, Except.pure]

theorem offered (outside : s.indent = -1) (levels : Levels (depth + 1) s.keys) :
    ∃ keys', s.offerKey = .ok { s with keys := keys' } ∧ Levels (depth + 1) keys' := by
  by_cases allowed : s.keyAllowed = true
  · obtain ⟨outer, given, levels⟩ := keyOffered outside allowed levels
    exact ⟨_, given, levels.cons (by simp)⟩
  · have unchanged : s.offerKey = .ok s := by simp [offerKey, allowed]
    exact ⟨s.keys, unchanged, levels⟩

theorem inBrackets (levels : Levels (depth + 2) s.keys) : s.inFlow = true := by
  simp [inFlow, levels.count]

theorem noBlocks (none : s.indents = []) (column : Int) : s.closeBlocks column = s := by
  simp [closeBlocks, none, closeBlocksWith]

theorem cleared {keys' : List (Option PendingKey)} (dropped : dropStale s.mark s.keys = .ok keys') :
    s.dropStaleKeys = .ok { s with keys := keys' } := by
  simp [dropStaleKeys, dropped, Except.map]

def line (n : Nat) (text : List Char) (tokens : List Token) (keys : List (Option PendingKey))
    (allowed : Bool) : Scan :=
  ⟨⟨⟨n, 0, n⟩, text⟩, tokens, tokens.length, -1, [], keys, allowed, false⟩

variable {n : Nat} {text rest : List Char} {tokens : List Token} {allowed : Bool}
  {keys' : List (Option PendingKey)}

def Solid (c : Char) : Prop := c ∈ ['[', ']', '\x7b', '\x7d', ',', ':', '"', 't', 'f']

instance (c : Char) : Decidable (Solid c) := by unfold Solid; infer_instance

theorem stepped {c : Char} (solid : Solid c) (dropped : dropStale ⟨n, 0, n⟩ keys = .ok keys') :
    (line n (c :: rest) tokens keys allowed).step =
      ((line n (c :: rest) tokens keys' allowed).token c).bind dropStaleKeys := by
  have here : (line n (c :: rest) tokens keys allowed).skipToToken =
      line n (c :: rest) tokens keys allowed := by
    simp [Solid] at solid
    rcases solid with rfl | rfl | rfl | rfl | rfl | rfl | rfl | rfl | rfl <;> rfl
  have fresh : (line n (c :: rest) tokens keys allowed).dropStaleKeys =
      .ok (line n (c :: rest) tokens keys' allowed) := cleared dropped
  simp only [step, here, fresh, bind, Except.bind]
  rw [noBlocks rfl]
  rfl

/- The fuel of a run is as much as is left of the text, and something to spare. -/
def Leads (s s' : Scan) : Prop := ∀ spare, ∃ spare', spare ≤ spare' ∧
  run (s.cursor.rest.length + spare) s = run (s'.cursor.rest.length + spare') s'

namespace Leads
variable {s s' s'' : Scan}

theorem refl (s : Scan) : Leads s s := fun spare => ⟨spare, Nat.le_refl spare, rfl⟩

theorem trans (first : Leads s s') (second : Leads s' s'') : Leads s s'' := by
  intro spare
  obtain ⟨spare', more, reached⟩ := first spare
  obtain ⟨spare'', more', reached'⟩ := second spare'
  exact ⟨spare'', Nat.le_trans more more', reached.trans reached'⟩

theorem step (unfinished : s.finished = false) (stepped : s.step = .ok s')
    (shorter : s'.cursor.rest.length < s.cursor.rest.length) : Leads s s' := by
  intro spare
  obtain ⟨fuel, enough⟩ : ∃ fuel, s.cursor.rest.length + spare = fuel + 1 :=
    Nat.exists_eq_add_one.mpr (by omega)
  have left : s'.cursor.rest.length + (fuel - s'.cursor.rest.length) = fuel := by omega
  refine ⟨fuel - s'.cursor.rest.length, by omega, ?_⟩
  rw [enough, left, run, unfinished, stepped]
  rfl

end Leads

/- A text before `rest` gives tokens of these kinds, and leads from one depth to another. -/
def Passes (rest text : List Char) (shown : List TokenKind) (depth depth' : Nat)
    (allowed allowed' : Bool) : Prop :=
  ∀ n tokens keys, Levels depth keys → ∃ n' keys', ∃ tokens' : List Token,
    Levels depth' keys' ∧ tokens'.map (·.kind) = shown ∧
    Leads (line n (text ++ rest) tokens keys allowed)
      (line n' rest (tokens'.reverse ++ tokens) keys' allowed')

namespace Passes
variable {depth depth' depth'' : Nat} {allowed allowed' allowed'' : Bool}
  {text text' rest : List Char} {shown shown' : List TokenKind}

theorem none : Passes rest [] [] depth depth allowed allowed := by
  intro n tokens keys levels
  exact ⟨n, keys, [], levels, rfl, .refl _⟩

theorem append (first : Passes (text' ++ rest) text shown depth depth' allowed allowed')
    (second : Passes rest text' shown' depth' depth'' allowed' allowed'') :
    Passes rest (text ++ text') (shown ++ shown') depth depth'' allowed allowed'' := by
  intro n tokens keys levels
  obtain ⟨n', keys', left, levels', same, leads⟩ := first n tokens keys levels
  obtain ⟨n'', keys'', right, levels'', same', leads'⟩ := second n' _ keys' levels'
  refine ⟨n'', keys'', left ++ right, levels'', by simp [same, same'], ?_⟩
  simpa using leads.trans leads'

theorem token {c : Char} {text : List Char} {kind : TokenKind} (solid : Solid c)
    (read : ∀ n tokens keys, Levels depth keys → ∃ n' start stop keys', Levels depth' keys' ∧
      (line n (c :: (text ++ rest)) tokens keys allowed).token c =
        .ok (line n' rest (⟨kind, start, stop⟩ :: tokens) keys' allowed')) :
    Passes rest (c :: text) [kind] depth depth' allowed allowed' := by
  intro n tokens keys levels
  obtain ⟨before, dropped, levels⟩ := levels.stale ⟨n, 0, n⟩
  obtain ⟨n', start, stop, keys', levels', given⟩ := read n tokens before levels
  obtain ⟨after, dropped', last⟩ := levels'.stale ⟨n', 0, n'⟩
  refine ⟨n', after, [⟨kind, start, stop⟩], last, rfl, .step rfl ?_ ?_⟩
  · rw [List.cons_append, stepped solid dropped, given]
    exact cleared dropped'
  · show rest.length < (c :: text ++ rest).length
    simp only [List.cons_append, List.length_cons, List.length_append]
    omega

end Passes

theorem bracketOpened {c : Char} {kind : TokenKind}
    (opening : (c = '[' ∧ kind = .flowSequenceStart) ∨ (c = '\x7b' ∧ kind = .flowMappingStart)) :
    Passes rest [c] [kind] (depth + 1) (depth + 2) allowed true := by
  have solid : Solid c := by rcases opening with ⟨rfl, rfl⟩ | ⟨rfl, rfl⟩ <;> decide
  refine .token solid ?_
  intro n tokens keys levels
  obtain ⟨keys', given, levels'⟩ := offered (s := line n (c :: rest) tokens keys allowed) rfl levels
  refine ⟨n + 1, ⟨n, 0, n⟩, ⟨n + 1, 0, n + 1⟩, .none :: keys', levels'.keyless, ?_⟩
  have opened : (line n (c :: rest) tokens keys allowed).openFlow kind =
      .ok (line (n + 1) rest (⟨kind, ⟨n, 0, n⟩, ⟨n + 1, 0, n + 1⟩⟩ :: tokens)
        (.none :: keys') true) := by
    simp only [openFlow, given]
    rfl
  rw [← opened]
  rcases opening with ⟨rfl, rfl⟩ | ⟨rfl, rfl⟩ <;> simp [Scan.token, Cursor.seesDocumentMark, line]

theorem bracketClosed {c : Char} {kind : TokenKind}
    (closing : (c = ']' ∧ kind = .flowSequenceEnd) ∨ (c = '\x7d' ∧ kind = .flowMappingEnd)) :
    Passes rest [c] [kind] (depth + 2) (depth + 1) allowed false := by
  have solid : Solid c := by rcases closing with ⟨rfl, rfl⟩ | ⟨rfl, rfl⟩ <;> decide
  refine .token solid ?_
  intro n tokens keys levels
  obtain ⟨keys', dropped, levels⟩ :=
    keyDropped (s := line n (c :: rest) tokens keys allowed) levels
  have inside :=
    inBrackets (s := { line n (c :: rest) tokens keys allowed with keys := keys' }) levels
  obtain ⟨key, outer, rfl, -, levels⟩ := levels.split
  refine ⟨n + 1, ⟨n, 0, n⟩, ⟨n + 1, 0, n + 1⟩, outer, levels, ?_⟩
  have closed : (line n (c :: rest) tokens keys allowed).closeFlow kind =
      .ok (line (n + 1) rest (⟨kind, ⟨n, 0, n⟩, ⟨n + 1, 0, n + 1⟩⟩ :: tokens) outer false) := by
    simp only [closeFlow, dropped, bind, Except.bind, inside, if_true]
    rfl
  rw [← closed]
  rcases closing with ⟨rfl, rfl⟩ | ⟨rfl, rfl⟩ <;> simp [Scan.token, Cursor.seesDocumentMark, line]

theorem commaPassed : Passes rest [','] [.flowEntry] depth depth allowed true := by
  refine .token (by decide) ?_
  intro n tokens keys levels
  obtain ⟨keys', dropped, levels⟩ :=
    keyDropped (s := line n (',' :: rest) tokens keys allowed) levels
  refine ⟨n + 1, ⟨n, 0, n⟩, ⟨n + 1, 0, n + 1⟩, keys', levels, ?_⟩
  have entered : (line n (',' :: rest) tokens keys allowed).flowEntry =
      .ok (line (n + 1) rest (⟨.flowEntry, ⟨n, 0, n⟩, ⟨n + 1, 0, n + 1⟩⟩ :: tokens)
        keys' true) := by
    simp only [flowEntry, dropped]
    rfl
  simpa [Scan.token, Cursor.seesDocumentMark, line] using entered

theorem flagPassed (b : Bool) (ended : Ended rest) :
    Passes rest (flagText b).toList [.scalar (flagText b) .plain] (depth + 2) (depth + 2) allowed
      false := by
  have starts : ∃ c word, (flagText b).toList = c :: word ∧ (c = 't' ∨ c = 'f') := by
    cases b with
    | false => exact ⟨'f', _, rfl, .inr rfl⟩
    | true => exact ⟨'t', _, rfl, .inl rfl⟩
  obtain ⟨c, word, text, letter⟩ := starts
  have solid : Solid c := by rcases letter with rfl | rfl <;> decide
  rw [text]
  refine .token solid ?_
  intro n tokens keys levels
  let s := line n (c :: (word ++ rest)) tokens keys allowed
  let stop := Mark.right ⟨n, 0, n⟩ (flagText b).length
  obtain ⟨keys', given, levels⟩ := offered (s := s) rfl levels
  have inside := inBrackets (s := { s with keys := keys' }) levels
  have read := Plain.flagRead b n ended
  rw [text, List.cons_append] at read
  refine ⟨n + (flagText b).length, ⟨n, 0, n⟩, stop, keys', levels, ?_⟩
  have plain : s.plainScalar = .ok (line (n + (flagText b).length) rest
      (⟨.scalar (flagText b) .plain, ⟨n, 0, n⟩, stop⟩ :: tokens) keys' false) := by
    simp only [plainScalar, given, bind, Except.bind, inside]
    show Except.bind (Plain.read true 0 ⟨⟨n, 0, n⟩, _⟩) _ = _
    rw [read]
    rfl
  rw [← plain]
  rcases letter with rfl | rfl <;>
    simp [s, Scan.token, Cursor.seesDocumentMark, line, startsPlain, isIndicator, isSpaceOrTab]

def quotedAt (n : Nat) (text : String) : Token :=
  ⟨.scalar text .doubleQuoted, ⟨n, 0, n⟩, Mark.right ⟨n, 0, n⟩ (Json.quote text).length⟩

theorem quotedToken {text : String} (printable : Printable text)
    (given : (line n ((Json.quote text).toList ++ rest) tokens keys allowed).offerKey =
      .ok (line n ((Json.quote text).toList ++ rest) tokens keys' allowed)) :
    (line n ((Json.quote text).toList ++ rest) tokens keys allowed).token '"' =
      .ok (line (n + (Json.quote text).length) rest (quotedAt n text :: tokens) keys' false) := by
  have read := Quoted.stringRead printable n rest
  have quoted : (line n ((Json.quote text).toList ++ rest) tokens keys allowed).token '"' =
      (line n ((Json.quote text).toList ++ rest) tokens keys allowed).quotedScalar := by
    rw [Quoted.quoteText]
    simp [Scan.token, Cursor.seesDocumentMark, line]
  simp only [quoted, quotedScalar, given, bind, Except.bind]
  simp only [line, allowKeys, read]
  simp [Quoted.quoteText, take, Except.map, Cursor.sees, Cursor.next?, push, mark, Mark.right,
    quotedAt]

theorem stringPassed {s : String} (printable : Printable s) :
    Passes rest (Json.quote s).toList [.scalar s .doubleQuoted] (depth + 1) (depth + 1) allowed
      false := by
  have text := Quoted.quoteText s
  rw [text]
  refine .token (by decide) ?_
  intro n tokens keys levels
  rw [← List.cons_append, ← text]
  obtain ⟨keys', given, levels⟩ :=
    offered (s := line n ((Json.quote s).toList ++ rest) tokens keys allowed) rfl levels
  exact ⟨_, _, _, keys', levels, quotedToken printable given⟩

/- A key is held back until its colon comes; then it is not too old. -/

def heldKey (n : Nat) (tokens : List Token) : PendingKey := ⟨tokens.length, false, ⟨n, 0, n⟩⟩

theorem keyYoung {key : String} (keyable : Keyable key) (n : Nat) (tokens : List Token) :
    isStale (heldKey n tokens)
      ⟨n + (Json.quote key).length, 0, n + (Json.quote key).length⟩ = false := by
  have short := Quoted.keyShort keyable
  simp [isStale, heldKey]
  omega

theorem keyHeld {key : String} (keyable : Keyable key) (levels : Levels (depth + 1) keys) :
    ∃ outer, Levels depth outer ∧
      Leads (line n ((Json.quote key).toList ++ ':' :: rest) tokens keys true)
        (line (n + (Json.quote key).length) (':' :: rest) (quotedAt n key :: tokens)
          (some (heldKey n tokens) :: outer) false) := by
  obtain ⟨before, dropped, levels⟩ := levels.stale ⟨n, 0, n⟩
  let s := line n ((Json.quote key).toList ++ ':' :: rest) tokens before true
  obtain ⟨outer, given, levels⟩ := keyOffered (s := s) rfl rfl levels
  obtain ⟨outer, held, levels⟩ := levels.fresh (keyYoung keyable n tokens)
  refine ⟨outer, levels, .step rfl ?_ ?_⟩
  · have read := quotedToken keyable.printable given
    rw [Quoted.quoteText, List.cons_append] at read ⊢
    rw [stepped (by decide) dropped, read]
    exact cleared held
  · simp [line, Quoted.quoteText]
    omega

theorem colonTaken {m : Nat} {quoted : Token} (young : isStale (heldKey n tokens) ⟨m, 0, m⟩ = false)
    (levels : Levels (depth + 1) keys) :
    ∃ keys', Levels (depth + 2) keys' ∧
      Leads (line m (':' :: rest) (quoted :: tokens) (some (heldKey n tokens) :: keys) false)
        (line (m + 1) rest (⟨.value, ⟨m, 0, m⟩, ⟨m + 1, 0, m + 1⟩⟩ :: quoted ::
          ⟨.key, ⟨n, 0, n⟩, ⟨n, 0, n⟩⟩ :: tokens) keys' false) := by
  obtain ⟨outer, held, levels⟩ := levels.fresh young
  let s := line m (':' :: rest) (quoted :: tokens) (some (heldKey n tokens) :: outer) false
  have inside := inBrackets (s := s) (levels.cons (by simp [heldKey]))
  have isValue : s.token ':' = s.value := by
    simp only [Scan.token, inside]
    simp [s, line, Cursor.seesDocumentMark]
  have told : s.token ':' = .ok (line (m + 1) rest (⟨.value, ⟨m, 0, m⟩, ⟨m + 1, 0, m + 1⟩⟩ ::
      quoted :: ⟨.key, ⟨n, 0, n⟩, ⟨n, 0, n⟩⟩ :: tokens) (none :: outer) false) := by
    rw [isValue]
    simp [s, value, line, heldKey, insert, openBlock, inFlow, levels.count, pushMark, push,
      allowKeys, mark, Mark.right, Cursor.skip]
  have values : Levels (depth + 2) (none :: outer) := levels.keyless
  obtain ⟨keys', dropped, last⟩ := values.stale ⟨m + 1, 0, m + 1⟩
  refine ⟨keys', last, .step rfl ?_ ?_⟩
  · rw [stepped (by decide) held, told]
    exact cleared dropped
  · simp [line]

theorem keyPassed {key : String} (keyable : Keyable key) :
    Passes rest ((Json.quote key).toList ++ [':']) [.key, .scalar key .doubleQuoted, .value]
      (depth + 2) (depth + 2) true false := by
  intro n tokens keys levels
  let m := n + (Json.quote key).length
  obtain ⟨outer, levels, first⟩ := keyHeld keyable levels
  obtain ⟨keys', levels, second⟩ := colonTaken (keyYoung keyable n tokens) levels
  refine ⟨m + 1, keys', [⟨.key, ⟨n, 0, n⟩, ⟨n, 0, n⟩⟩, quotedAt n key,
    ⟨.value, ⟨m, 0, m⟩, ⟨m + 1, 0, m + 1⟩⟩], levels, rfl, ?_⟩
  rw [List.append_assoc]
  exact first.trans second

theorem separatorPassed (first : Bool) :
    Passes rest (Json.separator first) (if first then [] else [.flowEntry]) depth depth first
      true := by
  cases first with
  | true => exact .none
  | false => exact commaPassed

theorem listedEnded {close : Char} (closing : Plain.isFlowMark close = true)
    (texts : List String) (rest : List Char) :
    Ended (Json.listed [close] false texts ++ rest) := by
  cases texts with
  | nil => exact ⟨close, rest, rfl, closing⟩
  | cons text texts => exact ⟨',', _, rfl, rfl⟩

mutual

theorem valuePassed : (v : Value) → v.Common → ∀ {rest depth allowed}, Ended rest →
    Passes rest v.compact.toList (kinds v) (depth + 2) (depth + 2) allowed false
  | .null, common, _, _, _, _ | .number _, common, _, _, _, _ => common.elim
  | .bool b, _, _, _, _, ended => by
    rw [Value.compact, kinds]
    exact flagPassed b ended
  | .string _, printable, _, _, _, _ => by
    rw [Value.compact, kinds]
    exact stringPassed printable
  | .array items, common, _, _, _, _ => by
    rw [Json.arrayText, kinds]
    exact (bracketOpened (.inl ⟨rfl, rfl⟩)).append (itemsPassed items common true _ _)
  | .object members, common, _, _, _, _ => by
    rw [Json.objectText, kinds]
    exact (bracketOpened (.inr ⟨rfl, rfl⟩)).append (membersPassed members common true _ _)

theorem itemsPassed : (items : List Value) → Value.ItemsCommon items → ∀ first rest depth,
    Passes rest (Json.listed [']'] first (Value.compactItems items)) (itemKinds first items)
      (depth + 2) (depth + 1) first false
  | [], _, _, _, _ => bracketClosed (.inl ⟨rfl, rfl⟩)
  | v :: others, common, first, rest, depth => by
    have closing : Plain.isFlowMark ']' = true := rfl
    have ended := listedEnded closing (Value.compactItems others) rest
    have tail := itemsPassed others common.2.2 false rest depth
    rw [itemKinds]
    exact (separatorPassed first).append ((valuePassed v common.2.1 ended).append tail)

theorem membersPassed : (members : List (String × Value)) → Value.MembersCommon members →
    ∀ first rest depth,
    Passes rest (Json.listed ['\x7d'] first (Value.compactMembers members))
      (memberKinds first members) (depth + 2) (depth + 1) first false
  | [], _, _, _, _ => bracketClosed (.inr ⟨rfl, rfl⟩)
  | (key, v) :: others, common, first, rest, depth => by
    have closing : Plain.isFlowMark '\x7d' = true := rfl
    have ended := listedEnded closing (Value.compactMembers others) rest
    have tail := membersPassed others common.2.2 false rest depth
    have text : Json.listed ['\x7d'] first (Value.compactMembers ((key, v) :: others)) =
        Json.separator first ++ (((Json.quote key).toList ++ [':']) ++ (v.compact.toList ++
          Json.listed ['\x7d'] false (Value.compactMembers others))) := by
      simp [Value.compactMembers, Json.listed]
    rw [memberKinds, text]
    exact (separatorPassed first).append <|
      (keyPassed common.1).append ((valuePassed v common.2.1 ended).append tail)

end

def finishedAt (m : Mark) (tokens : List Token) (keys : List (Option PendingKey)) : Scan :=
  ⟨⟨m, []⟩, ⟨.streamEnd, m, m⟩ :: tokens, tokens.length + 1, -1, [], keys, false, true⟩

theorem endGiven (n : Nat) (levels : Levels depth keys) : ∃ m keys', Levels depth keys' ∧
    (line n [] tokens keys allowed).endStream = .ok (finishedAt m tokens keys') := by
  obtain ⟨m, moved⟩ : ∃ m, (line n [] tokens keys allowed).endStream =
      (({ line n [] tokens keys allowed with cursor := ⟨m, []⟩ } : Scan).closeBlocks
        (-1)).dropKey.bind fun s =>
          .ok { (s.allowKeys false).push .streamEnd s.mark s.mark with finished := true } := by
    cases n with
    | zero => exact ⟨⟨0, 0, 0⟩, rfl⟩
    | succ n => exact ⟨⟨n + 1, 1, 0⟩, rfl⟩
  obtain ⟨keys', dropped, levels⟩ :=
    keyDropped (s := { line n [] tokens keys allowed with cursor := ⟨m, []⟩ }) levels
  refine ⟨m, keys', levels, ?_⟩
  rw [moved, noBlocks rfl, dropped]
  rfl

theorem streamEnded (n : Nat) (tokens : List Token) (allowed : Bool) (levels : Levels depth keys) :
    ∃ m keys', (line n [] tokens keys allowed).step = .ok (finishedAt m tokens keys') := by
  obtain ⟨before, dropped, levels⟩ := levels.stale ⟨n, 0, n⟩
  obtain ⟨m, keys', levels, given⟩ := endGiven n levels
  obtain ⟨after, dropped', -⟩ := levels.stale m
  have here : (line n [] tokens keys allowed).skipToToken = line n [] tokens keys allowed := rfl
  have fresh : (line n [] tokens keys allowed).dropStaleKeys =
      .ok (line n [] tokens before allowed) := cleared dropped
  refine ⟨m, after, ?_⟩
  simp only [step, here, fresh, bind, Except.bind]
  rw [noBlocks rfl]
  show Except.bind (line n [] tokens before allowed).endStream dropStaleKeys = _
  rw [given]
  exact cleared dropped'

end Scan

theorem tokensOfText {members : List (String × Value)} (common : Value.MembersCommon members) :
    ∃ shown, tokens (Value.object members).compact = (shown, none) ∧
      shown.map (·.kind) = kinds (.object members) ++ [.streamEnd] := by
  have passed : Scan.Passes [] (Value.object members).compact.toList (kinds (.object members))
      1 1 true false := by
    rw [Json.objectText, kinds]
    have inside := Scan.membersPassed members common true [] 0
    exact (Scan.bracketOpened (.inr ⟨rfl, rfl⟩)).append inside
  obtain ⟨n, keys, shown, levels, same, leads⟩ := passed 0 [] [none] ⟨rfl, by simp⟩
  -- two steps are to spare: the one that ends the text, and the one that finds it ended
  obtain ⟨spare, enough, reached⟩ := leads 2
  obtain ⟨fuel, rfl⟩ : ∃ fuel, spare = fuel + 2 := ⟨spare - 2, by omega⟩
  obtain ⟨m, keys', ended⟩ := Scan.streamEnded n (shown.reverse ++ []) false levels
  have whole : tokens (Value.object members).compact = Scan.run
      ((Value.object members).compact.toList.length + 2)
      (Scan.line 0 (Value.object members).compact.toList [] [none] true) := rfl
  refine ⟨shown ++ [⟨.streamEnd, m, m⟩], ?_, by simp [same]⟩
  simp only [List.append_nil] at reached ended
  rw [whole]
  refine reached.trans ?_
  have left : (Scan.line n [] shown.reverse keys false).cursor.rest.length + (fuel + 2) =
      fuel + 2 := Nat.zero_add _
  have unfinished : (Scan.line n [] shown.reverse keys false).finished = false := rfl
  rw [left, Scan.run, unfinished, ended]
  simp [Scan.run, Scan.finishedAt]

end StudyPlan.Yaml
