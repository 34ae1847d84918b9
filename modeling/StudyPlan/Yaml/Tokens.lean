import StudyPlan.Yaml.Property

/-! From YAML text to tokens. A key without a mark of its own is known only when its
colon is met, so a token that may start a key is held back until that is decided:
when the text fails, the tokens held back at that time are lost. -/
namespace StudyPlan.Yaml

structure PendingKey where
  number : Nat
  isRequired : Bool
  mark : Mark
  deriving DecidableEq, Repr

/-- The text read so far as tokens. The innermost bracket comes first in `keys`, the
level outside all brackets last. -/
structure Scan where
  cursor : Cursor
  tokens : List Token
  count : Nat
  indent : Int
  indents : List Int
  keys : List (Option PendingKey)
  keyAllowed : Bool
  finished : Bool
  deriving DecidableEq, Repr

namespace Scan

def start (c : Cursor) : Scan := ⟨c, [], 0, -1, [], [none], true, false⟩

def inFlow (s : Scan) : Bool := 1 < s.keys.length

def mark (s : Scan) : Mark := s.cursor.mark

def push (s : Scan) (kind : TokenKind) (start stop : Mark) : Scan :=
  { s with tokens := ⟨kind, start, stop⟩ :: s.tokens, count := s.count + 1 }

def insert (s : Scan) (number : Nat) (kind : TokenKind) (m : Mark) : Scan :=
  let behind := s.count - number
  { s with
    tokens := s.tokens.take behind ++ ⟨kind, m, m⟩ :: s.tokens.drop behind
    count := s.count + 1 }

def pushMark (s : Scan) (kind : TokenKind) (n : Nat) : Scan :=
  let next := s.cursor.skip n
  { s.push kind s.mark next.mark with cursor := next }

def allowKeys (s : Scan) (allowed : Bool) : Scan := { s with keyAllowed := allowed }

/-! ### Pending keys -/

def missingColon (k : PendingKey) (m : Mark) : Failure :=
  .during "while scanning a simple key" k.mark "could not find expected ':'" m

def dropKey (s : Scan) : Except Failure Scan :=
  match s.keys with
  | some k :: rest =>
    if k.isRequired then .error (missingColon k s.mark) else .ok { s with keys := none :: rest }
  | _ => .ok s

def offerKey (s : Scan) : Except Failure Scan :=
  if s.keyAllowed then do
    let s ← s.dropKey
    let key : PendingKey := ⟨s.count, !s.inFlow && s.indent = s.mark.column, s.mark⟩
    return { s with keys := some key :: s.keys.drop 1 }
  else .ok s

def isStale (k : PendingKey) (m : Mark) : Bool :=
  k.mark.line < m.line || k.mark.index + 1024 < m.index

def dropStale (m : Mark) : List (Option PendingKey) → Except Failure (List (Option PendingKey))
  | [] => .ok []
  | key :: outer =>
    match dropStale m outer with
    | .error f => .error f
    | .ok outer =>
      match key with
      | none => .ok (none :: outer)
      | some k =>
        if !isStale k m then .ok (some k :: outer)
        else if k.isRequired then .error (missingColon k m)
        else .ok (none :: outer)

def dropStaleKeys (s : Scan) : Except Failure Scan :=
  (dropStale s.mark s.keys).map fun keys => { s with keys := keys }

/-! ### Indentation -/

def openBlock (s : Scan) (column : Nat) (number : Nat) (kind : TokenKind) (m : Mark) : Scan :=
  if !s.inFlow && s.indent < column then
    { s.insert number kind m with indent := column, indents := s.indent :: s.indents }
  else s

/-- Close the blocks that stand further right than a column; `outer` are the
indentations around the innermost block. -/
def closeBlocksWith (column : Int) (s : Scan) : List Int → Scan
  | [] => s
  | indent :: outer =>
    if column < s.indent then
      closeBlocksWith column
        { s.push .blockEnd s.mark s.mark with indent := indent, indents := outer } outer
    else s

def closeBlocks (s : Scan) (column : Int) : Scan :=
  if s.inFlow then s else closeBlocksWith column s s.indents

/-! ### Blanks -/

def skipFrom (inFlow keyAllowed inComment : Bool) (ahead : Nat) (m : Mark) :
    List Char → Cursor × Bool
  | [] => (⟨m, []⟩, keyAllowed)
  | c :: rest =>
    match ahead with
    | ahead + 1 => skipFrom inFlow keyAllowed inComment ahead m rest
    | 0 =>
      if isBreak c then
        let length := lengthOfBreak c rest
        skipFrom inFlow (keyAllowed || !inFlow) false (length - 1) (m.nextLine length) rest
      else if inComment || c = ' ' || (c = '\t' && (inFlow || !keyAllowed)) ||
          (c = '\uFEFF' && m.index = 0) then
        skipFrom inFlow keyAllowed inComment 0 (m.right 1) rest
      else if c = '#' then skipFrom inFlow keyAllowed true 0 (m.right 1) rest
      else (⟨m, c :: rest⟩, keyAllowed)

def skipToToken (s : Scan) : Scan :=
  let (cursor, allowed) := skipFrom s.inFlow s.keyAllowed false 0 s.mark s.cursor.rest
  { s with cursor := cursor, keyAllowed := allowed }

/-! ### Tokens -/

def endStream (s : Scan) : Except Failure Scan := do
  let m := s.mark
  let s := if m.column = 0 then s else
    { s with cursor := { s.cursor with mark := ⟨m.index, m.line + 1, 0⟩ } }
  let s ← (s.closeBlocks (-1)).dropKey
  return { (s.allowKeys false).push .streamEnd s.mark s.mark with finished := true }

def take (s : Scan) (read : Except Failure (Token × Cursor)) : Except Failure Scan :=
  read.map fun (token, next) => { s.push token.kind token.start token.stop with cursor := next }

def directive (s : Scan) : Except Failure Scan := do
  let s ← (s.closeBlocks (-1)).dropKey
  (s.allowKeys false).take (Directive.read s.cursor)

def documentMark (s : Scan) : Except Failure Scan := do
  let s ← (s.closeBlocks (-1)).dropKey
  return (s.allowKeys false).pushMark
    (if s.cursor.sees '-' then .documentStart else .documentEnd) 3

def openFlow (s : Scan) (kind : TokenKind) : Except Failure Scan := do
  let s ← s.offerKey
  return (({ s with keys := none :: s.keys }).allowKeys true).pushMark kind 1

def closeFlow (s : Scan) (kind : TokenKind) : Except Failure Scan := do
  let s ← s.dropKey
  let s := if s.inFlow then { s with keys := s.keys.drop 1 } else s
  return (s.allowKeys false).pushMark kind 1

def flowEntry (s : Scan) : Except Failure Scan := do
  let s ← s.dropKey
  return (s.allowKeys true).pushMark .flowEntry 1

def blockEntry (s : Scan) : Except Failure Scan := do
  if !s.inFlow && !s.keyAllowed then
    throw (.plain "block sequence entries are not allowed in this context" s.mark)
  let s ← (s.openBlock s.mark.column s.count .blockSequenceStart s.mark).dropKey
  return (s.allowKeys true).pushMark .blockEntry 1

def explicitKey (s : Scan) : Except Failure Scan := do
  if !s.inFlow && !s.keyAllowed then
    throw (.plain "mapping keys are not allowed in this context" s.mark)
  let s ← (s.openBlock s.mark.column s.count .blockMappingStart s.mark).dropKey
  return (s.allowKeys (!s.inFlow)).pushMark .key 1

def value (s : Scan) : Except Failure Scan :=
  match s.keys with
  | some k :: outer =>
    let s := (s.insert k.number .key k.mark).openBlock k.mark.column k.number .blockMappingStart
      k.mark
    .ok (({ s with keys := none :: outer }).allowKeys false |>.pushMark .value 1)
  | _ =>
    if !s.inFlow && !s.keyAllowed then
      .error (.plain "mapping values are not allowed in this context" s.mark)
    else
      let s := s.openBlock s.mark.column s.count .blockMappingStart s.mark
      .ok ((s.allowKeys (!s.inFlow)).pushMark .value 1)

def anchor (s : Scan) (isAlias : Bool) : Except Failure Scan := do
  let s ← s.offerKey
  (s.allowKeys false).take (readAnchor isAlias s.cursor)

def tag (s : Scan) : Except Failure Scan := do
  let s ← s.offerKey
  (s.allowKeys false).take (Tag.read s.inFlow s.cursor)

def quotedScalar (s : Scan) : Except Failure Scan := do
  let s ← s.offerKey
  let style := if s.cursor.sees '"' then ScalarStyle.doubleQuoted else .singleQuoted
  (s.allowKeys false).take <| (Quoted.read s.cursor).map fun (text, next) =>
    (⟨.scalar text style, s.mark, next.mark⟩, next)

def blockScalar (s : Scan) : Except Failure Scan := do
  let s ← s.dropKey
  let style := if s.cursor.sees '|' then ScalarStyle.literal else .folded
  let parent := if s.indent < 0 then none else some s.indent.toNat
  (s.allowKeys true).take <| (Block.read parent s.cursor).map fun (text, stop, next) =>
    (⟨.scalar text style, s.mark, stop⟩, next)

def plainScalar (s : Scan) : Except Failure Scan := do
  let s ← s.offerKey
  let r ← Plain.read s.inFlow (s.indent + 1).toNat s.cursor
  let s := { s.push (.scalar r.value .plain) s.mark r.stop with cursor := r.next }
  return s.allowKeys r.openLine

def isIndicator (c : Char) : Bool :=
  ['-', '?', ':', ',', '[', ']', '{', '}', '#', '&', '*', '!', '|', '>', '\'', '"', '%', '@',
    '\u0060'].contains c

def startsPlain (s : Scan) (c : Char) : Bool :=
  !(isIndicator c || isSpaceOrTab c) ||
  (c = '-' && !(s.cursor.at? 1).any isSpaceOrTab) ||
  (!s.inFlow && (c = '?' || c = ':') && !s.cursor.blankOrEndAt 1)

def token (s : Scan) (c : Char) : Except Failure Scan :=
  let markHere := s.inFlow || s.cursor.blankOrEndAt 1
  if s.mark.column = 0 && c = '%' then s.directive
  else if s.cursor.seesDocumentMark then s.documentMark
  else if c = '[' then s.openFlow .flowSequenceStart
  else if c = '{' then s.openFlow .flowMappingStart
  else if c = ']' then s.closeFlow .flowSequenceEnd
  else if c = '}' then s.closeFlow .flowMappingEnd
  else if c = ',' then s.flowEntry
  else if c = '-' && s.cursor.blankOrEndAt 1 then s.blockEntry
  else if c = '?' && markHere then s.explicitKey
  else if c = ':' && markHere then s.value
  else if c = '*' then s.anchor true
  else if c = '&' then s.anchor false
  else if c = '!' then s.tag
  else if (c = '|' || c = '>') && !s.inFlow then s.blockScalar
  else if c = '\'' || c = '"' then s.quotedScalar
  else if s.startsPlain c then s.plainScalar
  else
    .error (.during "while scanning for the next token" s.mark
      "found character that cannot start any token" s.mark)

def step (s : Scan) : Except Failure Scan := do
  let s ← s.skipToToken.dropStaleKeys
  let s := s.closeBlocks s.mark.column
  let next ←
    match s.cursor.next? with
    | none => s.endStream
    | some c => s.token c
  next.dropStaleKeys

def settled (s : Scan) : List Token :=
  let held := s.keys.filterMap fun key => key.map (·.number)
  s.tokens.reverse.take (held.foldl min s.count)

def run (fuel : Nat) (s : Scan) : List Token × Option Failure :=
  match fuel with
  | 0 => (s.settled, none)
  | fuel + 1 =>
    if s.finished then (s.tokens.reverse, none)
    else
      match s.step with
      | .error f => (s.settled, some f)
      | .ok next => run fuel next

end Scan

def tokens (text : String) : List Token × Option Failure :=
  let c := Cursor.ofString text
  (Scan.start c).run (c.rest.length + 2)

end StudyPlan.Yaml
