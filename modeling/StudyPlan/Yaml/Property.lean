import StudyPlan.Yaml.Token

/-! The words that stand before nodes and documents: anchors, aliases, tags and
directives. -/
namespace StudyPlan.Yaml

/-! ### Anchors and aliases -/

def endsAnchor (c : Char) : Bool :=
  c = '?' || c = ':' || c = ',' || c = ']' || c = '}' || c = '%' || c = '@' || c = '\u0060'

def readAnchor (isAlias : Bool) (c : Cursor) : Except Failure (Token × Cursor) :=
  let name := (c.skip 1).takeWhile isWordChar
  let next := c.skip (1 + name.length)
  if name.isEmpty || !(next.blankOrEndAt 0 || next.next?.any endsAnchor) then
    .error (.during (if isAlias then "while scanning an alias" else "while scanning an anchor")
      c.mark "did not find expected alphabetic or numeric character" next.mark)
  else
    let name := String.ofList name
    .ok (⟨if isAlias then .alias name else .anchor name, c.mark, next.mark⟩, next)

/-! ### Tags -/

namespace Tag

structure Setting where
  inDirective : Bool
  start : Mark
  deriving DecidableEq, Repr

def Setting.failUri {α : Type} (s : Setting) (problem : String) (mark : Mark) : Except Failure α :=
  .error (.during
    (if s.inDirective then "while parsing a %TAG directive" else "while parsing a tag")
    s.start problem mark)

def readHandle (s : Setting) (c : Cursor) : Except Failure (String × Cursor) :=
  if !c.sees '!' then
    .error (.during
      (if s.inDirective then "while scanning a tag directive" else "while scanning a tag")
      s.start "did not find expected '!'" c.mark)
  else
    let word := (c.skip 1).takeWhile isWordChar
    let next := c.skip (1 + word.length)
    if next.sees '!' then .ok (String.ofList ('!' :: word ++ ['!']), next.skip 1)
    else if s.inDirective && !word.isEmpty then
      .error (.during "while parsing a tag directive" s.start "did not find expected '!'" next.mark)
    else .ok (String.ofList ('!' :: word), next)

def isUriChar (withFlowMarks : Bool) (c : Char) : Bool :=
  isWordChar c || [';', '/', '?', ':', '@', '&', '=', '+', '$', '.', '%', '!', '~', '*', '\'', '(',
    ')'].contains c || (withFlowMarks && (c = ',' || c = '[' || c = ']'))

def byteCount (first : Nat) : Nat :=
  if first < 0x80 then 1
  else if first / 0x20 = 6 then 2
  else if first / 0x10 = 14 then 3
  else if first / 8 = 30 then 4
  else 0

/-- Read the text of a tag; `inside` is how many more bytes the character has that is
being spelled by escapes, `ahead` how many characters have been read already. -/
def readUriFrom (s : Setting) (withFlowMarks : Bool) (ahead inside : Nat) (text : List Char)
    (m : Mark) : List Char → Except Failure (List Char × Cursor)
  | [] =>
    if inside = 0 then .ok (text.reverse, ⟨m, []⟩)
    else s.failUri "did not find URI escaped octet" m
  | c :: rest =>
    match ahead with
    | ahead + 1 => readUriFrom s withFlowMarks ahead inside text m rest
    | 0 =>
      if c = '%' then
        match (rest.head?.bind Text.hexValue?), ((rest.drop 1).head?.bind Text.hexValue?) with
        | some high, some low =>
          let octet := high * 16 + low
          let go (left : Nat) :=
            readUriFrom s withFlowMarks 2 left (Char.ofNat octet :: text) (m.right 3) rest
          if inside = 0 then
            let count := byteCount octet
            if count = 0 then s.failUri "found an incorrect leading UTF-8 octet" m
            else go (count - 1)
          else if octet / 0x40 = 2 then go (inside - 1)
          else s.failUri "found an incorrect trailing UTF-8 octet" m
        | _, _ => s.failUri "did not find URI escaped octet" m
      else if inside ≠ 0 then s.failUri "did not find URI escaped octet" m
      else if isUriChar withFlowMarks c then
        readUriFrom s withFlowMarks 0 0 (c :: text) (m.right 1) rest
      else .ok (text.reverse, ⟨m, c :: rest⟩)

def readUri (s : Setting) (withFlowMarks : Bool) (head : List Char) (c : Cursor) :
    Except Failure (String × Cursor) := do
  let (text, next) ← readUriFrom s withFlowMarks 0 0 [] c.mark c.rest
  if head.isEmpty && text.isEmpty then s.failUri "did not find expected tag URI" next.mark
  else return (String.ofList (head.drop 1 ++ text), next)

def readParts (s : Setting) (c : Cursor) : Except Failure (WrittenTag × Cursor) := do
  if c.at? 1 = some '<' then
    let (text, next) ← readUri s true [] (c.skip 2)
    if next.sees '>' then return (⟨"", text⟩, next.skip 1)
    else .error (.during "while scanning a tag" s.start "did not find the expected '>'" next.mark)
  else
    let (handle, next) ← readHandle s c
    let chars := handle.toList
    if 1 < chars.length && chars.getLast? = some '!' then
      let (text, next) ← readUri s false [] next
      return (⟨handle, text⟩, next)
    else
      let (text, next) ← readUri s false chars next
      if text.isEmpty then return (⟨"", "!"⟩, next) else return (⟨"!", text⟩, next)

def read (inFlow : Bool) (c : Cursor) : Except Failure (Token × Cursor) := do
  let (tag, next) ← readParts ⟨false, c.mark⟩ c
  if (inFlow && next.sees ',') || next.blankOrEndAt 0 then
    return (⟨.tag tag, c.mark, next.mark⟩, next)
  else
    .error (.during "while scanning a tag" c.mark
      "did not find expected whitespace or line break" next.mark)

end Tag

/-! ### Directives -/

namespace Directive

def fail {α : Type} (start : Mark) (problem : String) (mark : Mark) : Except Failure α :=
  .error (.during "while scanning a directive" start problem mark)

def failVersion {α : Type} (start : Mark) (problem : String) (mark : Mark) : Except Failure α :=
  .error (.during "while scanning a %YAML directive" start problem mark)

def failTag {α : Type} (start : Mark) (problem : String) (mark : Mark) : Except Failure α :=
  .error (.during "while scanning a %TAG directive" start problem mark)

def readNumber (start : Mark) (c : Cursor) : Except Failure (Nat × Cursor) :=
  let digits := c.takeWhile Char.isDigit
  if 9 < digits.length then
    failVersion start "found extremely long version number" (c.skip 9).mark
  else if digits.isEmpty then failVersion start "did not find expected version number" c.mark
  else .ok (digits.foldl (fun n d => n * 10 + (d.toNat - '0'.toNat)) 0, c.skip digits.length)

def readVersion (start : Mark) (c : Cursor) : Except Failure (TokenKind × Cursor) := do
  let (major, next) ← readNumber start c.skipBlanks
  if next.sees '.' then
    let (minor, next) ← readNumber start (next.skip 1)
    return (.version major minor, next)
  else failVersion start "did not find expected digit or '.' character" next.mark

def readTagDirective (start : Mark) (c : Cursor) : Except Failure (TokenKind × Cursor) := do
  let setting : Tag.Setting := ⟨true, start⟩
  let (handle, next) ← Tag.readHandle setting c.skipBlanks
  if !next.seesBlank then failTag start "did not find expected whitespace" next.mark
  else
    let (target, next) ← Tag.readUri setting true [] next.skipBlanks
    if next.blankOrEndAt 0 then return (.tagDirective handle target, next)
    else failTag start "did not find expected whitespace or line break" next.mark

def readBody (name : String) (start : Mark) (c : Cursor) : Except Failure (TokenKind × Cursor) :=
  if name = "YAML" then readVersion start c
  else if name = "TAG" then readTagDirective start c
  else fail start "found unknown directive name" c.mark

def read (c : Cursor) : Except Failure (Token × Cursor) := do
  let start := c.mark
  let name := (c.skip 1).takeWhile isWordChar
  let next := c.skip (1 + name.length)
  if name.isEmpty then fail start "could not find expected directive name" next.mark
  else if !next.blankOrEndAt 0 then
    fail start "found unexpected non-alphabetical character" next.mark
  else
    let (kind, next) ← readBody (String.ofList name) start next
    let token : Token := ⟨kind, start, next.mark⟩
    let next := next.skipBlanks.skipComment
    if !next.breakOrEnd then
      fail start "did not find expected comment or line break" next.mark
    else return (token, if next.isAtEnd then next else next.skipBreak)

end Directive
end StudyPlan.Yaml
