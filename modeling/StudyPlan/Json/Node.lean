import StudyPlan.Json.StringText
import StudyPlan.Json.NumberText

/-! JSON text as a tree. The tree keeps what is wrong with the text where it is
wrong, so that a reader meets a flaw only if it gets that far, and the places at
which a reader can stop. A flaw comes in two strengths: `skip` ones also stop a
reader that has no use for the value. -/
namespace StudyPlan.Json
open Text (Glyph)

inductive Scalar where
  | null
  | bool (b : Bool)
  | number (n : Number)
  | string (s : String)
  deriving DecidableEq, Repr

mutual

inductive Node where
  | absent (flaw : Flaw)
  /-- A value without parts, the flaw that stops a reader without use for it, and
  the place behind it. -/
  | scalar (value : Except Flaw Scalar) (skipped : Option Flaw) (behind : Place)
  | array (start : Place) (inside : Cursor) (items : Items)
  | object (start : Place) (inside : Cursor) (members : Members)

inductive Items where
  | close
  | broken (flaw skipped : Flaw)
  | item (value : Node) (behind : Cursor) (rest : Items)

inductive Members where
  | close
  | broken (flaw skipped : Flaw)
  | member (key : Except Flaw String) (behindKey : Cursor) (value : Node) (behind : Cursor)
      (rest : Members)

end

instance : Inhabited Node := ⟨.absent ⟨.value, .start⟩⟩

namespace Node

def ofReadings {α : Type} (wrap : α → Scalar) (read : Except Flaw (α × Cursor))
    (skip : Except Flaw Cursor) : Node × Except Flaw Cursor :=
  match read with
  | .ok (x, behind) => (.scalar (.ok (wrap x)) none behind.place, .ok behind)
  | .error flaw =>
    match skip with
    | .ok behind => (.scalar (.error flaw) none behind.place, .ok behind)
    | .error skipped => (.scalar (.error flaw) (some skipped) flaw.place, .error skipped)

def expectWord (c : Cursor) : List Char → Except Flaw Cursor
  | [] => .ok c
  | x :: word =>
    if c.isAtEnd then .error ⟨.endInValue, c.place⟩
    else if c.next? = some x then expectWord c.advance word
    else .error ⟨.word, c.refusal⟩

def ofWord (c : Cursor) (word : List Char) (value : Scalar) : Node × Except Flaw Cursor :=
  let reading := expectWord c.advance word
  ofReadings (fun _ => value) (reading.map (Unit.unit, ·)) reading

def missing (flaw : Flaw) : Node × Except Flaw Cursor := (.absent flaw, .error flaw)

def ofScalar (c : Cursor) : Node × Except Flaw Cursor :=
  match c.next? with
  | some 'n' => ofWord c ['u', 'l', 'l'] .null
  | some 't' => ofWord c ['r', 'u', 'e'] (.bool true)
  | some 'f' => ofWord c ['a', 'l', 's', 'e'] (.bool false)
  | some '"' => ofReadings .string (StringText.read c.advance) (StringText.skip c.advance)
  | some x =>
    if x = '-' || x.isDigit then ofReadings .number (NumberText.read c) (NumberText.skip c)
    else missing ⟨.value, c.refusal⟩
  | none => missing ⟨if c.isAtEnd then .endInValue else .value, c.refusal⟩

def flawAt (c : Cursor) (atEnd other : FlawKind) : Flaw :=
  ⟨if c.isAtEnd then atEnd else other, c.refusal⟩

/-- The key whose quote the cursor is at, with a flaw of its own if it has one; when it has
no end, the flaws that stop a reader and one who skips. -/
def readKey (c : Cursor) : Except (Flaw × Flaw) (Except Flaw String × Cursor) :=
  match StringText.read c.advance with
  | .ok (key, behind) => .ok (.ok key, behind)
  | .error flaw =>
    match StringText.skip c.advance with
    | .ok behind => .ok (.error flaw, behind)
    | .error skipped => .error (flaw, skipped)

/-- The place of the next item, behind the comma that separates it from the one before;
otherwise the flaws that stop a reader and one who skips. -/
def itemStart (c : Cursor) (first : Bool) : Except (Flaw × Flaw) Cursor :=
  if c.isAtEnd || (!first && c.next? != some ',') then
    let flaw := flawAt c .endInList .listEnd
    .error (flaw, flaw)
  else
    let start := if first then c else c.advance.skip
    if !first && start.next? = some ']' then
      .error (⟨.trailingComma, start.refusal⟩, ⟨.value, start.refusal⟩)
    else .ok start

def keyStart (c : Cursor) (first : Bool) : Except (Flaw × Flaw) Cursor :=
  if c.isAtEnd || (!first && c.next? != some ',') then
    let flaw := flawAt c .endInObject (if first then .keyString else .objectEnd)
    .error (flaw, flaw)
  else
    let start := if first then c else c.advance.skip
    if start.next? = some '"' then .ok start
    else
      let closed := !first && start.next? = some '\x7d'
      .error (flawAt start .endInValue (if closed then .trailingComma else .keyString),
        flawAt start .endInObject .keyString)

mutual

/-- Read a value; `fuel` bounds the number of values and separators still to come. Beside
the tree stands the cursor behind it, or the flaw that even skipping it meets. -/
def read (fuel : Nat) (c : Cursor) : Node × Except Flaw Cursor :=
  match fuel with
  | 0 => missing ⟨.endInValue, c.refusal⟩
  | fuel + 1 =>
    let c := c.skip
    match c.next? with
    | some '[' =>
      let (items, behind) := readItems fuel c.advance true
      (.array c.place c.advance items, behind)
    | some '\x7b' =>
      let (members, behind) := readMembers fuel c.advance true
      (.object c.place c.advance members, behind)
    | _ => ofScalar c

def readItems (fuel : Nat) (c : Cursor) (first : Bool) : Items × Except Flaw Cursor :=
  match fuel with
  | 0 => (.broken ⟨.endInList, c.refusal⟩ ⟨.endInList, c.refusal⟩, .error ⟨.endInList, c.refusal⟩)
  | fuel + 1 =>
    let c := c.skip
    if c.next? = some ']' then (.close, .ok c.advance)
    else
      match itemStart c first with
      | .error (flaw, skipped) => (.broken flaw skipped, .error skipped)
      | .ok start =>
        match read fuel start with
        | (value, .error flaw) => (.item value start (.broken flaw flaw), .error flaw)
        | (value, .ok behind) =>
          let (rest, done) := readItems fuel behind false
          (.item value behind rest, done)

def readMembers (fuel : Nat) (c : Cursor) (first : Bool) : Members × Except Flaw Cursor :=
  match fuel with
  | 0 =>
    (.broken ⟨.endInObject, c.refusal⟩ ⟨.endInObject, c.refusal⟩,
      .error ⟨.endInObject, c.refusal⟩)
  | fuel + 1 =>
    let c := c.skip
    if c.next? = some '\x7d' then (.close, .ok c.advance)
    else
      match (keyStart c first).bind readKey with
      | .error (flaw, skipped) => (.broken flaw skipped, .error skipped)
      | .ok (key, behindKey) =>
        let mark := behindKey.skip
        if mark.next? = some ':' then
          match read fuel mark.advance with
          | (value, .error flaw) =>
            (.member key behindKey value behindKey (.broken flaw flaw), .error flaw)
          | (value, .ok behind) =>
            let (rest, done) := readMembers fuel behind false
            (.member key behindKey value behind rest, done)
        else
          let flaw := flawAt mark .endInObject .colon
          (.member key behindKey (.absent flaw) behindKey (.broken flaw flaw), .error flaw)

end

def ofGlyphs (text : List Glyph) : Node × Except Flaw Cursor :=
  read (2 * text.length + 2) (.ofGlyphs text)

mutual

def skipped? : Node → Option Flaw
  | .absent flaw => some flaw
  | .scalar _ skipped _ => skipped
  | .array _ _ items => itemsSkipped? items
  | .object _ _ members => membersSkipped? members

def itemsSkipped? : Items → Option Flaw
  | .close => none
  | .broken _ skipped => some skipped
  | .item value _ rest => (skipped? value).or (itemsSkipped? rest)

def membersSkipped? : Members → Option Flaw
  | .close => none
  | .broken _ skipped => some skipped
  | .member _ _ value _ rest => (skipped? value).or (membersSkipped? rest)

end

def scalarValue : Scalar → Value
  | .null => .null
  | .bool b => .bool b
  | .number n => .number n
  | .string s => .string s

mutual

/-- The value that the tree spells; of members with one key the last counts, in the
place of the first. -/
def toValue : Node → Except Flaw Value
  | .absent flaw => .error flaw
  | .scalar value _ _ => value.map scalarValue
  | .array _ _ items => (itemValues items).map .array
  | .object _ _ members => (memberValues [] members).map .object

def itemValues : Items → Except Flaw (List Value)
  | .close => .ok []
  | .broken flaw _ => .error flaw
  | .item value _ rest =>
    match toValue value with
    | .error flaw => .error flaw
    | .ok v => (itemValues rest).map (v :: ·)

def memberValues (before : List (String × Value)) : Members → Except Flaw (List (String × Value))
  | .close => .ok before
  | .broken flaw _ => .error flaw
  | .member (.error flaw) _ _ _ _ => .error flaw
  | .member (.ok key) _ value _ rest =>
    match toValue value with
    | .error flaw => .error flaw
    | .ok v => memberValues (Value.setMember key v before) rest

end

def ending (behind : Except Flaw Cursor) : Except Flaw Unit :=
  match behind with
  | .error flaw => .error flaw
  | .ok c => if c.skip.isAtEnd then .ok () else .error ⟨.trailingText, c.skip.refusal⟩

end Node

/-- Read a text that has been written as a value of its own. The bound of 128 nested levels is left
out: no document is read this way, a schema goes down seven levels at most, and what it does not
name is passed over without going down. -/
def Value.parse (text : String) : Except Flaw Value :=
  let (node, behind) := Node.ofGlyphs (Glyph.ofString text)
  match node.toValue with
  | .error flaw => .error flaw
  | .ok v => (Node.ending behind).map fun _ => v

end StudyPlan.Json
