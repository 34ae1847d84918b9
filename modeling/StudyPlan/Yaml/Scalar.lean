import StudyPlan.Yaml.Failure
import StudyPlan.Text.Hex

/-! The values of scalars. Inside a scalar, blanks at the end of a line are dropped and
one line break counts as a blank; further line breaks stay. -/
namespace StudyPlan.Yaml

inductive ScalarStyle where
  | plain | singleQuoted | doubleQuoted | literal | folded
  deriving DecidableEq, Repr

inductive Gap where
  | none
  | blanks (before : List Char)
  /-- A first line break, if it was not escaped, and the ones after it in reverse. -/
  | breaks (first : Option Char) (others : List Char)
  deriving DecidableEq, Repr

namespace Gap

def addBlank (c : Char) : Gap → Gap
  | none => blanks [c]
  | blanks before => blanks (c :: before)
  | gap => gap

def addBreak (c : Char) : Gap → Gap
  | breaks first others => breaks first (breakValue c :: others)
  | _ => breaks (some (breakValue c)) []

def close (gap : Gap) (value : List Char) : List Char :=
  match gap with
  | none => value
  | blanks before => before ++ value
  | breaks first others =>
    if first = some '\n' then if others.isEmpty then ' ' :: value else others ++ value
    else others ++ first.toList ++ value

def isBreaks : Gap → Bool
  | breaks .. => true
  | _ => false

end Gap

/-! ### Quoted scalars -/

namespace Quoted

def escaped? : Char → Option Char
  | '0' => some '\x00'
  | 'a' => some '\x07'
  | 'b' => some '\x08'
  | 't' => some '\t'
  | '\t' => some '\t'
  | 'n' => some '\n'
  | 'v' => some '\x0b'
  | 'f' => some '\x0c'
  | 'r' => some '\r'
  | 'e' => some '\x1b'
  | ' ' => some ' '
  | '"' => some '"'
  | '/' => some '/'
  | '\\' => some '\\'
  | 'N' => some '\u0085'
  | '_' => some '\u00a0'
  | 'L' => some '\u2028'
  | 'P' => some '\u2029'
  | _ => none

def digitCount? : Char → Option Nat
  | 'x' => some 2
  | 'u' => some 4
  | 'U' => some 8
  | _ => none

structure Digits where
  left : Nat
  value : Nat
  start : Mark
  deriving DecidableEq, Repr

structure Setting where
  single : Bool
  start : Mark
  deriving DecidableEq, Repr

def Setting.quote (s : Setting) : Char := if s.single then '\'' else '"'

def Setting.fail {α : Type} (s : Setting) (problem : String) (mark : Mark) : Except Failure α :=
  .error (.during "while scanning a quoted scalar" s.start problem mark)

def Setting.failEscape {α : Type} (s : Setting) (problem : String) (mark : Mark) :
    Except Failure α :=
  .error (.during "while parsing a quoted scalar" s.start problem mark)

def readFrom (s : Setting) (ahead : Nat) (value : List Char) (gap : Gap) (digits : Option Digits)
    (m : Mark) : List Char → Except Failure (String × Cursor)
  | [] =>
    match digits with
    | some d => s.failEscape "did not find expected hexadecimal number" d.start
    | none => s.fail "found unexpected end of stream" m
  | c :: rest =>
    match ahead, digits with
    | ahead + 1, digits => readFrom s ahead value gap digits m rest
    | 0, some d =>
      match Text.hexValue? c with
      | none => s.failEscape "did not find expected hexadecimal number" d.start
      | some x =>
        let code := d.value * 16 + x
        if 1 < d.left then
          readFrom s 0 value gap (some ⟨d.left - 1, code, d.start⟩) (m.right 1) rest
        else if code.isValidChar then
          readFrom s 0 (Char.ofNat code :: value) gap none (m.right 1) rest
        else s.failEscape "found invalid Unicode character escape code" d.start
    | 0, none =>
      if isSpaceOrTab c then readFrom s 0 value (gap.addBlank c) none (m.right 1) rest
      else if isBreak c then
        let more := lengthOfBreak c rest - 1
        readFrom s more value (gap.addBreak c) none (m.nextLine (more + 1)) rest
      else if Cursor.seesDocumentMark ⟨m, c :: rest⟩ then
        s.fail "found unexpected document indicator" m
      else if c = s.quote then
        if s.single && rest.head? = some c then
          readFrom s 1 (c :: gap.close value) .none none (m.right 2) rest
        else .ok (String.ofList (gap.close value).reverse, ⟨m.right 1, rest⟩)
      else if c = '\\' && !s.single then
        match rest with
        | [] => s.failEscape "found unknown escape character" m
        | e :: behind =>
          if isBreak e then
            let length := lengthOfBreak e behind
            readFrom s length (gap.close value) (.breaks none []) none
              ((m.right 1).nextLine length) rest
          else
            match escaped? e, digitCount? e with
            | some x, _ => readFrom s 1 (x :: gap.close value) .none none (m.right 2) rest
            | none, some n =>
              readFrom s 1 (gap.close value) .none (some ⟨n, 0, m.right 2⟩) (m.right 2) rest
            | none, none => s.failEscape "found unknown escape character" m
      else readFrom s 0 (c :: gap.close value) .none none (m.right 1) rest

def read (c : Cursor) : Except Failure (String × Cursor) :=
  readFrom ⟨c.sees '\'', c.mark⟩ 0 [] .none none (c.mark.right 1) (c.rest.drop 1)

end Quoted

/-! ### Plain scalars -/

namespace Plain

structure Setting where
  inFlow : Bool
  indent : Nat
  start : Mark
  deriving DecidableEq, Repr

/-- A plain scalar, where its text ends, and where reading goes on; `openLine` says
that line breaks came last. -/
structure Result where
  value : String
  stop : Mark
  openLine : Bool
  next : Cursor
  deriving DecidableEq, Repr

def isFlowMark (c : Char) : Bool := c = ',' || c = '[' || c = ']' || c = '{' || c = '}'

def startsWithFlowMark : List Char → Bool
  | [] => false
  | c :: _ => isFlowMark c || c = '?'

/-- Whether the scalar ends before the next character because of what stands between:
a new line that is not indented enough, a mark between documents, or a comment. -/
def endsBefore (s : Setting) (gap : Gap) (c : Cursor) : Bool :=
  (gap != .none && ((!s.inFlow && c.mark.column < s.indent) || c.sees '#')) ||
  c.seesDocumentMark

def endsAt (s : Setting) (c : Cursor) : Bool :=
  (c.sees ':' && c.blankOrEndAt 1) || (s.inFlow && c.next?.any isFlowMark)

def finish (value : List Char) (stop : Mark) (gap : Gap) (next : Cursor) : Result :=
  ⟨String.ofList value.reverse, stop, gap.isBreaks, next⟩

def fail {α : Type} (s : Setting) (problem : String) (mark : Mark) : Except Failure α :=
  .error (.during "while scanning a plain scalar" s.start problem mark)

def readFrom (s : Setting) (ahead : Nat) (value : List Char) (gap : Gap) (stop m : Mark) :
    List Char → Except Failure Result
  | [] => .ok (finish value stop gap ⟨m, []⟩)
  | c :: rest =>
    match ahead with
    | ahead + 1 => readFrom s ahead value gap stop m rest
    | 0 =>
      let here : Cursor := ⟨m, c :: rest⟩
      if isSpaceOrTab c then
        if gap.isBreaks && m.column < s.indent && c = '\t' then
          fail s "found a tab character that violates indentation" m
        else readFrom s 0 value (gap.addBlank c) stop (m.right 1) rest
      else if isBreak c then
        let more := lengthOfBreak c rest - 1
        readFrom s more value (gap.addBreak c) stop (m.nextLine (more + 1)) rest
      else if endsBefore s gap here then .ok (finish value stop gap here)
      else if s.inFlow && c = ':' && startsWithFlowMark rest then
        fail s "found unexpected ':'" m
      else if endsAt s here then .ok (finish value stop gap here)
      else readFrom s 0 (c :: gap.close value) .none (m.right 1) (m.right 1) rest

def read (inFlow : Bool) (indent : Nat) (c : Cursor) : Except Failure Result :=
  readFrom ⟨inFlow, indent, c.mark⟩ 0 [] .none c.mark c.mark c.rest

end Plain

/-! ### Block scalars -/

namespace Block

inductive Chomping where
  | strip | clip | keep
  deriving DecidableEq, Repr

structure Setting where
  literal : Bool
  chomping : Chomping
  least : Nat
  start : Mark
  deriving DecidableEq, Repr

structure State where
  value : List Char
  lineEnd : Option Char
  emptyLines : List Char
  afterBlank : Bool
  indent : Nat
  widest : Nat
  inLine : Bool
  stop : Mark
  deriving DecidableEq, Repr

def fail {α : Type} (start : Mark) (problem : String) (mark : Mark) : Except Failure α :=
  .error (.during "while scanning a block scalar" start problem mark)

def State.widen (st : State) (column : Nat) : State :=
  if st.inLine then st else { st with widest := max st.widest column }

def State.settle (st : State) (s : Setting) (column : Nat) : State :=
  if st.indent = 0 then { st with indent := max (max (max st.widest column) s.least) 1 } else st

/-- Start a line with text: add the breaks before it, or a blank where a folded scalar
joins two lines. -/
def State.openLine (st : State) (s : Setting) (blank : Bool) : State :=
  let joins := !s.literal && st.lineEnd = some '\n' && !st.afterBlank && !blank
  let value :=
    if joins then if st.emptyLines.isEmpty then ' ' :: st.value else st.value
    else st.lineEnd.toList ++ st.value
  { st with
    value := st.emptyLines ++ value
    lineEnd := none
    emptyLines := []
    afterBlank := blank
    inLine := true }

def State.text (st : State) (s : Setting) : String :=
  let value :=
    match s.chomping with
    | .strip => st.value
    | .clip => st.lineEnd.toList ++ st.value
    | .keep => st.emptyLines ++ st.lineEnd.toList ++ st.value
  String.ofList value.reverse

def State.addBreak (st : State) (c : Char) (stop : Mark) : State :=
  if st.inLine then { st with lineEnd := some (breakValue c), inLine := false, stop := stop }
  else { st with emptyLines := breakValue c :: st.emptyLines, stop := stop }

def State.addChar (st : State) (c : Char) : State := { st with value := c :: st.value }

def readFrom (s : Setting) (ahead : Nat) (st : State) (m : Mark) :
    List Char → Except Failure (String × Mark × Cursor)
  | [] => .ok (st.text s, st.stop, ⟨m, []⟩)
  | c :: rest =>
    match ahead with
    | ahead + 1 => readFrom s ahead st m rest
    | 0 =>
      let indenting := !st.inLine && (st.indent = 0 || m.column < st.indent)
      if indenting && c = ' ' then readFrom s 0 st (m.right 1) rest
      else if indenting && c = '\t' then
        fail s.start "found a tab character where an indentation space is expected" m
      else if isBreak c then
        let more := lengthOfBreak c rest - 1
        let next := m.nextLine (more + 1)
        readFrom s more ((st.widen m.column).addBreak c next) next rest
      else if st.inLine then readFrom s 0 (st.addChar c) (m.right 1) rest
      else
        let st := st.settle s m.column
        if m.column = st.indent then
          readFrom s 0 ((st.openLine s (isSpaceOrTab c)).addChar c) (m.right 1) rest
        else .ok (st.text s, st.stop, ⟨m, c :: rest⟩)

def readHeader (start : Mark) (c : Cursor) : Except Failure (Chomping × Nat × Cursor) :=
  let chomping (c : Cursor) : Option Chomping :=
    if c.sees '+' then some .keep else if c.sees '-' then some .strip else none
  let digit (c : Cursor) : Option Nat :=
    c.next?.bind fun x => if x.isDigit then some (x.toNat - '0'.toNat) else none
  let zero := "found an indentation indicator equal to 0"
  match chomping c with
  | some how =>
    let c := c.skip 1
    match digit c with
    | some 0 => fail start zero c.mark
    | some n => .ok (how, n, c.skip 1)
    | none => .ok (how, 0, c)
  | none =>
    match digit c with
    | some 0 => fail start zero c.mark
    | some n =>
      let c := c.skip 1
      match chomping c with
      | some how => .ok (how, n, c.skip 1)
      | none => .ok (.clip, n, c)
    | none => .ok (.clip, 0, c)

/-- Read the block scalar at a cursor; `parent` is the indentation of the surrounding
block, if there is one. Gives the value, where its text ends, and where reading goes on. -/
def read (parent : Option Nat) (c : Cursor) : Except Failure (String × Mark × Cursor) := do
  let start := c.mark
  let (chomping, increment, next) ← readHeader start (c.skip 1)
  let next := next.skipBlanks.skipComment
  if !next.breakOrEnd then
    fail start "did not find expected comment or line break" next.mark
  else
    let body := next.skipBreak
    let least := (parent.map (· + 1)).getD 0
    let indent := if increment = 0 then 0 else (parent.getD 0) + increment
    let setting : Setting := ⟨c.sees '|', chomping, least, start⟩
    readFrom setting 0 ⟨[], none, [], false, indent, 0, false, body.mark⟩ body.mark body.rest

end Block
end StudyPlan.Yaml
