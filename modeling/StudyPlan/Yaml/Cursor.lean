/-! Places in YAML text, counted in characters from zero, and what is left to read at
one. Besides the usual line breaks three more characters break a line. -/
namespace StudyPlan.Yaml

structure Mark where
  index : Nat
  line : Nat
  column : Nat
  deriving DecidableEq, Repr

namespace Mark

def start : Mark := ⟨0, 0, 0⟩

def right (m : Mark) (n : Nat) : Mark := ⟨m.index + n, m.line, m.column + n⟩

def nextLine (m : Mark) (n : Nat) : Mark := ⟨m.index + n, m.line + 1, 0⟩

def isStart (m : Mark) : Bool := m.line = 0 && m.column = 0

def sameSpot (a b : Mark) : Bool := a.line = b.line && a.column = b.column

def text (m : Mark) : String :=
  if m.isStart then "position " ++ toString m.index
  else "line " ++ toString (m.line + 1) ++ " column " ++ toString (m.column + 1)

end Mark

def isSpaceOrTab (c : Char) : Bool := c = ' ' || c = '\t'

def isBreak (c : Char) : Bool :=
  c = '\n' || c = '\r' || c = '\u0085' || c = '\u2028' || c = '\u2029'

def breakValue (c : Char) : Char := if c = '\u2028' || c = '\u2029' then c else '\n'

def lengthOfBreak (c : Char) (rest : List Char) : Nat :=
  if c = '\r' && rest.head? = some '\n' then 2 else 1

def isWordChar (c : Char) : Bool := c.isAlphanum || c = '_' || c = '-'

structure Cursor where
  mark : Mark
  rest : List Char
  deriving DecidableEq, Repr

namespace Cursor

def ofString (s : String) : Cursor := ⟨.start, s.toList⟩

def next? (c : Cursor) : Option Char := c.rest.head?

def at? (c : Cursor) (n : Nat) : Option Char := (c.rest.drop n).head?

def isAtEnd (c : Cursor) : Bool := c.rest.isEmpty

def sees (c : Cursor) (x : Char) : Bool := c.next? = some x

def blankOrEndAt (c : Cursor) (n : Nat) : Bool :=
  match c.at? n with
  | none => true
  | some x => isSpaceOrTab x || isBreak x

def breakOrEnd (c : Cursor) : Bool :=
  match c.next? with
  | none => true
  | some x => isBreak x

def seesBlank (c : Cursor) : Bool :=
  match c.next? with
  | none => false
  | some x => isSpaceOrTab x

def skip (c : Cursor) (n : Nat) : Cursor := ⟨c.mark.right n, c.rest.drop n⟩

def skipBreak (c : Cursor) : Cursor :=
  match c.rest with
  | x :: rest =>
    let length := lengthOfBreak x rest
    ⟨c.mark.nextLine length, c.rest.drop length⟩
  | [] => c

def takeWhile (c : Cursor) (p : Char → Bool) : List Char := c.rest.takeWhile p

def skipWhile (c : Cursor) (p : Char → Bool) : Cursor := c.skip (c.takeWhile p).length

def skipBlanks (c : Cursor) : Cursor := c.skipWhile isSpaceOrTab

def skipComment (c : Cursor) : Cursor :=
  if c.sees '#' then c.skipWhile fun x => !isBreak x else c

def seesDocumentMark (c : Cursor) : Bool :=
  c.mark.column = 0 && (c.rest.take 3 = ['-', '-', '-'] || c.rest.take 3 = ['.', '.', '.']) &&
    c.blankOrEndAt 3

end Cursor
end StudyPlan.Yaml
