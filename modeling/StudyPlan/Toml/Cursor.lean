/-! Places in TOML text, counted in bytes from zero, and what is left to read at one. -/
namespace StudyPlan.Toml

structure Span where
  start : Nat
  stop : Nat
  deriving DecidableEq, Repr

structure Cursor where
  offset : Nat
  rest : List Char
  deriving DecidableEq, Repr

namespace Cursor

def ofString (s : String) : Cursor :=
  match s.toList with
  | '\ufeff' :: rest => ⟨3, rest⟩
  | rest => ⟨0, rest⟩

def next? (c : Cursor) : Option Char := c.rest.head?

def advance (c : Cursor) : Cursor :=
  match c.rest with
  | x :: rest => ⟨c.offset + x.utf8Size, rest⟩
  | [] => c

def skip (c : Cursor) : Nat → Cursor
  | 0 => c
  | n + 1 => c.advance.skip n

def takeWhile (c : Cursor) (p : Char → Bool) : List Char × Cursor :=
  let taken := c.rest.takeWhile p
  (taken, c.skip taken.length)

def startsWith (c : Cursor) (s : List Char) : Bool := c.rest.take s.length = s

def spanTo (c later : Cursor) : Span := ⟨c.offset, later.offset⟩

def isBlank (c : Char) : Bool := c = ' ' || c = '\t'

def skipBlanks (c : Cursor) : Cursor := (c.takeWhile isBlank).2

def isCommentChar (c : Char) : Bool := c = '\t' || (0x20 ≤ c.toNat && c.toNat ≠ 0x7F)

def skipComment (c : Cursor) : Cursor :=
  if c.next? = some '#' then (c.advance.takeWhile isCommentChar).2 else c

def pastBreak? (c : Cursor) : Option Cursor :=
  match c.rest with
  | '\n' :: _ => some (c.skip 1)
  | '\r' :: '\n' :: _ => some (c.skip 2)
  | _ => none

def pastLine? (c : Cursor) : Option Cursor := if c.rest.isEmpty then some c else c.pastBreak?

end Cursor
end StudyPlan.Toml
