import StudyPlan.Text.Glyph

/-! Places in JSON text, and what is left to read at one. Lines count from one;
the column is the number of bytes since the line began. -/
namespace StudyPlan.Json
open Text (Glyph)

structure Place where
  line : Nat
  column : Nat
  deriving DecidableEq, Repr

namespace Place

def start : Place := ⟨1, 0⟩

def nextLine (p : Place) : Place := ⟨p.line + 1, 0⟩

def right (p : Place) (bytes : Nat) : Place := ⟨p.line, p.column + bytes⟩

def after (p : Place) (g : Glyph) : Place :=
  if g = .char '\n' then p.nextLine else p.right g.width

def afterByte (p : Place) : List Glyph → Place
  | [] => p
  | g :: _ => if g = .char '\n' then p.nextLine else p.right 1

def afterBytes (p : Place) (n : Nat) : List Glyph → Place
  | [] => p
  | g :: rest =>
    if n < g.width then p.right n else (p.after g).afterBytes (n - g.width) rest

def atEnd (p : Place) (text : List Glyph) : Place := text.foldl after p

end Place

structure Cursor where
  place : Place
  rest : List Glyph
  deriving DecidableEq, Repr

namespace Cursor

def ofGlyphs (text : List Glyph) : Cursor := ⟨.start, text⟩

def isBlank (c : Char) : Bool := c = ' ' || c = '\n' || c = '\t' || c = '\r'

def skipBlanks (p : Place) : List Glyph → Cursor
  | .char c :: rest =>
    if isBlank c then skipBlanks (p.after (.char c)) rest else ⟨p, .char c :: rest⟩
  | rest => ⟨p, rest⟩

def skip (c : Cursor) : Cursor := skipBlanks c.place c.rest

def refusal (c : Cursor) : Place := c.place.afterByte c.rest

def advance (c : Cursor) : Cursor :=
  match c.rest with
  | [] => c
  | g :: rest => ⟨c.place.after g, rest⟩

def next? (c : Cursor) : Option Char :=
  match c.rest with
  | .char c :: _ => some c
  | _ => none

def isAtEnd (c : Cursor) : Bool := c.rest.isEmpty

end Cursor
end StudyPlan.Json
