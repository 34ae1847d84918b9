/-! Bytes read as text. A byte that is not part of a well-formed character stands
for itself, so every byte string can be read and the bytes that make it
ill-formed stay visible. -/
namespace StudyPlan.Text

inductive Glyph where
  | char (c : Char)
  | stray (b : UInt8)
  deriving DecidableEq, Repr

namespace Glyph

def width : Glyph → Nat
  | char c => c.utf8Size
  | stray _ => 1

def ofString (s : String) : List Glyph := s.toList.map .char

def isContinuation (b : UInt8) : Bool := 0x80 ≤ b && b < 0xC0

def payload (b : UInt8) : Nat := b.toNat % 64

def scalar? (least code : Nat) : Option Char :=
  if least ≤ code ∧ code.isValidChar then some (Char.ofNat code) else none

def two? (a b : UInt8) : Option Char :=
  if 0xC0 ≤ a ∧ a < 0xE0 ∧ isContinuation b then
    scalar? 0x80 (a.toNat % 32 * 64 + payload b)
  else none

def three? (a b c : UInt8) : Option Char :=
  if 0xE0 ≤ a ∧ a < 0xF0 ∧ isContinuation b ∧ isContinuation c then
    scalar? 0x800 ((a.toNat % 16 * 64 + payload b) * 64 + payload c)
  else none

def four? (a b c d : UInt8) : Option Char :=
  if 0xF0 ≤ a ∧ a < 0xF8 ∧ isContinuation b ∧ isContinuation c ∧ isContinuation d then
    scalar? 0x10000 (((a.toNat % 8 * 64 + payload b) * 64 + payload c) * 64 + payload d)
  else none

/-- The character that starts with byte `a`, and how many bytes follow `a` in it. -/
def head? (a : UInt8) (rest : List UInt8) : Option (Char × Nat) :=
  if a < 0x80 then some (Char.ofNat a.toNat, 0)
  else
    match rest with
    | [] => none
    | [b] => (two? a b).map (·, 1)
    | [b, c] => (two? a b).map (·, 1) <|> (three? a b c).map (·, 2)
    | b :: c :: d :: _ =>
      (two? a b).map (·, 1) <|> (three? a b c).map (·, 2) <|> (four? a b c d).map (·, 3)

def ofBytesAfter (skip : Nat) : List UInt8 → List Glyph
  | [] => []
  | a :: rest =>
    match skip with
    | skip + 1 => ofBytesAfter skip rest
    | 0 =>
      match head? a rest with
      | some (c, more) => .char c :: ofBytesAfter more rest
      | none => .stray a :: ofBytesAfter 0 rest

def ofBytes (bytes : List UInt8) : List Glyph := ofBytesAfter 0 bytes

def chars? : List Glyph → Option (List Char)
  | [] => some []
  | char c :: rest => (chars? rest).map (c :: ·)
  | stray _ :: _ => none

end Glyph

def ofBytes? (bytes : List UInt8) : Option String :=
  (Glyph.chars? (Glyph.ofBytes bytes)).map String.ofList

def toBytes (s : String) : List UInt8 := s.toList.flatMap String.utf8EncodeChar

end StudyPlan.Text
