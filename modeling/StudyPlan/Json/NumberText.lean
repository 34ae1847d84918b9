import StudyPlan.Json.Flaw
import StudyPlan.Json.Value

/-! The text of a JSON number. `read` gives the number; `skip` only finds its end and
accepts numbers of any size. A whole number that fits 64 bits stays whole; any
other is a float, from its leading digits and a power of ten. -/
namespace StudyPlan.Json.NumberText
open Text (Glyph)

def digit? : Glyph → Option Nat
  | .char c => if c.isDigit then some (c.toNat - '0'.toNat) else none
  | .stray _ => none

def digits (text : List Glyph) : List Nat := (text.takeWhile (digit? · |>.isSome)).filterMap digit?

def move (c : Cursor) (n : Nat) : Cursor := ⟨c.place.right n, c.rest.drop n⟩

def isExponentMark (c : Cursor) : Bool := c.next? = some 'e' || c.next? = some 'E'

def passSign (c : Cursor) : Cursor :=
  if c.next? = some '-' || c.next? = some '+' then c.advance else c

def absorb (significand : Nat) : List Nat → Nat × List Nat
  | [] => (significand, [])
  | d :: rest =>
    if significand * 10 + d < Nat.pow 2 64 then absorb (significand * 10 + d) rest
    else (significand, d :: rest)

def step : Nat := 308

def powerOfTen (n : Nat) : Float := Float.ofScientific 1 false n

def shrink (exponent : Nat) : Nat → Float → Float
  | 0, x => x / powerOfTen exponent
  | steps + 1, x => shrink exponent steps (x / powerOfTen step)

def scaled (significand : Nat) (exponent : Int) : Option Float :=
  let x := Float.ofNat significand
  if 0 ≤ exponent then
    if step < exponent.toNat then if significand = 0 then some x else none
    else
      let y := x * powerOfTen exponent.toNat
      if y.isInf then none else some y
  else
    let size := (-exponent).toNat
    -- three steps bring every significand to zero
    let steps := min ((size - 1) / step) 3
    some (shrink (min (size - steps * step) step) steps x)

def signed (negative : Bool) (x : Float) : Number := .float (.ofFloat (if negative then -x else x))

def assemble (negative : Bool) (significand : Nat) (exponent : Int) (c : Cursor) :
    Except Flaw (Number × Cursor) :=
  match scaled significand exponent with
  | some x => .ok (signed negative x, c)
  | none => .error ⟨.range, c.place⟩

def hugeExponent (negative : Bool) (significand : Nat) (down : Bool) (used : Nat) (c : Cursor) :
    Except Flaw (Number × Cursor) :=
  if significand ≠ 0 && !down then .error ⟨.range, c.place.right used⟩
  else .ok (signed negative 0.0, move c (digits c.rest).length)

def digitsBeforeOverflow (value used : Nat) : List Nat → Option Nat
  | [] => none
  | d :: rest =>
    if Nat.pow 2 31 ≤ value * 10 + d then some (used + 1)
    else digitsBeforeOverflow (value * 10 + d) (used + 1) rest

def readExponent (negative : Bool) (significand : Nat) (start : Int) (c : Cursor) :
    Except Flaw (Number × Cursor) :=
  let c := c.advance
  let down := c.next? = some '-'
  let c := passSign c
  let ds := digits c.rest
  if c.isAtEnd then .error ⟨.endInValue, c.place⟩
  else if ds.isEmpty then .error ⟨.number, c.refusal⟩
  else
    match digitsBeforeOverflow 0 0 ds with
    | some used => hugeExponent negative significand down used c
    | none =>
      let exponent : Nat := ds.foldl (fun n d => n * 10 + d) 0
      assemble negative significand (if down then start - (exponent : Int) else start + exponent)
        (move c ds.length)

def readFraction (negative : Bool) (significand : Nat) (start : Int) (c : Cursor) :
    Except Flaw (Number × Cursor) :=
  let c := c.advance
  let ds := digits c.rest
  if ds.isEmpty then
    .error (if c.isAtEnd then ⟨.endInValue, c.place⟩ else ⟨.number, c.refusal⟩)
  else
    let (significand, left) := absorb significand ds
    let exponent := start - (ds.length - left.length : Nat)
    let c := move c ds.length
    if isExponentMark c then readExponent negative significand exponent c
    else assemble negative significand exponent c

def readUnsigned (negative : Bool) (c : Cursor) : Except Flaw (Number × Cursor) :=
  let ds := digits c.rest
  match ds with
  | [] => .error (if c.isAtEnd then ⟨.endInValue, c.place⟩ else ⟨.number, c.refusal⟩)
  | 0 :: _ :: _ => .error ⟨.number, c.advance.refusal⟩
  | _ =>
    let (significand, left) := absorb 0 ds
    let c := move c ds.length
    if c.next? = some '.' then readFraction negative significand left.length c
    else if isExponentMark c then readExponent negative significand left.length c
    else if !left.isEmpty then assemble negative significand left.length c
    else if !negative then .ok (.whole significand, c)
    else if significand = 0 || Nat.pow 2 63 < significand then
      .ok (signed true (Float.ofNat significand), c)
    else .ok (.whole (-significand), c)

def read (c : Cursor) : Except Flaw (Number × Cursor) :=
  if c.next? = some '-' then readUnsigned true c.advance else readUnsigned false c

def skipExponent (c : Cursor) : Except Flaw Cursor :=
  let c := passSign c.advance
  let ds := digits c.rest
  if ds.isEmpty then .error ⟨.number, c.refusal⟩ else .ok (move c ds.length)

def skipAnyExponent (c : Cursor) : Except Flaw Cursor :=
  if isExponentMark c then skipExponent c else .ok c

def skipFraction (c : Cursor) : Except Flaw Cursor :=
  let c := c.advance
  let ds := digits c.rest
  if ds.isEmpty then .error ⟨.number, c.refusal⟩ else skipAnyExponent (move c ds.length)

def skipAnyFraction (c : Cursor) : Except Flaw Cursor :=
  if c.next? = some '.' then skipFraction c else skipAnyExponent c

def skipUnsigned (c : Cursor) : Except Flaw Cursor :=
  match digits c.rest with
  | [] => .error ⟨.number, c.refusal⟩
  | 0 :: _ :: _ => .error ⟨.number, c.advance.refusal⟩
  | ds => skipAnyFraction (move c ds.length)

def skip (c : Cursor) : Except Flaw Cursor :=
  if c.next? = some '-' then skipUnsigned c.advance else skipUnsigned c

end StudyPlan.Json.NumberText
