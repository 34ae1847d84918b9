import StudyPlan.Json.Flaw
import StudyPlan.Text.Hex

/-! The text of a JSON string, from behind its opening quote. `read` gives the string;
`skip` only looks for its end, so it also passes strings that spell no text. -/
namespace StudyPlan.Json.StringText
open Text (Glyph)

/-- How far an escape has been read. A `high` is the first half of a character that
is spelled as two surrogates. -/
inductive Stage where
  | plain
  | escape
  | hex (high : Option Nat) (value count : Nat)
  | highEnd (high : Nat)
  | highEscape (high : Nat)
  deriving DecidableEq, Repr

def escaped? : Char → Option Char
  | '"' => some '"'
  | '\\' => some '\\'
  | '/' => some '/'
  | 'b' => some '\x08'
  | 'f' => some '\x0c'
  | 'n' => some '\n'
  | 'r' => some '\r'
  | 't' => some '\t'
  | _ => none

def isLow (code : Nat) : Bool := 0xDC00 ≤ code && code ≤ 0xDFFF

def isHigh (code : Nat) : Bool := 0xD800 ≤ code && code ≤ 0xDBFF

def pair (high low : Nat) : Char := Char.ofNat ((high - 0xD800) * 0x400 + (low - 0xDC00) + 0x10000)

def badDigit (p : Place) (count : Nat) (text : List Glyph) : Flaw :=
  if (text.map Glyph.width).foldr (· + ·) 0 < 4 - count then ⟨.endInString, p.atEnd text⟩
  else ⟨.escape, p.afterBytes (4 - count) text⟩

def hexDigit? : Glyph → Option Nat
  | .char c => Text.hexValue? c
  | .stray _ => none

def finishHex (p : Place) (high : Option Nat) (code : Nat) : Except Flaw (Char ⊕ Nat) :=
  match high with
  | none =>
    if isLow code then .error ⟨.surrogate, p⟩
    else if isHigh code then .ok (.inr code)
    else .ok (.inl (Char.ofNat code))
  | some h => if isLow code then .ok (.inl (pair h code)) else .error ⟨.surrogate, p⟩

/-- Read from a stage of an escape on; `before` holds the characters read so far in
reverse, `stray` is the place behind the first byte that belonged to none. -/
def readFrom (stage : Stage) (before : List Char) (stray : Option Place) (p : Place) :
    List Glyph → Except Flaw (String × Cursor)
  | [] => .error ⟨.endInString, p⟩
  | g :: rest =>
    let next := p.after g
    match stage with
    | .plain =>
      match g with
      | .stray _ => readFrom .plain before (stray.or (some next)) next rest
      | .char '"' =>
        match stray with
        | none => .ok (String.ofList before.reverse, ⟨next, rest⟩)
        | some place => .error ⟨.codePoint, place⟩
      | .char '\\' => readFrom .escape before stray next rest
      | .char c =>
        if c.toNat < 0x20 then .error ⟨.control, next⟩
        else readFrom .plain (c :: before) stray next rest
    | .escape =>
      match g with
      | .char 'u' => readFrom (.hex none 0 0) before stray next rest
      | .char c =>
        match escaped? c with
        | some x => readFrom .plain (x :: before) stray next rest
        | none => .error ⟨.escape, p.afterByte (g :: rest)⟩
      | .stray _ => .error ⟨.escape, next⟩
    | .hex high value count =>
      match hexDigit? g with
      | none => .error (badDigit p count (g :: rest))
      | some digit =>
        let code := value * 16 + digit
        if count < 3 then readFrom (.hex high code (count + 1)) before stray next rest
        else
          match finishHex next high code with
          | .error flaw => .error flaw
          | .ok (.inl c) => readFrom .plain (c :: before) stray next rest
          | .ok (.inr h) => readFrom (.highEnd h) before stray next rest
    | .highEnd h =>
      if g = .char '\\' then readFrom (.highEscape h) before stray next rest
      else .error ⟨.hexEnd, p.afterByte (g :: rest)⟩
    | .highEscape h =>
      if g = .char 'u' then readFrom (.hex (some h) 0 0) before stray next rest
      else .error ⟨.hexEnd, p.afterByte (g :: rest)⟩

def read (c : Cursor) : Except Flaw (String × Cursor) := readFrom .plain [] none c.place c.rest

def skipFrom (stage : Stage) (p : Place) : List Glyph → Except Flaw Cursor
  | [] => .error ⟨.endInString, p⟩
  | g :: rest =>
    let next := p.after g
    match stage with
    | .hex _ value count =>
      match hexDigit? g with
      | none => .error (badDigit p count (g :: rest))
      | some _ => skipFrom (if count < 3 then .hex none value (count + 1) else .plain) next rest
    | .escape =>
      match g with
      | .char 'u' => skipFrom (.hex none 0 0) next rest
      | .char c =>
        if (escaped? c).isSome then skipFrom .plain next rest
        else .error ⟨.escape, p.afterByte (g :: rest)⟩
      | .stray _ => .error ⟨.escape, next⟩
    | _ =>
      match g with
      | .stray _ => skipFrom .plain next rest
      | .char '"' => .ok ⟨next, rest⟩
      | .char '\\' => skipFrom .escape next rest
      | .char c => if c.toNat < 0x20 then .error ⟨.control, p⟩ else skipFrom .plain next rest

def skip (c : Cursor) : Except Flaw Cursor := skipFrom .plain c.place c.rest

end StudyPlan.Json.StringText
