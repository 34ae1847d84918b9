import StudyPlan.Toml.Failure
import StudyPlan.Text.Hex

/-! Quoted texts: in double quotes with escapes or in single quotes as they are, on one
line or, between three quotes, on many. -/
namespace StudyPlan.Toml

def isPlainIn (quote c : Char) : Bool :=
  c ≠ quote && (c = '\t' || (0x20 ≤ c.toNat && c.toNat ≠ 0x7F)) && !(quote = '"' && c = '\\')

/-! ### Escapes -/

def escaped? : Char → Option Char
  | 'b' => some '\x08'
  | 'f' => some '\x0c'
  | 'n' => some '\n'
  | 'r' => some '\r'
  | 't' => some '\t'
  | '\\' => some '\\'
  | '"' => some '"'
  | _ => none

def hexValue (digits : List Char) : Nat :=
  digits.foldl (fun n d => n * 16 + (Text.hexValue? d).getD 0) 0

def readCodePoint (width : Nat) (c : Cursor) : Except Failure (Char × Cursor) :=
  let digits := c.rest.take width
  if digits.length = width && digits.all fun d => (Text.hexValue? d).isSome then
    let n := hexValue digits
    if n.isValidChar then .ok (Char.ofNat n, c.skip width)
    else .error { offset := c.offset, cause := some .outOfRange }
  else c.refuse

def codePointLabel (width : Nat) : String := "unicode " ++ toString width ++ "-digit hex code"

def escapeItems : List String := ["`b`", "`f`", "`n`", "`r`", "`t`", "`u`", "`U`", "`\\`", "`\"`"]

def readEscape (c : Cursor) : Except Failure (Char × Cursor) :=
  match c.next? with
  | none => c.refuse
  | some 'u' => labelled (codePointLabel 4) (cut (readCodePoint 4 c.advance))
  | some 'U' => labelled (codePointLabel 8) (cut (readCodePoint 8 c.advance))
  | some letter =>
    match escaped? letter with
    | some x => .ok (x, c.advance)
    | none =>
      let offset := if letter.utf8Size = 1 then c.advance.offset else c.offset
      .error { offset, final := true, label := some "escape sequence", expected := escapeItems }

/-! ### One line -/

def readBasicFrom (ahead : Nat) (value : List Char) (c : Cursor) :
    Except Failure (String × Cursor) :=
  let close : Except Failure (String × Cursor) :=
    match c.pass '"' with
    | .ok after => .ok (String.ofList value.reverse, after)
    | .error f => .error ((f.labelled "basic string").cut)
  match ahead, c.next? with
  | 0, _ => close
  | _, none => close
  | ahead + 1, some x =>
    if isPlainIn '"' x then readBasicFrom ahead (x :: value) c.advance
    else if x = '\\' then
      match readEscape c.advance with
      | .ok (y, after) => readBasicFrom ahead (y :: value) after
      | .error f => if f.final then .error f else close
    else close

def readBasic (c : Cursor) : Except Failure (String × Cursor) := do
  let c ← c.pass '"'
  readBasicFrom c.rest.length [] c

def readLiteral (c : Cursor) : Except Failure (String × Cursor) := do
  let c ← c.pass '\''
  let (value, after) := c.takeWhile (isPlainIn '\'')
  match after.pass '\'' with
  | .ok after => return (String.ofList value, after)
  | .error f => throw ((f.labelled "literal string").cut)

/-! ### Many lines -/

def skipFirstBreak (c : Cursor) : Cursor := c.pastBreak?.getD c

def skipBlankLines (c : Cursor) : Nat → Cursor
  | 0 => c
  | ahead + 1 =>
    let c := c.skipBlanks
    match c.pastBreak? with
    | some c => skipBlankLines c ahead
    | none => c

def pastEscapedBreak? (c : Cursor) : Option Cursor :=
  (c.advance.skipBlanks.pastBreak?).map fun c => skipBlankLines c c.rest.length

/-- How many quotes at the end belong to the text: one or two in front of the three that close
it, or in front of another character. -/
def innerQuotes (quote : Char) (c : Cursor) : Nat :=
  let run := (c.rest.takeWhile (· = quote)).length
  if run < 3 then if run = c.rest.length then 0 else run
  else min (run - 3) 2

def isContentIn (quote : Char) (c : Cursor) : Bool :=
  (c.next?.map (isPlainIn quote)).getD false || c.pastBreak?.isSome

def readLinesFrom (quote : Char) (label : String) (ahead : Nat) (value : List Char) (c : Cursor) :
    Except Failure (String × Cursor) :=
  let close (value : List Char) (c : Cursor) : Except Failure (String × Cursor) :=
    if c.startsWith [quote, quote, quote] then .ok (String.ofList value.reverse, c.skip 3)
    else .error { offset := c.offset, final := true, label := some label }
  match ahead, c.next? with
  | 0, _ => close value c
  | _, none => close value c
  | ahead + 1, some x =>
    if isPlainIn quote x then readLinesFrom quote label ahead (x :: value) c.advance
    else if x = quote then
      let inner := innerQuotes quote c
      if inner = 0 then close value c
      else
        let c' := c.skip inner
        let value' := List.replicate inner quote ++ value
        if c'.next? = some quote then close value' c'
        else if quote = '\'' && !isContentIn quote c' then close value c
        else readLinesFrom quote label ahead value' c'
    else
      match c.pastBreak? with
      | some after => readLinesFrom quote label ahead ('\n' :: value) after
      | none =>
        if x = '\\' then
          match pastEscapedBreak? c with
          | some after => readLinesFrom quote label ahead value after
          | none =>
            match readEscape c.advance with
            | .ok (y, after) => readLinesFrom quote label ahead (y :: value) after
            | .error f => if f.final then .error (f.labelled label) else close value c
        else close value c

def readLines (quote : Char) (label : String) (c : Cursor) : Except Failure (String × Cursor) :=
  let c := skipFirstBreak (c.skip 3)
  readLinesFrom quote label c.rest.length [] c

def readString (c : Cursor) : Except Failure (String × Cursor) :=
  if c.startsWith ['"', '"', '"'] then readLines '"' "multiline basic string" c
  else if c.next? = some '"' then readBasic c
  else if c.startsWith ['\'', '\'', '\''] then readLines '\'' "multiline literal string" c
  else readLiteral c

end StudyPlan.Toml
