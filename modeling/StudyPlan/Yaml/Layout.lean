import StudyPlan.Yaml.Cursor
import StudyPlan.Yaml.Implied

/-! How a text is written as a scalar: plain where its spelling allows that, else in
single quotes, in double quotes with escapes, or line by line behind a bar. -/
namespace StudyPlan.Yaml

inductive Layout where
  | plain | single | double | literal
  deriving DecidableEq, Repr

namespace Layout

def isPrintable (c : Char) : Bool :=
  let n := c.toNat
  n = 0x0A || (0x20 ≤ n && n ≤ 0x7E) || (0xA0 ≤ n && n ≤ 0xFFFD && n ≠ 0xFEFF) || 0x10000 ≤ n

def isIndicator (c : Char) : Bool :=
  c = '#' || c = ',' || c = '[' || c = ']' || c = '{' || c = '}' || c = '&' || c = '*' ||
    c = '!' || c = '|' || c = '>' || c = '\'' || c = '"' || c = '%' || c = '@' || c = '\u0060'

def isGap : List Char → Bool
  | [] => true
  | c :: _ => isSpaceOrTab c || isBreak c || c = '\x00'

def startsAsIndicator : List Char → Bool
  | [] => false
  | c :: rest => isIndicator c || ((c = '?' || c = ':' || c = '-') && isGap rest)

/-- Whether a colon before a gap, or a sharp behind one, stands past the first character. -/
def holdsIndicator : List Char → Bool
  | [] => false
  | [_] => false
  | before :: c :: rest =>
    (c = ':' && isGap rest) || (c = '#' && isGap [before]) || holdsIndicator (c :: rest)

def startsAsDocumentMark (s : List Char) : Bool :=
  s.take 3 = ['-', '-', '-'] || s.take 3 = ['.', '.', '.']

def hasPair (p : Char → Char → Bool) : List Char → Bool
  | a :: b :: rest => p a b || hasPair p (b :: rest)
  | _ => false

def isSpaceOrBreak (c : Char) : Bool := c = ' ' || isBreak c

def isSpecial (s : List Char) : Bool :=
  s.any (!isPrintable ·) || hasPair (fun a b => a = ' ' && isBreak b) s

def allowsPlain (s : List Char) : Bool :=
  !(startsAsDocumentMark s || startsAsIndicator s || holdsIndicator s ||
    (s.head?.map isSpaceOrBreak).getD false || (s.getLast?.map isSpaceOrBreak).getD false ||
    s.any isBreak || isSpecial s)

def allowsSingle (s : List Char) : Bool :=
  !(hasPair (fun a b => isBreak a && b = ' ') s || isSpecial s)

def allowsLiteral (s : List Char) : Bool := s.getLast? ≠ some ' ' && !isSpecial s

def isAmbiguous (s : String) : Bool :=
  Implied.of s ≠ .text || Implied.hasLeadingZero s.toList

def quoted (s : List Char) : Layout := if allowsSingle s then single else double

def of (text : String) : Layout :=
  let s := text.toList
  if s.contains '\n' then if allowsLiteral s then literal else double
  else if isAmbiguous text then quoted s
  else if allowsPlain s then plain
  else quoted s

end Layout
end StudyPlan.Yaml
