import StudyPlan.Schema.Problem
import StudyPlan.Decimal.Nearest
import StudyPlan.Text.Hex

/-! What an unquoted scalar means by its spelling alone: nothing, a flag, a number, or
else its text. -/
namespace StudyPlan.Yaml

inductive Implied where
  | null
  | bool (b : Bool)
  | integer (n : Int)
  | wide (n : Int) (width : String)
  | float (x : Binary64)
  | text
  deriving DecidableEq, Repr

namespace Implied

def isNull (s : String) : Bool := s = "null" || s = "Null" || s = "NULL" || s = "~"

def bool? (s : String) : Option Bool :=
  if s = "true" || s = "True" || s = "TRUE" then some true
  else if s = "false" || s = "False" || s = "FALSE" then some false
  else none

/-! ### Integers -/

def digitValue? (radix : Nat) (c : Char) : Option Nat :=
  (Text.hexValue? c).filter (· < radix)

def digitsValue? (radix : Nat) : Nat → List Char → Option Nat
  | n, [] => some n
  | n, c :: rest => (digitValue? radix c).bind fun d => digitsValue? radix (n * radix + d) rest

def natural? (radix : Nat) (s : List Char) : Option Nat :=
  if s.isEmpty then none else digitsValue? radix 0 s

def hasLeadingZero (s : List Char) : Bool :=
  let s := match s with
    | '-' :: rest => rest
    | '+' :: rest => rest
    | s => s
  match s with
  | '0' :: d :: rest => (d :: rest).all Char.isDigit
  | _ => false

def radix? : Char → Option Nat
  | 'x' => some 16
  | 'o' => some 8
  | 'b' => some 2
  | _ => none

def radixValue? (bound : Nat) : List Char → Option Nat
  | '0' :: letter :: digits =>
    (radix? letter).bind fun radix => (natural? radix digits).filter (· < bound)
  | _ => none

def unsigned? (bound : Nat) (s : List Char) : Option Nat :=
  let body := match s with
    | '+' :: rest => rest
    | s => s
  match radixValue? bound body with
  | some n => some n
  | none => if hasLeadingZero s then none else (natural? 10 body).filter (· < bound)

def negative? (bound : Nat) (s : List Char) : Option Int :=
  match s with
  | '-' :: body =>
    match radixValue? (bound + 1) body with
    | some n => some (-(n : Int))
    | none =>
      if hasLeadingZero s then none
      else ((natural? 10 body).filter (· ≤ bound)).map fun n => -(n : Int)
  | _ => none

def integer? (s : List Char) : Option Implied :=
  match unsigned? (Nat.pow 2 64) s with
  | some n => some (.integer n)
  | none =>
    match negative? (Nat.pow 2 63) s with
    | some n => some (.integer n)
    | none =>
      match unsigned? (Nat.pow 2 128) s with
      | some n => some (.wide n "u128")
      | none => (negative? (Nat.pow 2 127) s).map (.wide · "i128")

/-! ### Floating-point numbers -/

def exponent? (s : List Char) : Option Int :=
  match s with
  | '-' :: rest => (natural? 10 rest).map fun n => -(n : Int)
  | '+' :: rest => (natural? 10 rest).map (·)
  | rest => (natural? 10 rest).map (·)

def decimal? (s : List Char) : Option Float :=
  let whole := s.takeWhile Char.isDigit
  let behind := s.dropWhile Char.isDigit
  let fraction := match behind with
    | '.' :: rest => rest.takeWhile Char.isDigit
    | _ => []
  let tail := match behind with
    | '.' :: rest => rest.dropWhile Char.isDigit
    | rest => rest
  let exponent : Option Int := match tail with
    | [] => some 0
    | c :: rest => if c = 'e' || c = 'E' then exponent? rest else none
  match natural? 10 (whole ++ fraction), exponent with
  | some digits, some e => some (Decimal.nearestFloat digits (e - fraction.length))
  | _, _ => none

def float? (s : List Char) : Option Float :=
  let (signed, body) := match s with
    | '+' :: rest => (true, rest)
    | s => (false, s)
  let text := String.ofList body
  let startsSigned := body.head? = some '+' || body.head? = some '-'
  if signed && startsSigned then none
  else if text = ".inf" || text = ".Inf" || text = ".INF" then some (1.0 / 0.0)
  else if !signed && (text = "-.inf" || text = "-.Inf" || text = "-.INF") then some (-1.0 / 0.0)
  else if !signed && (text = ".nan" || text = ".NaN" || text = ".NAN") then some (0.0 / 0.0)
  else
    let value := match body with
      | '-' :: rest => (decimal? rest).map (-·)
      | rest => decimal? rest
    value.filter Float.isFinite

end Implied

def Implied.of (s : String) : Implied :=
  if s.isEmpty || isNull s then .null
  else
    match bool? s with
    | some b => .bool b
    | none =>
      let chars := s.toList
      match integer? chars with
      | some n => n
      | none =>
        if hasLeadingZero chars then .text
        else
          match float? chars with
          | some x => .float (.ofFloat x)
          | none => .text

end StudyPlan.Yaml
