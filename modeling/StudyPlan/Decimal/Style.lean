import StudyPlan.Decimal.Shortest

/-! How floating-point numbers are written. Each written form keeps the shortest digits and
differs in where positional writing ends and how the exponent looks. -/
namespace StudyPlan.Decimal

structure Style where
  lowest : Int
  highest : Int
  plusSign : Bool
  exponentWidth : Nat
  nan : String
  infinity : String
  negativeInfinity : String
  deriving DecidableEq, Repr

namespace Style

def json : Style := ⟨-5, 15, true, 2, "null", "null", "null"⟩

def yaml : Style := ⟨-5, 15, false, 1, ".nan", ".inf", "-.inf"⟩

def plain : Style := ⟨-400, 400, false, 1, "NaN", "inf", "-inf"⟩

end Style

def digitText (n : Nat) : String := String.ofList (Nat.toDigits 10 n)

def zeros (n : Nat) : String := String.ofList (List.replicate n '0')

def positional (d : Decimal) : String :=
  let digits := Nat.toDigits 10 d.digits
  if 0 ≤ d.exponent then
    String.ofList digits ++ zeros d.exponent.toNat ++ ".0"
  else
    let places := (-d.exponent).toNat
    if places < digits.length then
      String.ofList (digits.take (digits.length - places)) ++ "." ++
        String.ofList (digits.drop (digits.length - places))
    else
      "0." ++ zeros (places - digits.length) ++ String.ofList digits

def scientific (f : Style) (d : Decimal) : String :=
  let digits := Nat.toDigits 10 d.digits
  let exponent := d.exponent + (digits.length - 1 : Nat)
  let size := digitText exponent.natAbs
  let sign := if exponent < 0 then "-" else if f.plusSign then "+" else ""
  let mantissa :=
    match digits with
    | [] => ""
    | [c] => c.toString
    | c :: rest => c.toString ++ "." ++ String.ofList rest
  mantissa ++ "e" ++ sign ++ zeros (f.exponentWidth - size.length) ++ size

def Style.write (f : Style) (x : Binary64) : String :=
  if x.isNaN then f.nan
  else if x.isInfinite then if x.isNegative then f.negativeInfinity else f.infinity
  else
    let d := shortest x
    let lead := d.exponent + ((Nat.toDigits 10 d.digits).length - 1 : Nat)
    let size :=
      if d.digits = 0 || (f.lowest ≤ lead && lead ≤ f.highest) then d.positional
      else d.scientific f
    if x.isNegative then "-" ++ size else size

end StudyPlan.Decimal
