import StudyPlan.Decimal.Binary64

/-! The shortest decimal that reads back as a given floating-point number, by exact
arithmetic on natural numbers. Of the decimals with the fewest digits it is the
one nearest to the number. -/
namespace StudyPlan

structure Decimal where
  digits : Nat
  exponent : Int
  deriving DecidableEq, Repr

namespace Decimal

/-- The real numbers that round to one float: `low`, `value` and `high` over `scale`;
both ends belong to it when `closed`. -/
structure Interval where
  low : Nat
  value : Nat
  high : Nat
  scale : Nat
  closed : Bool
  deriving DecidableEq, Repr

namespace Interval

def of (x : Binary64) : Interval :=
  let m := x.significand
  let narrow := x.fractionField = 0 && 1 < x.exponentField
  let up := Nat.pow 2 (x.exponent - 2).toNat
  let down := Nat.pow 2 (2 - x.exponent).toNat
  ⟨(4 * m - if narrow then 1 else 2) * up, 4 * m * up, (4 * m + 2) * up, down, m % 2 = 0⟩

def holds (i : Interval) (numerator denominator : Nat) : Bool :=
  let point := numerator * i.scale
  let low := i.low * denominator
  let high := i.high * denominator
  if i.closed then low ≤ point && point ≤ high else low < point && point < high

def nearest? (i : Interval) (exponent : Int) : Option Nat :=
  let up := Nat.pow 10 exponent.toNat
  let down := Nat.pow 10 (-exponent).toNat
  let below := i.value * down / (i.scale * up)
  let above := below + 1
  let inside (n : Nat) : Bool := i.holds (n * up) down
  let gapBelow := i.value * down - below * up * i.scale
  let gapAbove := above * up * i.scale - i.value * down
  match inside below && below != 0, inside above with
  | true, true =>
    some (if gapBelow < gapAbove || (gapBelow = gapAbove && below % 2 = 0) then below else above)
  | true, false => some below
  | false, true => some above
  | false, false => none

def magnitude (i : Interval) : Int :=
  let whole := i.value / i.scale
  if 0 < whole then (Nat.toDigits 10 whole).length - 1
  else
    let start := (Nat.toDigits 10 (i.scale / i.value)).length - 1
    if i.scale ≤ i.value * Nat.pow 10 start then -start else -(start + 1 : Nat)

end Interval

def strip (fuel : Nat) (d : Decimal) : Decimal :=
  match fuel with
  | 0 => d
  | fuel + 1 =>
    if d.digits ≠ 0 && d.digits % 10 = 0 then strip fuel ⟨d.digits / 10, d.exponent + 1⟩ else d

def shortest (x : Binary64) : Decimal :=
  if x.significand = 0 then ⟨0, 0⟩
  else
    let i := Interval.of x
    let magnitude := i.magnitude
    let found := (List.range 17).findSome? fun (n : Nat) =>
      let exponent := magnitude - n
      (i.nearest? exponent).map fun digits => (⟨digits, exponent⟩ : Decimal)
    (found.getD ⟨0, 0⟩).strip 20

end Decimal
end StudyPlan
