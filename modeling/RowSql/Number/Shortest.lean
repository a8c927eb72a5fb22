import RowSql.Number.Binary

/-!
# Shortest decimals

Among the decimals that read back as a given binary number, the one with the fewest
digits is chosen, and of those the nearest. The numbers that read back form an
interval of rationals around the value, closed exactly when the significand is even.
-/
namespace RowSql

/-- A positive decimal, `digits * 10 ^ exponent`. -/
structure Decimal where
  digits : Nat
  exponent : Int
  deriving DecidableEq, Repr

/-- Which of two equally near decimals is taken. -/
inductive Tie where
  | up
  | even
  deriving DecidableEq, Repr

namespace Decimal

/-- How many decimal digits a natural number is written with. -/
def length (n : Nat) : Nat := (Nat.toDigits 10 n).length

/-- The power of ten just above a positive quotient: `10 ^ (p - 1) ≤ num / den < 10 ^ p`. -/
def magnitude (num den : Nat) : Int :=
  if den ≤ num then length (num / den) else 1 - (length ((den - 1) / num) : Int)

/-- The same decimal without trailing zeros. -/
def trim (d : Decimal) : Decimal :=
  if h : d.digits ≠ 0 ∧ d.digits % 10 = 0 then
    trim ⟨d.digits / 10, d.exponent + 1⟩
  else d
termination_by d.digits
decreasing_by exact Nat.div_lt_self (by omega) (by omega)

/-- The power of ten of the leading digit. -/
def leading (d : Decimal) : Int := d.exponent + length d.digits - 1

end Decimal

/-- The rationals that read back as a binary number: all those between `low / den` and
`high / den`, the ends included when `closed`. The number itself is `value / den`. -/
structure ReadBack where
  low : Nat
  value : Nat
  high : Nat
  den : Nat
  closed : Bool
  deriving DecidableEq, Repr

namespace ReadBack

/-- The gap below a power of two is half of the gap above it, unless numbers are already
at the least spacing. -/
def of (f : BinaryFormat) (significand : Nat) (exponent : Int) : ReadBack :=
  let up := twoTo (exponent - 2).toNat
  let narrow := significand = f.exponentUnit ∧ f.quantum < exponent
  { low := (4 * significand - if narrow then 1 else 2) * up
    value := 4 * significand * up
    high := (4 * significand + 2) * up
    den := twoTo (2 - exponent).toNat
    closed := significand % 2 = 0 }

variable (r : ReadBack)

/-- Whether `digits * 10 ^ exponent` lies in the interval. -/
def holds (digits : Nat) (exponent : Int) : Bool :=
  let num := digits * tenTo exponent.toNat * r.den
  let scale := tenTo (-exponent).toNat
  if r.closed then decide (r.low * scale ≤ num ∧ num ≤ r.high * scale)
  else decide (r.low * scale < num ∧ num < r.high * scale)

/-- The best decimal with the given exponent, when one reads back: only the two
neighbours of the value on that grid can be it. -/
def onGrid? (tie : Tie) (exponent : Int) : Option Decimal :=
  let num := r.value * tenTo (-exponent).toNat
  let den := r.den * tenTo exponent.toNat
  let below := num / den
  let rest := 2 * (num % den)
  match r.holds below exponent, r.holds (below + 1) exponent with
  | false, false => none
  | true, false => some ⟨below, exponent⟩
  | false, true => some ⟨below + 1, exponent⟩
  | true, true =>
    let upward := match tie with
      | .up => decide (den ≤ rest)
      | .even => decide (den < rest ∨ (rest = den ∧ below % 2 = 1))
    some ⟨if upward then below + 1 else below, exponent⟩

/-- Grids are tried from one digit on; seventeen digits always suffice for double
precision. -/
def shortest (tie : Tie) : Decimal :=
  let top := Decimal.magnitude r.value r.den
  let hit := (List.range 17).findSome? fun n : Nat => r.onGrid? tie (top - 1 - (n : Int))
  (hit.getD ⟨r.value, 0⟩).trim

end ReadBack
end RowSql
