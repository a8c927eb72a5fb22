import RowSql.Json.Doc

/-!
# JSON numerals

A numeral is read into a 64-bit significand and a power of ten. Digits that do not fit
into the significand are dropped; those before the point still count for the power. The
number is then one product or quotient of double precision numbers, rounded once more,
so a numeral with many digits need not give the nearest number.
-/
namespace RowSql

namespace Binary64

/-- A finite number's magnitude as a quotient. -/
def ratio (x : Binary64) : Nat × Nat :=
  match x.unpack with
  | .finite _ significand exponent =>
    (significand * twoTo exponent.toNat, twoTo (-exponent).toNat)
  | _ => (0, 1)

/-- The rounded product of two finite magnitudes. -/
def mulMagnitude (x y : Binary64) : Binary64 :=
  nearest false (x.ratio.1 * y.ratio.1) (x.ratio.2 * y.ratio.2)

/-- The rounded quotient of two finite magnitudes, the second of them positive. -/
def divMagnitude (x y : Binary64) : Binary64 :=
  nearest false (x.ratio.1 * y.ratio.2) (x.ratio.2 * y.ratio.1)

/-- The number nearest to a power of ten. -/
def tenPower (n : Nat) : Binary64 := nearest false (tenTo n) 1

def withSign (negative : Bool) (x : Binary64) : Binary64 :=
  ofWord (BinaryFormat.double.signed negative x.bits.toNat)

/-- The greatest power of ten that is a finite number. -/
def topPower : Nat := 308

/-- A magnitude times a power of ten, none when it is too great. -/
def scale (x : Binary64) (exponent : Int) : Option Binary64 :=
  if exponent.natAbs ≤ topPower then
    if 0 ≤ exponent then
      let y := x.mulMagnitude (tenPower exponent.natAbs)
      if y.isInfinite then none else some y
    else some (x.divMagnitude (tenPower exponent.natAbs))
  else if x.isZero then some x
  else if 0 ≤ exponent then none
  else scale (x.divMagnitude (tenPower topPower)) (exponent + topPower)
termination_by exponent.natAbs
decreasing_by simp only [topPower] at *; omega

end Binary64

namespace Json
namespace Numeral

def digitValue (c : Char) : Nat := c.toNat - '0'.toNat

/-- The greatest significand. -/
def top : Nat := 18446744073709551615

/-- Append digits to a significand as long as it fits, and count the ones left over. -/
def absorb : Nat → List Char → Nat × Nat
  | significand, [] => (significand, 0)
  | significand, c :: rest =>
    let next := significand * 10 + digitValue c
    if next ≤ top then absorb next rest else (significand, rest.length + 1)

/-- A numeral with a point, an exponent or too many digits. -/
def scaled? (negative : Bool) (significand : Nat) (exponent : Int) : Option Doc :=
  ((Binary64.ofInt significand).scale exponent).map fun x => .float (x.withSign negative)

/-- A numeral of digits only. Below the 64-bit range, and for a zero with a sign, it
stands for a floating point number. -/
def whole (negative : Bool) (significand : Nat) : Doc :=
  if !negative then .whole significand
  else if significand = 0 ∨ 9223372036854775808 < significand then
    .float ((Binary64.ofInt significand).withSign true)
  else .whole (-significand)

/-- Digits after an exponent mark, with an optional sign. -/
def exponent? (cs : List Char) : Option Int :=
  let (negative, digits) := match cs with
    | '-' :: rest => (true, rest)
    | '+' :: rest => (false, rest)
    | _ => (false, cs)
  if digits = [] ∨ digits.any (fun c => !c.isDigit) then none
  else
    let n : Nat := digits.foldl (fun n c => n * 10 + digitValue c) 0
    some (if negative then -n else n)

/-- What follows the digits: nothing, or an exponent. -/
def ending? (negative : Bool) (significand : Nat) (exponent : Int) :
    List Char → Option Doc
  | [] => scaled? negative significand exponent
  | c :: rest =>
    if c = 'e' ∨ c = 'E' then do
      let shift ← exponent? rest
      scaled? negative significand (exponent + shift)
    else none

/-- Read the digits and what follows them. -/
def unsigned? (negative : Bool) (cs : List Char) : Option Doc :=
  let digits := cs.takeWhile Char.isDigit
  let (significand, dropped) := absorb 0 digits
  if digits = [] ∨ (digits.head? = some '0' ∧ digits.length ≠ 1) then none
  else match cs.dropWhile Char.isDigit with
    | [] => if dropped = 0 then some (whole negative significand)
            else scaled? negative significand dropped
    | '.' :: rest =>
      let fraction := rest.takeWhile Char.isDigit
      let (significand, unused) := absorb significand fraction
      if fraction = [] then none
      else ending? negative significand (dropped - (fraction.length - unused : Nat))
        (rest.dropWhile Char.isDigit)
    | rest => ending? negative significand dropped rest

/-- Read a whole text as a numeral. -/
def read? : List Char → Option Doc
  | '-' :: rest => unsigned? true rest
  | cs => unsigned? false cs

end Numeral
end Json
end RowSql
