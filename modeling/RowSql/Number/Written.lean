import RowSql.Number.Binary64
import RowSql.Number.Shortest

/-!
# Written numbers

One record fixes every decision of a number format: where positional notation ends,
whether a whole number keeps a point, how exponents and special values look, and
which way a tie between two shortest decimals goes.
-/
namespace RowSql

structure NumberStyle where
  /-- The leading digit's powers of ten that are written positionally, when bounded. -/
  positional : Option (Int × Int)
  /-- Whether a whole number written positionally ends in `.0`. -/
  pointZero : Bool
  /-- Whether a positive exponent carries a sign. -/
  signedExponent : Bool
  tie : Tie
  nan : String
  infinity : String
  negativeInfinity : String

namespace NumberStyle

/-- Digits `ds`, the first of which has the weight `10 ^ lead`, without an exponent. -/
def positionalText (style : NumberStyle) (ds : List Char) (lead : Int) : List Char :=
  if lead < 0 then
    '0' :: '.' :: (List.replicate (-lead - 1).toNat '0' ++ ds)
  else
    let places := lead.toNat + 1
    let whole := ds.take places ++ List.replicate (places - ds.length) '0'
    match ds.drop places with
    | [] => if style.pointZero then whole ++ ['.', '0'] else whole
    | fraction => whole ++ '.' :: fraction

/-- The same digits as one digit, a fraction and an exponent. -/
def exponentText (style : NumberStyle) (ds : List Char) (lead : Int) : List Char :=
  let fraction := match ds.drop 1 with
    | [] => []
    | rest => '.' :: rest
  let sign := if lead < 0 then ['-'] else if style.signedExponent then ['+'] else []
  ds.take 1 ++ fraction ++ 'e' :: sign ++ Nat.toDigits 10 lead.natAbs

def decimalText (style : NumberStyle) (d : Decimal) : List Char :=
  let ds := Nat.toDigits 10 d.digits
  let lead := d.leading
  match style.positional with
  | none => style.positionalText ds lead
  | some (low, high) =>
    if low ≤ lead ∧ lead < high then style.positionalText ds lead
    else style.exponentText ds lead

def magnitudeText (style : NumberStyle) (significand : Nat) (exponent : Int) : List Char :=
  if significand = 0 then style.positionalText ['0'] 0
  else style.decimalText ((ReadBack.of .double significand exponent).shortest style.tie)

/-- The sign of a zero is written. -/
def write (style : NumberStyle) (x : Binary64) : String :=
  match x.unpack with
  | .nan => style.nan
  | .infinite negative => if negative then style.negativeInfinity else style.infinity
  | .finite negative significand exponent =>
    let text := style.magnitudeText significand exponent
    String.ofList (if negative then '-' :: text else text)

end NumberStyle
end RowSql
