/-!
# Binary floating point formats

A format is a precision and a width of the exponent field. Words are natural
numbers. Unpacking gives the exact value of a word, and rounding gives the word
nearest to an exact quotient, a half going to the even neighbour. No machine
arithmetic is involved, so every conversion is a statement about natural numbers.
-/
namespace RowSql

def twoTo (n : Nat) : Nat := Nat.pow 2 n

def tenTo (n : Nat) : Nat := Nat.pow 10 n

/-- A quotient rounded to the nearest natural number, a half to the even one. -/
def roundHalfEven (num den : Nat) : Nat :=
  let whole := num / den
  let rest := 2 * (num % den)
  if den < rest ∨ (rest = den ∧ whole % 2 = 1) then whole + 1 else whole

/-- What a word of a binary format stands for: `significand * 2 ^ exponent` when finite. -/
inductive Unpacked where
  | nan
  | infinite (negative : Bool)
  | finite (negative : Bool) (significand : Nat) (exponent : Int)
  deriving DecidableEq, Repr

/-- A format, whose `precision` counts the bits of a significand, the leading one included. -/
structure BinaryFormat where
  precision : Nat
  exponentWidth : Nat
  deriving DecidableEq, Repr

namespace BinaryFormat

def single : BinaryFormat := ⟨24, 8⟩
def double : BinaryFormat := ⟨53, 11⟩

variable (f : BinaryFormat)

/-- The least power of two that a significand is counted in. -/
def quantum : Int := 3 - twoTo (f.exponentWidth - 1) - f.precision

/-- The weight of the exponent field's lowest bit in a word. -/
def exponentUnit : Nat := twoTo (f.precision - 1)

/-- The exponent field kept for infinities and for what is not a number. -/
def topField : Nat := twoTo f.exponentWidth - 1

def infinityWord : Nat := f.topField * f.exponentUnit

/-- The weight of the sign bit in a word. -/
def signUnit : Nat := twoTo f.exponentWidth * f.exponentUnit

/-- The word of a quiet value that is not a number. -/
def quietNanWord : Nat := f.infinityWord + f.exponentUnit / 2

def unpack (word : Nat) : Unpacked :=
  let negative := decide (word / f.signUnit % 2 = 1)
  let field := word / f.exponentUnit % twoTo f.exponentWidth
  let fraction := word % f.exponentUnit
  if field = f.topField then
    if fraction = 0 then .infinite negative else .nan
  else if field = 0 then .finite negative fraction f.quantum
  else .finite negative (f.exponentUnit + fraction) (f.quantum + field - 1)

/-- The unsigned word nearest to `num / den`; a quotient past the greatest finite
number gives infinity. The words of consecutive numbers are consecutive, so a
significand that rounds up to the next power of two needs no case of its own. -/
def round (num den : Nat) : Nat :=
  if num = 0 then 0 else
  let guess : Int := (Nat.log2 num : Int) - Nat.log2 den - (f.precision - 1 : Nat)
  let whole := num * twoTo (-guess).toNat / (den * twoTo guess.toNat)
  let exponent := max f.quantum (if whole < f.exponentUnit then guess - 1 else guess)
  let significand := roundHalfEven (num * twoTo (-exponent).toNat) (den * twoTo exponent.toNat)
  min f.infinityWord ((exponent - f.quantum).toNat * f.exponentUnit + significand)

/-- Put the sign bit on an unsigned word. -/
def signed (negative : Bool) (word : Nat) : Nat :=
  if negative then f.signUnit + word else word

/-- The word of `f` nearest to what another format's word stands for. -/
def pack : Unpacked → Nat
  | .nan => f.quietNanWord
  | .infinite negative => f.signed negative f.infinityWord
  | .finite negative significand exponent =>
    f.signed negative (f.round (significand * twoTo exponent.toNat) (twoTo (-exponent).toNat))

end BinaryFormat
end RowSql
