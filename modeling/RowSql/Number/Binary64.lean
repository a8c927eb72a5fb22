import RowSql.Number.Binary

/-!
# Double precision numbers

A `Binary64` is its 64 bits, so equal numbers of this type are equal in every bit.
The comparison of the number line is `eqv`: nothing equals what is not a number,
and the two zeros are equal.
-/
namespace RowSql

structure Binary64 where
  bits : UInt64
  deriving DecidableEq, Repr

namespace Binary64

def unpack (x : Binary64) : Unpacked := BinaryFormat.double.unpack x.bits.toNat

def isNaN (x : Binary64) : Bool := x.unpack == .nan

def isInfinite (x : Binary64) : Bool :=
  match x.unpack with
  | .infinite _ => true
  | _ => false

def isZero (x : Binary64) : Bool :=
  match x.unpack with
  | .finite _ 0 _ => true
  | _ => false

/-- Equality on the number line. -/
def eqv (x y : Binary64) : Bool :=
  !x.isNaN && !y.isNaN && (x == y || (x.isZero && y.isZero))

def ofWord (word : Nat) : Binary64 := ⟨UInt64.ofNat word⟩

/-- The number nearest to `num / den`, with a sign. -/
def nearest (negative : Bool) (num den : Nat) : Binary64 :=
  ofWord (BinaryFormat.double.signed negative (BinaryFormat.double.round num den))

def ofInt (i : Int) : Binary64 := nearest (decide (i < 0)) i.natAbs 1

def zero (negative : Bool) : Binary64 := ofWord (BinaryFormat.double.signed negative 0)

/-- The exact value of a single precision word. -/
def ofSingle (word : UInt32) : Binary64 :=
  ofWord (BinaryFormat.double.pack (BinaryFormat.single.unpack word.toNat))

/-- The nearest single precision word. -/
def toSingle (x : Binary64) : UInt32 :=
  UInt32.ofNat (BinaryFormat.single.pack x.unpack)

end Binary64
end RowSql
