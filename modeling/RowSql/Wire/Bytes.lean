/-!
# Bytes on the wire

Whole numbers of a fixed width, most significant byte first, negative ones in two's
complement.
-/
namespace RowSql
namespace Wire

abbrev Bytes := List UInt8

/-- How many numbers are told apart by so many bytes. -/
def capacity (width : Nat) : Nat := Nat.pow 256 width

/-- The greatest length or count that fits its field on the wire. -/
def maxLength : Nat := 2147483647

/-- The lowest `width` bytes of a number. -/
def bigEndian : Nat → Nat → Bytes
  | 0, _ => []
  | width + 1, n => bigEndian width (n / 256) ++ [UInt8.ofNat n]

def ofBigEndian (bs : Bytes) : Nat := bs.foldl (fun n b => n * 256 + b.toNat) 0

def bytesOfInt (width : Nat) (i : Int) : Bytes := bigEndian width (i % capacity width).toNat

def intOfBytes (bs : Bytes) : Int :=
  let n := ofBigEndian bs
  if 2 * n < capacity bs.length then n else n - capacity bs.length

theorem capacity_succ (width : Nat) : capacity (width + 1) = 256 * capacity width :=
  Nat.mul_comm _ _

@[simp] theorem length_bigEndian (width n : Nat) : (bigEndian width n).length = width := by
  induction width generalizing n with
  | zero => rfl
  | succ width ih => simp [bigEndian, ih]

@[simp] theorem length_bytesOfInt (width : Nat) (i : Int) :
    (bytesOfInt width i).length = width := by
  simp [bytesOfInt]

theorem ofBigEndian_append_singleton (bs : Bytes) (b : UInt8) :
    ofBigEndian (bs ++ [b]) = ofBigEndian bs * 256 + b.toNat := by
  simp [ofBigEndian]

theorem ofBigEndian_bigEndian (width n : Nat) :
    ofBigEndian (bigEndian width n) = n % capacity width := by
  induction width generalizing n with
  | zero => simp [bigEndian, ofBigEndian, capacity, Nat.mod_one]
  | succ width ih =>
    have low : (UInt8.ofNat n).toNat = n % 256 := by simp
    rw [bigEndian, ofBigEndian_append_singleton, ih, low, capacity_succ, Nat.mod_mul]
    omega

end Wire
end RowSql
