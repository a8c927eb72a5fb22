import RowSql.Value
import RowSql.Wire.Bytes
import RowSql.Wire.SqlType
import RowSql.Wire.WireFault

/-!
# Reading result columns

The value of the bytes of a result column. Fixed widths are checked exactly, and an
array must use up all of its bytes. Counts and lengths that the bytes declare are never
trusted: reading ends where the bytes end.
-/
namespace RowSql
namespace Wire

/-- So many bytes from the front, and what follows them, if there are so many. Only the
front is counted, so reading an array takes time linear in its bytes. -/
def front? (width : Nat) (bs : Bytes) : Option (Bytes × Bytes) :=
  if (bs.take width).length < width then none else some (bs.take width, bs.drop width)

theorem front?_eq_none_iff {width : Nat} {bs : Bytes} :
    front? width bs = none ↔ bs.length < width := by
  simp only [front?, List.length_take]
  grind

theorem front?_append (front later : Bytes) :
    front? front.length (front ++ later) = some (front, later) := by
  simp [front?]

/-- So many bytes from the front, which the bytes must have. -/
def takeBytes (width : Nat) (bs : Bytes) : Except WireFault (Bytes × Bytes) :=
  match front? width bs with
  | none => .error .truncated
  | some r => .ok r

/-- A whole number from the front. -/
def readInt (width : Nat) (bs : Bytes) : Except WireFault (Int × Bytes) :=
  (takeBytes width bs).map fun r => (intOfBytes r.1, r.2)

/-- So many bytes, which must be all there are. -/
def exactly (width : Nat) (bs : Bytes) : Except WireFault Bytes :=
  if bs.length < width then .error .truncated
  else if width < bs.length then .error .wrongSize
  else .ok bs

def decodeBool (bs : Bytes) : Except WireFault Value :=
  match bs with
  | [b] => .ok (.bool (b != 0))
  | _ => .error .wrongSize

def decodeText (bs : Bytes) : Except WireFault Value :=
  match Utf8.decode bs with
  | .ok s => .ok (.text s)
  | .error fault => .error (.noText fault)

def decodeWhole (width : Nat) (bs : Bytes) : Except WireFault Value :=
  (exactly width bs).map fun bs => .int (Int64.ofInt (intOfBytes bs))

def decodeSingle (bs : Bytes) : Except WireFault Value :=
  (exactly 4 bs).map fun bs => .float (Binary64.ofSingle (UInt32.ofNat (ofBigEndian bs)))

def decodeDouble (bs : Bytes) : Except WireFault Value :=
  (exactly 8 bs).map fun bs => .float (Binary64.ofWord (ofBigEndian bs))

def unsupported (type : SqlType) : Except WireFault Value := .error (.unsupported type.shown)

/-- A built-in type that is no array. -/
def decodeScalar (b : Builtin) (bs : Bytes) : Except WireFault Value :=
  match b with
  | .bool => decodeBool bs
  | .int2 => decodeWhole 2 bs
  | .int4 => decodeWhole 4 bs
  | .int8 => decodeWhole 8 bs
  | .float4 => decodeSingle bs
  | .float8 => decodeDouble bs
  | b => if b.isTextual then decodeText bs else unsupported (.builtin b)

/-- The number of elements of the given dimensions, and what follows them. -/
def readDimensions : Nat → Nat → Bytes → Except WireFault (Nat × Bytes)
  | 0, count, bs => .ok (count, bs)
  | dimensions + 1, count, bs => do
    let (size, rest) ← readInt 4 bs
    if size < 0 then throw .dimensionSize
    let (_, rest) ← readInt 4 rest
    if maxLength < count * size.toNat then throw .tooManyElements
    readDimensions dimensions (count * size.toNat) rest

/-- As many elements as declared, and nothing after them. -/
def readElements (element : Bytes → Except WireFault Value) :
    Nat → Bytes → Except WireFault (List Value)
  | 0, bs => if bs = [] then .ok [] else .error .leftover
  | count + 1, bs => do
    let (size, rest) ← readInt 4 bs
    if size < 0 then
      let later ← readElements element count rest
      return .null :: later
    else
      match front? size.toNat rest with
      | none => throw .elementLength
      | some (own, rest) =>
        let v ← element own
        let later ← readElements element count rest
        return v :: later

/-- An array without dimensions is empty, and one of several dimensions is refused. -/
def decodeArray (element : Bytes → Except WireFault Value) (bs : Bytes) :
    Except WireFault Value := do
  let (dimensions, rest) ← readInt 4 bs
  if dimensions < 0 then throw .dimensionCount
  let (_, rest) ← readInt 4 rest
  let (_, rest) ← readInt 4 rest
  let (count, rest) ← readDimensions dimensions.toNat 1 rest
  if 1 < dimensions then throw .tooManyDimensions
  let items ← readElements element (if dimensions = 0 then 0 else count) rest
  return .array items

def decodeBuiltin (b : Builtin) (bs : Bytes) : Except WireFault Value :=
  match b.member? with
  | some member => decodeArray (decodeScalar member) bs
  | none => decodeScalar b bs

/-- The value of a column that is not null. -/
def decode : SqlType → Bytes → Except WireFault Value
  | .builtin b, bs => decodeBuiltin b bs
  | .enum _ _, bs => decodeText bs
  | .array _ member, bs => decodeArray (decode member) bs
  | .simple id, _ => unsupported (.simple id)
  | .domain id base, _ => unsupported (.domain id base)

/-- The value of a column, null or not. -/
def decode? (type : SqlType) : Option Bytes → Except WireFault Value
  | none => .ok .null
  | some bs => decode type bs

end Wire
end RowSql
