import RowSql.Value
import RowSql.Wire.Bytes
import RowSql.Wire.SqlType
import RowSql.Wire.WireFault

/-!
# Binding values

The bytes of a parameter. A value is bound only to a type it belongs to: whole numbers
must fit the width of an integer type, and go to floating point types rounded to the
nearest number. `none` stands for the null of the database.
-/
namespace RowSql

namespace Value

/-- What a value is called where it cannot be bound. -/
def kind : Value → String
  | null => "null"
  | bool _ => "bool"
  | int _ => "int"
  | float _ => "float"
  | text _ => "text"
  | array _ => "array"

end Value

namespace Wire

/-- A whole number in as many bytes, if it fits. -/
def encodeInt (width : Nat) (i : Int) : Except WireFault Bytes :=
  if i < -(capacity width / 2 : Nat) then .error .tooSmall
  else if (capacity width / 2 : Nat) ≤ i then .error .tooGreat
  else .ok (bytesOfInt width i)

def encodeSingle (word : UInt32) : Bytes := bigEndian 4 word.toNat

def encodeDouble (x : Binary64) : Bytes := bigEndian 8 x.bits.toNat

/-- The single precision word nearest to a whole number. -/
def singleOfInt (i : Int) : UInt32 :=
  UInt32.ofNat (BinaryFormat.single.signed (decide (i < 0)) (BinaryFormat.single.round i.natAbs 1))

def unbindable (type : SqlType) (v : Value) : WireFault := .unbindable v.kind type.shown

def encodeWhole (type : SqlType) (i : Int64) : Except WireFault Bytes :=
  match type.builtin? with
  | some .int2 => encodeInt 2 i.toInt
  | some .int4 => encodeInt 4 i.toInt
  | some .int8 => encodeInt 8 i.toInt
  | some .float4 => .ok (encodeSingle (singleOfInt i.toInt))
  | some .float8 => .ok (encodeDouble (Binary64.ofInt i.toInt))
  | _ => .error (unbindable type (.int i))

def encodeFloat (type : SqlType) (x : Binary64) : Except WireFault Bytes :=
  match type.builtin? with
  | some .float4 => .ok (encodeSingle x.toSingle)
  | some .float8 => .ok (encodeDouble x)
  | _ => .error (unbindable type (.float x))

/-- An element with its length before it; a null has a length below zero and no bytes. -/
def encodeElement : Option Bytes → Except WireFault Bytes
  | none => .ok (bytesOfInt 4 (-1))
  | some bs => if bs.length ≤ maxLength then .ok (bigEndian 4 bs.length ++ bs) else .error .tooLong

/-- One dimension, a flag for nulls, the type of the elements, and the bounds. -/
def arrayHeader (type member : SqlType) (count : Nat) (hasNulls : Bool) : Bytes :=
  bigEndian 4 1 ++ bigEndian 4 (if hasNulls then 1 else 0) ++ bigEndian 4 member.number ++
    bigEndian 4 count ++ bytesOfInt 4 type.lowerBound

mutual

def encode (type : SqlType) : Value → Except WireFault (Option Bytes)
  | .null => .ok none
  | .bool b =>
    if type.builtin? = some .bool then .ok (some [if b then 1 else 0])
    else .error (unbindable type (.bool b))
  | .int i => (encodeWhole type i).map some
  | .float x => (encodeFloat type x).map some
  | .text s =>
    if type.isTextual then .ok (some (Utf8.bytes s)) else .error (unbindable type (.text s))
  | .array items =>
    match type.member? with
    | none => .error (unbindable type (.array items))
    | some member =>
      if maxLength < items.length then .error .tooLong
      else (encodeAll member items).map fun body =>
        some (arrayHeader type member items.length (items.any Value.isNull) ++ body)

/-- The elements one after the other; the first that fails is reported. -/
def encodeAll (member : SqlType) : List Value → Except WireFault Bytes
  | [] => .ok []
  | v :: rest => do
    let bytes ← encode member v
    let element ← encodeElement bytes
    let later ← encodeAll member rest
    return element ++ later

end

end Wire
end RowSql
