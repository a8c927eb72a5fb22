import RowSql.Text.Utf8

/-!
# Faults on the wire

Why a value cannot be bound to a parameter of a type, or a result column cannot be read.
-/
namespace RowSql
namespace Wire

inductive WireFault where
  | unbindable (kind type : String)
  | tooGreat
  | tooSmall
  | tooLong
  | truncated
  | wrongSize
  | noText (fault : Utf8Fault)
  | unsupported (type : String)
  | dimensionCount
  | dimensionSize
  | tooManyElements
  | tooManyDimensions
  | elementLength
  | leftover
  deriving DecidableEq, Repr

namespace WireFault

def message : WireFault → String
  | unbindable kind type => s!"cannot bind {kind} to column type {type}"
  | tooGreat => "number too large to fit in target type"
  | tooSmall => "number too small to fit in target type"
  | tooLong => "value too large to transmit"
  | truncated => "failed to fill whole buffer"
  | wrongSize => "invalid buffer size"
  | noText fault => fault.message
  | unsupported type =>
    s!"unsupported column type {type}; cast it to text or a native type in SQL"
  | dimensionCount => "invalid dimension count"
  | dimensionSize => "invalid dimension size"
  | tooManyElements => "too many array elements"
  | tooManyDimensions => "array contains too many dimensions"
  | elementLength => "invalid value length"
  | leftover => "invalid message length: arrayvalue not drained"

end WireFault
end Wire
end RowSql
