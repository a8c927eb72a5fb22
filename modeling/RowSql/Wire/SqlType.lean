/-!
# Database types

The types of parameters and result columns. A built-in type is one of a fixed list; any
other type has a name, a number and a schema of its own, and is never the same as a
built-in one, whatever its name.
-/
namespace RowSql
namespace Wire

inductive Builtin where
  | bool
  | int2
  | int4
  | int8
  | float4
  | float8
  | text
  | varchar
  | bpchar
  | name
  | unknown
  | bytea
  | char
  | oid
  | json
  | uuid
  | numeric
  | timestamptz
  | int4range
  | boolArray
  | int2Array
  | int4Array
  | int8Array
  | float4Array
  | float8Array
  | textArray
  | varcharArray
  | uuidArray
  | int2vector
  | oidvector
  deriving DecidableEq, Repr

namespace Builtin

def all : List Builtin :=
  [bool, int2, int4, int8, float4, float8, text, varchar, bpchar, name, unknown, bytea, char, oid,
    json, uuid, numeric, timestamptz, int4range, boolArray, int2Array, int4Array, int8Array,
    float4Array, float8Array, textArray, varcharArray, uuidArray, int2vector, oidvector]

def sqlName : Builtin → String
  | bool => "bool"
  | int2 => "int2"
  | int4 => "int4"
  | int8 => "int8"
  | float4 => "float4"
  | float8 => "float8"
  | text => "text"
  | varchar => "varchar"
  | bpchar => "bpchar"
  | name => "name"
  | unknown => "unknown"
  | bytea => "bytea"
  | char => "char"
  | oid => "oid"
  | json => "json"
  | uuid => "uuid"
  | numeric => "numeric"
  | timestamptz => "timestamptz"
  | int4range => "int4range"
  | boolArray => "_bool"
  | int2Array => "_int2"
  | int4Array => "_int4"
  | int8Array => "_int8"
  | float4Array => "_float4"
  | float8Array => "_float8"
  | textArray => "_text"
  | varcharArray => "_varchar"
  | uuidArray => "_uuid"
  | int2vector => "int2vector"
  | oidvector => "oidvector"

/-- The number that the database knows a type by. -/
def number : Builtin → Nat
  | bool => 16
  | int2 => 21
  | int4 => 23
  | int8 => 20
  | float4 => 700
  | float8 => 701
  | text => 25
  | varchar => 1043
  | bpchar => 1042
  | name => 19
  | unknown => 705
  | bytea => 17
  | char => 18
  | oid => 26
  | json => 114
  | uuid => 2950
  | numeric => 1700
  | timestamptz => 1184
  | int4range => 3904
  | boolArray => 1000
  | int2Array => 1005
  | int4Array => 1007
  | int8Array => 1016
  | float4Array => 1021
  | float8Array => 1022
  | textArray => 1009
  | varcharArray => 1015
  | uuidArray => 2951
  | int2vector => 22
  | oidvector => 30

/-- The type of the elements of an array type. -/
def member? : Builtin → Option Builtin
  | boolArray => some bool
  | int2Array => some int2
  | int4Array => some int4
  | int8Array => some int8
  | float4Array => some float4
  | float8Array => some float8
  | textArray => some text
  | varcharArray => some varchar
  | uuidArray => some uuid
  | int2vector => some int2
  | oidvector => some oid
  | _ => none

/-- Types whose wire form is the text itself. -/
def isTextual : Builtin → Bool
  | text => true
  | varchar => true
  | bpchar => true
  | name => true
  | unknown => true
  | _ => false

/-- Arrays start at one, but for the two vector types. -/
def lowerBound : Builtin → Int
  | int2vector => 0
  | oidvector => 0
  | _ => 1

def ofName? (s : String) : Option Builtin := all.find? (·.sqlName == s)

theorem member?_member? {b m : Builtin} (h : b.member? = some m) : m.member? = none := by
  cases b <;> cases h <;> rfl

end Builtin

/-- What a type that is not built in is known by. -/
structure TypeIdentity where
  name : String
  number : Nat
  schema : String
  deriving DecidableEq, Repr

inductive SqlType where
  | builtin (b : Builtin)
  | simple (id : TypeIdentity)
  | enum (id : TypeIdentity) (labels : List String)
  | array (id : TypeIdentity) (member : SqlType)
  | domain (id : TypeIdentity) (base : SqlType)
  deriving Repr

namespace TypeIdentity

/-- The schema is left out where it is searched by default. -/
def shown (id : TypeIdentity) : String :=
  if id.schema = "public" ∨ id.schema = "pg_catalog" then id.name
  else id.schema ++ "." ++ id.name

end TypeIdentity

namespace SqlType

def shown : SqlType → String
  | builtin b => b.sqlName
  | simple id | enum id _ | array id _ | domain id _ => id.shown

def number : SqlType → Nat
  | builtin b => b.number
  | simple id | enum id _ | array id _ | domain id _ => id.number

def isTextual : SqlType → Bool
  | builtin b => b.isTextual
  | enum _ _ => true
  | _ => false

def member? : SqlType → Option SqlType
  | builtin b => b.member?.map builtin
  | array _ member => some member
  | _ => none

def lowerBound : SqlType → Int
  | builtin b => b.lowerBound
  | _ => 1

def builtin? : SqlType → Option Builtin
  | builtin b => some b
  | _ => none

/-- Every type may be asked for. Whether a value belongs to it is found when that value is
bound or read, so that the fault can name it. -/
def isAccepted (_ : SqlType) : Bool := true

end SqlType
end Wire
end RowSql
