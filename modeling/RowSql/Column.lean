import RowSql.Fragment

/-!
# Columns and indexes

What a table declares: typed columns in order, and indexes that are either written out
or described by the columns they cover.
-/
namespace RowSql

/-- Scalar types that the database has built in. -/
inductive Scalar where
  | int
  | text
  | float
  | bool
  deriving DecidableEq, Repr

namespace Scalar

def sqlName : Scalar → String
  | int => "int"
  | text => "text"
  | float => "float"
  | bool => "boolean"

end Scalar

inductive ColumnType where
  | scalar (of : Scalar)
  | array (of : Scalar)
  /-- A type of the database, written verbatim. -/
  | written (sql : String)
  /-- One of the labels of a type created for this column. -/
  | enum (labels : List String)
  deriving DecidableEq, Repr

structure Column where
  name : String
  type : ColumnType
  deriving DecidableEq, Repr

namespace Column

def isEnum (c : Column) : Bool :=
  match c.type with
  | .enum _ => true
  | _ => false

/-- The labels of an enumeration, none for any other type. -/
def labels? (c : Column) : Option (List String) :=
  match c.type with
  | .enum labels => some labels
  | _ => none

end Column

/-- An index described by the columns it covers, in order. -/
structure IndexShape where
  fields : List String
  method : Option String := none
  predicate : Option String := none
  unique : Bool := false
  deriving DecidableEq, Repr

inductive Index where
  /-- A whole statement, used as it stands. -/
  | written (sql : String)
  | on (shape : IndexShape)
  deriving DecidableEq, Repr

namespace IndexShape

/-- An empty method or predicate counts as none. -/
def fragments (shape : IndexShape) (table : String) : List Fragment :=
  [.text "CREATE", .onlyIf shape.unique "UNIQUE", .text "INDEX", .led "ON" (.quoted table),
    .led "USING" (.text (shape.method.getD "")), .parens shape.fields,
    .led "WHERE" (.text (shape.predicate.getD ""))]

def render (shape : IndexShape) (table : String) : Except Fault String :=
  Fragment.join " " (shape.fragments table)

end IndexShape

namespace Index

def render (index : Index) (table : String) : Except Fault String :=
  match index with
  | written sql => .ok sql
  | on shape => shape.render table

/-- The columns that the index names, as far as its description tells. -/
def fields : Index → List String
  | written _ => []
  | on shape => shape.fields

end Index
end RowSql
