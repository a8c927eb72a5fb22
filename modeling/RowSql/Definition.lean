import RowSql.Catalog

/-!
# Definitions

The statements that create a table: one type for each enumeration, then the table, then
its indexes. A catalog is defined table by table in order of registration, so each type
is created before the table that uses it.
-/
namespace RowSql

namespace Schema

variable (s : Schema)

/-- The name of the type created for a column. -/
def enumName (c : Column) : String := s.table ++ "_" ++ c.name

/-- The same, as it is quoted. -/
def enumTypeName (c : Column) : Except Fault String := Fragment.quoteName (s.enumName c)

def columnType (c : Column) : Except Fault String :=
  match c.type with
  | .scalar of => .ok of.sqlName
  | .array of => .ok (of.sqlName ++ "[]")
  | .written sql => .ok sql
  | .enum _ => s.enumTypeName c

def columnClause (c : Column) : Except Fault String := do
  let type ← s.columnType c
  return c.name ++ " " ++ type

def labelLiteral (label : String) : String := "'" ++ label ++ "'"

def createType (c : Column) (labels : List String) : Except Fault String := do
  let name ← s.enumTypeName c
  Fragment.join " " [.text "CREATE TYPE", .text name, .text "AS ENUM",
    .parens (labels.map labelLiteral)]

/-- The enumerated columns with their labels. -/
def enums : List (Column × List String) :=
  s.columns.filterMap fun c => c.labels?.map (c, ·)

def createTypes : Except Fault (List String) :=
  s.enums.mapM fun e => s.createType e.1 e.2

def keyClause : List String :=
  if s.key = [] then [] else ["PRIMARY KEY " ++ Fragment.parenthesized s.key]

def createTable : Except Fault String := do
  let columns ← s.columns.mapM s.columnClause
  let table ← Fragment.quoteName s.table
  return "CREATE TABLE " ++ table ++ " (" ++ ", ".intercalate (columns ++ s.keyClause) ++ ")"

def createIndexes : Except Fault (List String) := s.indexes.mapM (·.render s.table)

def definition : Except Fault (List String) := do
  let table ← s.createTable
  let types ← s.createTypes
  let indexes ← s.createIndexes
  return types ++ table :: indexes

end Schema

namespace Catalog

/-- The definitions of all tables, with the event that reports them. -/
def definition (c : Catalog) : Except Fault (List String × Event) := do
  let blocks ← c.entries.mapM fun d => d.schema.definition
  let statements := blocks.flatten
  return (statements, .defined c.size statements.length)

end Catalog
end RowSql
