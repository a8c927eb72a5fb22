import RowSql.Row

/-!
# Written rows

`display` is the text meant for reading, `inspect` the one that shows the shape of a row.
Both name every column in declaration order, unsupplied ones included.
-/
namespace RowSql
namespace Row

variable (r : Row)

/-- The cells with the names of their columns. -/
def namedCells : List (String × Cell) := r.schema.columnNames.zip r.cells

def display : String :=
  "<" ++ r.schema.name ++
    String.join (r.namedCells.map fun p => " " ++ p.1 ++ "=" ++ p.2.display) ++ ">"

/-- A row without columns is its schema's name alone. -/
def inspect : String :=
  if r.namedCells = [] then r.schema.name
  else r.schema.name ++ " \x7b " ++
    ", ".intercalate (r.namedCells.map fun p => p.1 ++ ": " ++ p.2.inspect) ++ " \x7d"

end Row
end RowSql
