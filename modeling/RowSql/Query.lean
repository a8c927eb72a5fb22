import RowSql.Query.Template
import RowSql.Row

/-!
# Queries

The four statements that a schema gives rise to. Each has a `fault?`, which says why it
cannot be compiled, and `pieces`, its text with the bound values in place. A query
compiles exactly when it has no fault, whatever the markers.
-/
namespace RowSql

/-- What stands in the list of values for a column: a parameter or an expression. -/
inductive Entry where
  | bound (v : Value)
  | written (sql : String)
  deriving DecidableEq, Repr

/-- An insertion of one row, with expressions for some columns. -/
structure Insert where
  row : Row
  returning : List String := []
  written : List (String × String) := []

/-- A selection by equalities. -/
structure Select where
  schema : Schema
  conditions : Bindings
  fields : List String := ["*"]
  forUpdate : Bool := false
  limit : Option Nat := none
  order : Option String := none

/-- An update by equalities. -/
structure Update where
  schema : Schema
  conditions : Bindings
  assignments : Bindings

/-- A natural join of tables with the same key. -/
structure Join where
  schemas : List Schema
  conditions : Bindings

/-- The first of `fields` that the schema does not declare. -/
def Schema.undeclared? (s : Schema) (fields : List String) : Option Fault :=
  Declaration.undeclared? s.name s.columnNames fields

theorem Schema.undeclared?_eq_none {s : Schema} {fields : List String} :
    s.undeclared? fields = none ↔ ∀ f ∈ fields, f ∈ s.columnNames :=
  Declaration.undeclared?_eq_none

namespace Insert

variable (q : Insert)

/-- An expression takes the place of an entry of the same name, or goes to the end. -/
def addWritten (entries : List (String × Entry)) (w : String × String) : List (String × Entry) :=
  if w.1 ∈ entries.map Prod.fst then
    entries.map fun e => if e.1 = w.1 then (e.1, .written w.2) else e
  else entries ++ [(w.1, .written w.2)]

/-- The columns of the statement with their entries. -/
def entries : List (String × Entry) :=
  q.written.foldl addWritten (q.row.bound.map fun p => (p.1, .bound p.2))

def fault? : Option Fault := q.written.findSome? fun w => Name.fault? w.1

def entryPiece : Entry → Piece
  | .bound v => .bind v
  | .written sql => .text sql

def valuesPieces (entries : List (String × Entry)) : Template :=
  if entries = [] then [.text " default values"]
  else
    .text (" (" ++ ",".intercalate (entries.map Prod.fst) ++ ") values (") ::
      ((entries.map fun e => entryPiece e.2).intersperse (.text ",") ++ [.text ")"])

def returningPieces (columns : List String) : Template :=
  if columns = [] then [] else [.text (" returning " ++ ",".intercalate columns)]

def pieces : Template :=
  .text ("insert into " ++ q.row.schema.table) ::
    (valuesPieces q.entries ++ returningPieces q.returning)

end Insert

namespace Select

/-- The selection of the row with the given key. -/
def byKey (s : Schema) (values : List Value) : Except Fault Select := do
  let conditions ← s.keyBindings values
  return { schema := s, conditions }

variable (q : Select)

/-- Whether whole rows are asked for, one column for each column of the schema. -/
def isWhole : Bool := q.fields == ["*"]

def fault? : Option Fault :=
  ((if q.fields = [] then some (.misuse .emptyProjection) else none).or
    (q.schema.undeclared? (q.fields.filter (· ≠ "*")))).or
    (q.schema.undeclared? q.conditions.keys)

def orderText : String :=
  match q.order with
  | some order => " order by " ++ order
  | none => ""

def limitText : String :=
  match q.limit with
  | some limit => " limit " ++ String.ofList (Nat.toDigits 10 limit)
  | none => ""

def lockText : String := if q.forUpdate then " for update" else ""

def pieces : Template :=
  .text ("select " ++ ",".intercalate q.fields ++ " from " ++ q.schema.table) ::
    (Template.conditions q.conditions ++ [.text (q.orderText ++ q.limitText ++ q.lockText)])

end Select

namespace Update

variable (q : Update)

def fault? : Option Fault :=
  ((if q.assignments = [] then some (.misuse .emptyAssignment) else none).or
    (q.schema.undeclared? q.assignments.keys)).or
    (q.schema.undeclared? q.conditions.keys)

def pieces : Template :=
  .text ("update " ++ q.schema.table ++ " set ") ::
    (Template.assignments "," q.assignments ++ Template.conditions q.conditions)

end Update

namespace Join

variable (q : Join)

/-- The first condition on a column of none of the schemas; the first schema is blamed. -/
def strayCondition? (first : Schema) : Option Fault :=
  q.conditions.keys.findSome? fun k =>
    if q.schemas.any (·.hasField k) then none else some (first.unknown k)

def fault? : Option Fault :=
  match q.schemas with
  | [] | [_] => some (.misuse .joinOfFewerThanTwo)
  | first :: rest =>
    if first.key = [] then some (.misuse (.joinWithoutKey first.name))
    else match rest.find? (·.key ≠ first.key) with
      | some other => some (.joinKeyMismatch first.name other.name)
      | none => q.strayCondition? first

def stars : String := ",".intercalate (q.schemas.map fun s => s.table ++ ".*")

/-- Each further table is joined on the key that all of them share. -/
def tables : List Schema → String
  | [] => ""
  | first :: rest =>
    first.table ++ String.join (rest.map fun s =>
      " join " ++ s.table ++ " using (" ++ ",".intercalate first.key ++ ")")

def pieces : Template :=
  .text ("select " ++ q.stars ++ " from " ++ tables q.schemas) :: Template.conditions q.conditions

end Join

inductive Query where
  | insert (q : Insert)
  | select (q : Select)
  | update (q : Update)
  | join (q : Join)

namespace Query

def fault? : Query → Option Fault
  | insert q => q.fault?
  | select q => q.fault?
  | update q => q.fault?
  | join q => q.fault?

def pieces : Query → Template
  | insert q => q.pieces
  | select q => q.pieces
  | update q => q.pieces
  | join q => q.pieces

def template (q : Query) : Except Fault Template :=
  match q.fault? with
  | some fault => .error fault
  | none => .ok q.pieces

/-- Compile with the given markers. -/
def build (q : Query) (m : Marker) : Except Fault Statement := q.template.map (Template.render m)

theorem build_eq_error {q : Query} {m : Marker} {fault : Fault} :
    q.build m = .error fault ↔ q.fault? = some fault := by
  unfold build template
  split <;> simp_all [Except.map]

theorem build_eq_ok {q : Query} {m : Marker} {s : Statement} :
    q.build m = .ok s ↔ q.fault? = none ∧ q.pieces.render m = s := by
  unfold build template
  split <;> simp_all [Except.map]

end Query
end RowSql
