import RowSql.Schema

/-!
# Rows

A row has one cell for each column of its schema. Cells are bound by position from the
left, then by name; a name can be bound once, and can be set again afterwards.
-/
namespace RowSql

structure Row where
  schema : Schema
  cells : List Cell
  length_cells : cells.length = schema.width
  deriving DecidableEq

namespace Row

/-- Bind values from the left; the columns beyond them stay unsupplied. -/
def ofTuple (s : Schema) (values : List Value) : Except Fault Row :=
  if h : values.length ≤ s.width then
    .ok ⟨s, values.map some ++ List.replicate (s.width - values.length) none, by simp; omega⟩
  else .error (.tooManyValues s.name values.length s.width)

variable (r : Row)

/-- Put a value into the cell at a place. -/
def put (place : Nat) (v : Value) : Row :=
  ⟨r.schema, r.cells.set place (some v), by simp [r.length_cells]⟩

def undeclared (field : String) : Fault := .undeclaredField r.schema.name field

/-- Bind a column that is not bound yet. -/
def bind (field : String) (v : Value) : Except Fault Row :=
  match r.schema.position? field with
  | none => .error (r.undeclared field)
  | some place =>
    match r.cells[place]? with
    | some (some _) => .error (.alreadyBound field place)
    | _ => .ok (r.put place v)

/-- Set a column, bound or not. -/
def set (field : String) (v : Value) : Except Fault Row :=
  match r.schema.position? field with
  | none => .error (r.undeclared field)
  | some place => .ok (r.put place v)

/-- Set columns in order, up to the first that is not declared. What was set before it
stays set. -/
def setAll : Row → Bindings → Row × Option Fault
  | r, [] => (r, none)
  | r, (field, v) :: rest =>
    match r.set field v with
    | .ok r => r.setAll rest
    | .error fault => (r, some fault)

/-- Bind positional values, then named ones in order. -/
def construct (s : Schema) (positional : List Value) (named : Bindings) : Except Fault Row := do
  let start ← ofTuple s positional
  named.foldlM (fun r p => r.bind p.1 p.2) start

def ofNamed (s : Schema) (named : Bindings) : Except Fault Row := construct s [] named

/-- The cell at a place, unsupplied where there is none. -/
def cellAt (place : Nat) : Cell := r.cells[place]?.join

def get (field : String) : Except Fault Cell := do
  let place ← r.schema.requireField field
  return r.cellAt place

/-- The value of a column, if the column is declared and bound. -/
def value? (field : String) : Option Value :=
  (r.schema.position? field).bind r.cellAt

/-- The cells of the key, in key order. -/
def keyCells : List Cell := (r.schema.key.filterMap r.schema.position?).map r.cellAt

/-- The bound columns with their values, in declaration order. -/
def bound : Bindings :=
  (r.schema.columnNames.zip r.cells).filterMap fun p => p.2.map (p.1, ·)

/-- Rows are compared cell by cell, whatever their schemas. -/
def eqv (other : Row) : Bool :=
  r.cells.length == other.cells.length &&
    (r.cells.zip other.cells).all fun p => p.1.eqv p.2

@[simp] theorem schema_put (place : Nat) (v : Value) : (r.put place v).schema = r.schema := rfl

@[simp] theorem cells_put (place : Nat) (v : Value) :
    (r.put place v).cells = r.cells.set place (some v) := rfl

/-- The cell that was written holds the new value. -/
theorem cellAt_put_self {place : Nat} (h : place < r.schema.width) (v : Value) :
    (r.put place v).cellAt place = some v := by
  simp [cellAt, r.length_cells, h]

/-- Every other cell stays as it was. -/
theorem cellAt_put_of_ne {place other : Nat} (h : place ≠ other) (v : Value) :
    (r.put place v).cellAt other = r.cellAt other := by
  simp [cellAt, h]

theorem cells_of_ofTuple {s : Schema} {values : List Value} {r : Row}
    (h : ofTuple s values = .ok r) :
    r.schema = s ∧
      r.cells = values.map some ++ List.replicate (s.width - values.length) none := by
  unfold ofTuple at h
  split at h
  · cases h
    exact ⟨rfl, rfl⟩
  · cases h

end Row
end RowSql
