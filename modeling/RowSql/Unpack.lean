import RowSql.Cursor
import RowSql.Layout
import RowSql.Query

/-!
# Unpacking

Running a query on a cursor and making rows of what comes back. A query that cannot be
compiled leaves the cursor alone; once a statement has run, its result is drained
whether or not rows can be made of it.
-/
namespace RowSql

namespace Schema

/-- One row for each tuple, up to the first tuple that is too wide. -/
def rows (s : Schema) (tuples : Tuples) : Except Fault (List Row) := tuples.mapM (Row.ofTuple s)

end Schema

namespace Join

def totalWidth : List Schema → Nat
  | [] => 0
  | s :: rest => s.width + totalWidth rest

/-- Cut a tuple into one row for each schema, in order. -/
def cut : List Schema → List Value → Except Fault (List Row)
  | [], _ => .ok []
  | s :: rest, tuple => do
    let row ← Row.ofTuple s (tuple.take s.width)
    let later ← cut rest (tuple.drop s.width)
    return row :: later

/-- A tuple must be exactly as wide as all schemas together. -/
def split (schemas : List Schema) (tuple : List Value) : Except Fault (List Row) :=
  if tuple.length = totalWidth schemas then cut schemas tuple
  else .error (.misalignedTuple (totalWidth schemas) tuple.length)

end Join

namespace Cursor

/-- Compile a query for this cursor and run it; nothing runs when it does not compile. -/
def run (c : Cursor) (q : Query) : Outcome Statement :=
  match q.build c.marker with
  | .error fault => { result := .error fault, cursor := c }
  | .ok s =>
    let ran := c.execute s
    { ran with result := ran.result.map fun _ => s }

/-- Drain the cursor into rows. -/
def drain {α : Type} (c : Cursor) (read : Tuples → Except Fault α) : Outcome α :=
  let (tuples, rest) := c.fetchAll
  { result := read tuples, cursor := rest }

/-- Run a query, and drain what it leaves unless it failed. -/
def query {α : Type} (c : Cursor) (q : Query) (read : Tuples → Except Fault α) : Outcome α :=
  let ran := c.run q
  match ran.result with
  | .error fault => { ran with result := .error fault }
  | .ok _ => { ran.cursor.drain read with log := ran.log }

/-- The rows that a selection finds. Tuples are read by position, so whole rows must be
asked for. -/
def select (c : Cursor) (q : Select) : Outcome (List Row) :=
  if q.isWhole then c.query (.select q) q.schema.rows
  else { result := .error (.misuse .partialProjection), cursor := c }

/-- The rows with the given key. -/
def find (c : Cursor) (s : Schema) (values : List Value) : Outcome (List Row) :=
  match Select.byKey s values with
  | .error fault => { result := .error fault, cursor := c }
  | .ok q => c.select q

def splitAll (schemas : List Schema) (tuples : Tuples) : Except Fault (List (List Row)) :=
  tuples.mapM (Join.split schemas)

/-- The rows that a join finds, one of each schema for each tuple. -/
def join (c : Cursor) (q : Join) : Outcome (List (List Row)) :=
  c.query (.join q) (splitAll q.schemas)

/-- The same of a result that is waiting already. -/
def unpackJoined (c : Cursor) (schemas : List Schema) : Outcome (List (List Row)) :=
  c.drain (splitAll schemas)

/-- Read every waiting tuple with a layout. -/
def readAll (c : Cursor) (l : Layout) : Outcome (List (List Row)) :=
  c.drain fun tuples => tuples.mapM l.readTuple

end Cursor
end RowSql
