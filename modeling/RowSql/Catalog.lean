import RowSql.Event
import RowSql.Schema

/-!
# Catalogs

Schemas by table name, in order of registration. The first schema of a table stays: a
later one is refused and leaves the catalog as it was. The schemas stand in one list, and
a second list says for each table where its schema stands, so a look-up reads a place and
then the entry at it. A catalog carries what ties the two together: the place of a table
is that of its entry, and no two entries have the same table.
-/
namespace RowSql

structure Catalog where
  entries : List Declared
  /-- Each table with the place of its schema among the entries. -/
  places : List (String × Nat)
  tables_distinct : (entries.map fun d => d.schema.table).Nodup
  lookup_places : ∀ table, places.lookup table = entries.findIdx? (·.schema.table == table)

namespace Catalog

def empty : Catalog := ⟨[], [], by simp, by simp⟩

variable (c : Catalog)

def size : Nat := c.entries.length

def place? (table : String) : Option Nat := c.places.lookup table

def find? (table : String) : Option Declared := (c.place? table).bind (c.entries[·]?)

def contains (table : String) : Bool := (c.place? table).isSome

/-- Whether this very declaration is in the catalog, not just one of the same table. -/
def holds (d : Declared) : Bool := c.find? d.schema.table == some d

theorem place?_eq_none {table : String} :
    c.place? table = none ↔ table ∉ c.entries.map fun d => d.schema.table := by
  simp [place?, c.lookup_places, List.findIdx?_eq_none_iff]

/-- There is an entry at every place. -/
theorem lt_length_of_place? {table : String} {place : Nat} (h : c.place? table = some place) :
    place < c.entries.length := by
  rw [place?, c.lookup_places] at h
  exact (List.findIdx?_eq_some_iff_getElem.1 h).1

/-- Tables stay distinct when a schema of a new table is added. -/
theorem nodup_tables_append {d : Declared} (h : c.place? d.schema.table = none) :
    ((c.entries ++ [d]).map fun d => d.schema.table).Nodup := by
  simpa [List.nodup_append, c.tables_distinct] using c.place?_eq_none.1 h

/-- The place of a new table is behind all others. -/
theorem lookup_places_cons {d : Declared} (h : c.place? d.schema.table = none) (table : String) :
    ((d.schema.table, c.size) :: c.places).lookup table =
      (c.entries ++ [d]).findIdx? (·.schema.table == table) := by
  rw [place?, c.lookup_places] at h
  rw [List.lookup_cons, c.lookup_places, List.findIdx?_append]
  by_cases ht : table = d.schema.table
  · subst ht
    simp [h, size]
  · rw [beq_false_of_ne ht]
    simp [Ne.symm ht]

/-- Add a schema at the end, unless its table is taken. -/
def register (d : Declared) : Except Fault (Catalog × Event) :=
  match h : c.place? d.schema.table with
  | some place =>
    have inside := c.lt_length_of_place? h
    .error (.duplicateTable d.schema.table c.entries[place].schema.origin.shown)
  | none =>
    .ok (⟨c.entries ++ [d], (d.schema.table, c.size) :: c.places, c.nodup_tables_append h,
        c.lookup_places_cons h⟩,
      .registered d.schema.table d.schema.width d.schema.origin.shown)

/-- Check a declaration and register the schema under the number of the declaration. -/
def declare (serial : Nat) (d : Declaration) :
    StateM Catalog (Except Fault (Declared × Event)) := do
  match d.build with
  | .error fault => return .error fault
  | .ok schema =>
    match (← get).register ⟨serial, schema⟩ with
    | .error fault => return .error fault
    | .ok (c, event) =>
      set c
      return .ok (⟨serial, schema⟩, event)

end Catalog
end RowSql
