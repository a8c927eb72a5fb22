import RowSql.Row

/-!
# Layouts

Which column of a result belongs to which field of which schema. A layout is read off a
list of entries: a field, all fields of a schema, or a column to skip. Each field of a
declaration can be mapped once, and reading a tuple gives one row for each declaration
that owns a column, in the order of their first columns.
-/
namespace RowSql

/-- What a result column holds: a field of a schema, or something to skip. -/
abbrev Slot := Option (Declared × String)

structure Layout where
  columns : List Slot
  declared : ∀ d f, some (d, f) ∈ columns → f ∈ d.schema.columnNames
  distinct : (columns.filterMap id).Nodup

namespace Layout

/-- The columns of one entry, a star standing for all fields in order. -/
def expand : Slot → List Slot
  | none => [none]
  | some (d, f) =>
    if f = "*" then d.schema.columnNames.map fun name => some (d, name) else [some (d, f)]

def entryFault? : Slot → Option Fault
  | none => none
  | some (d, f) => if f = "*" ∨ f ∈ d.schema.columnNames then none else some (d.schema.unknown f)

/-- The first field that an earlier column has taken already. -/
def repeated? : List (Declared × String) → List (Declared × String) → Option (Declared × String)
  | _, [] => none
  | seen, e :: rest => if e ∈ seen then some e else repeated? (e :: seen) rest

theorem repeated?_eq_none {seen entries : List (Declared × String)} :
    repeated? seen entries = none ↔ entries.Nodup ∧ ∀ e ∈ entries, e ∉ seen := by
  induction entries generalizing seen with
  | nil => simp [repeated?]
  | cons e rest ih =>
    simp only [repeated?, List.nodup_cons, List.mem_cons]
    split
    · grind
    · rw [ih]
      grind

/-- Why entries make no layout: a field that is not declared is reported before one that
is mapped twice. -/
def fault? (entries : List Slot) : Option Fault :=
  (entries.findSome? entryFault?).or
    ((repeated? [] ((entries.flatMap expand).filterMap id)).map fun e =>
      .duplicateField e.1.schema.name e.2)

theorem declared_of_mem_expand {entry : Slot} (h : entryFault? entry = none) {d : Declared}
    {f : String} (hm : some (d, f) ∈ expand entry) : f ∈ d.schema.columnNames := by
  unfold expand at hm
  unfold entryFault? at h
  split at hm
  · simp at hm
  · split at hm
    · simp only [List.mem_map, Option.some.injEq, Prod.mk.injEq] at hm
      obtain ⟨name, hn, rfl, rfl⟩ := hm
      exact hn
    · simp_all

theorem declared_of_fault? {entries : List Slot} (h : fault? entries = none) (d : Declared)
    (f : String) (hm : some (d, f) ∈ entries.flatMap expand) : f ∈ d.schema.columnNames := by
  simp only [fault?, Option.or_eq_none_iff, List.findSome?_eq_none_iff] at h
  obtain ⟨entry, he, hm⟩ := List.mem_flatMap.1 hm
  exact declared_of_mem_expand (h.1 entry he) hm

theorem distinct_of_fault? {entries : List Slot} (h : fault? entries = none) :
    ((entries.flatMap expand).filterMap id).Nodup := by
  simp only [fault?, Option.or_eq_none_iff, Option.map_eq_none_iff] at h
  exact (repeated?_eq_none.1 h.2).1

/-- Read a layout off its entries. -/
def ofEntries (entries : List Slot) : Except Fault Layout :=
  match h : fault? entries with
  | some fault => .error fault
  | none => .ok ⟨entries.flatMap expand, declared_of_fault? h, distinct_of_fault? h⟩

variable (l : Layout)

/-- The number of columns, skipped ones included. -/
def width : Nat := l.columns.length

/-- The declarations that own a column, in the order of their first columns. -/
def owners : List Declared := ((l.columns.filterMap id).map Prod.fst).eraseDups

/-- The fields that a tuple holds for one declaration. -/
def share (d : Declared) (tuple : List Value) : Bindings :=
  (l.columns.zip tuple).filterMap fun p =>
    match p.1 with
    | some (owner, f) => if owner = d then some (f, p.2) else none
    | none => none

/-- Split a tuple into one row for each owner; fields without a column stay unsupplied. -/
def readTuple (tuple : List Value) : Except Fault (List Row) :=
  if tuple.length < l.width then .error (.narrowTuple l.width tuple.length)
  else l.owners.mapM fun d => Row.ofNamed d.schema (l.share d tuple)

end Layout
end RowSql
