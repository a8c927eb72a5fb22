import RowSql.Bindings
import RowSql.Column
import RowSql.Name

/-!
# Schemas

A declaration says what a table is; a schema is a declaration that has been checked and
carries the proof that it is well formed. Checking goes from the name over the columns
and the key to the indexes, and reports the first thing that is wrong. Main statement:
a declaration has no fault exactly when it is well formed.
-/
namespace RowSql

/-- Where a schema was declared, as it is shown. -/
structure Origin where
  shown : String
  deriving DecidableEq, Repr

namespace Origin

def named (text : String) : Origin := ⟨text⟩

/-- Without a name, the place in the program that builds the schema. -/
def callSite (file : String) (line : Nat) : Origin := ⟨s!"{file}:{line}"⟩

end Origin

structure Declaration where
  name : String
  columns : List Column
  key : List String
  indexes : List Index
  origin : Origin
  deriving DecidableEq, Repr

namespace Declaration

variable (d : Declaration)

def table : String := tableName d.name

def columnNames : List String := d.columns.map Column.name

/-- Each label against the ones before it. -/
def labelFault? (schema field : String) : List String → List String → Option Fault
  | _, [] => none
  | seen, label :: rest =>
    ((Label.fault? label).or
      (if label ∈ seen then some (.misuse (.repeatedLabel schema field label)) else none)).or
      (labelFault? schema field (label :: seen) rest)

def enumFault? (schema : String) (c : Column) : Option Fault :=
  match c.labels? with
  | none => none
  | some [] => some (.misuse (.enumWithoutLabels schema c.name))
  | some labels => labelFault? schema c.name [] labels

/-- Each column against the names before it. -/
def columnFault? (schema : String) : List String → List Column → Option Fault
  | _, [] => none
  | seen, c :: rest =>
    (((Name.fault? c.name).or
      (if c.name ∈ seen then some (.duplicateField schema c.name) else none)).or
      (enumFault? schema c)).or
      (columnFault? schema (c.name :: seen) rest)

/-- Each key field must be a column and differ from the key fields before it. -/
def keyFault? (schema : String) (names : List String) : List String → List String → Option Fault
  | _, [] => none
  | seen, k :: rest =>
    ((if k ∈ names then none else some (.unknownField schema k)).or
      (if k ∈ seen then some (.duplicateField schema k) else none)).or
      (keyFault? schema names (k :: seen) rest)

/-- The first of `fields` that is not among `names`. -/
def undeclared? (schema : String) (names : List String) (fields : List String) : Option Fault :=
  fields.findSome? fun f => if f ∈ names then none else some (.unknownField schema f)

/-- The first thing that is wrong with a declaration. -/
def fault? : Option Fault :=
  ((((Name.fault? d.name).or (Name.fault? d.table)).or
    (columnFault? d.name [] d.columns)).or
    (keyFault? d.name d.columnNames [] d.key)).or
    (undeclared? d.name d.columnNames (d.indexes.flatMap Index.fields))

/-- Labels that can make up an enumeration. -/
structure LabelsWellFormed (labels : List String) : Prop where
  nonempty : labels ≠ []
  distinct : labels.Nodup
  quotable : ∀ label ∈ labels, Label.IsQuotable label

structure WellFormed : Prop where
  name_plain : Name.IsPlain d.name
  table_plain : Name.IsPlain d.table
  columns_plain : ∀ c ∈ d.columns, Name.IsPlain c.name
  columns_distinct : d.columnNames.Nodup
  labels_wellFormed : ∀ c ∈ d.columns, ∀ labels, c.labels? = some labels → LabelsWellFormed labels
  key_declared : ∀ k ∈ d.key, k ∈ d.columnNames
  key_distinct : d.key.Nodup
  indexes_declared : ∀ index ∈ d.indexes, ∀ f ∈ index.fields, f ∈ d.columnNames

theorem labelFault?_eq_none {schema field : String} {seen labels : List String} :
    labelFault? schema field seen labels = none ↔
      labels.Nodup ∧ (∀ l ∈ labels, l ∉ seen) ∧ ∀ l ∈ labels, Label.IsQuotable l := by
  induction labels generalizing seen with
  | nil => simp [labelFault?]
  | cons l rest ih =>
    simp only [labelFault?, Option.or_eq_none_iff, Label.fault?_eq_none, ih, List.nodup_cons,
      List.mem_cons, not_or]
    grind

theorem enumFault?_eq_none {schema : String} {c : Column} :
    enumFault? schema c = none ↔ ∀ labels, c.labels? = some labels → LabelsWellFormed labels := by
  unfold enumFault?
  split
  · simp_all
  · rename_i h
    simp only [h, Option.some.injEq, forall_eq', reduceCtorEq, false_iff]
    exact fun w => w.nonempty rfl
  · rename_i labels hne h
    simp only [h, Option.some.injEq, forall_eq', labelFault?_eq_none]
    constructor
    · exact fun ⟨hd, _, hq⟩ => ⟨by rintro rfl; exact hne rfl, hd, hq⟩
    · exact fun w => ⟨w.distinct, by simp, w.quotable⟩

theorem columnFault?_eq_none {schema : String} {seen : List String} {columns : List Column} :
    columnFault? schema seen columns = none ↔
      (∀ c ∈ columns, Name.IsPlain c.name) ∧ (columns.map Column.name).Nodup ∧
      (∀ c ∈ columns, c.name ∉ seen) ∧
      ∀ c ∈ columns, ∀ labels, c.labels? = some labels → LabelsWellFormed labels := by
  induction columns generalizing seen with
  | nil => simp [columnFault?]
  | cons c rest ih =>
    simp only [columnFault?, Option.or_eq_none_iff, Name.fault?_eq_none, enumFault?_eq_none, ih,
      List.map_cons, List.nodup_cons, List.mem_cons, not_or, List.mem_map]
    grind

theorem keyFault?_eq_none {schema : String} {names seen key : List String} :
    keyFault? schema names seen key = none ↔
      (∀ k ∈ key, k ∈ names) ∧ key.Nodup ∧ ∀ k ∈ key, k ∉ seen := by
  induction key generalizing seen with
  | nil => simp [keyFault?]
  | cons k rest ih =>
    simp only [keyFault?, Option.or_eq_none_iff, ih, List.nodup_cons, List.mem_cons, not_or]
    grind

theorem undeclared?_eq_none {schema : String} {names fields : List String} :
    undeclared? schema names fields = none ↔ ∀ f ∈ fields, f ∈ names := by
  simp [undeclared?, List.findSome?_eq_none_iff]

theorem fault?_eq_none : d.fault? = none ↔ d.WellFormed := by
  simp only [fault?, Option.or_eq_none_iff, Name.fault?_eq_none, columnFault?_eq_none,
    keyFault?_eq_none, undeclared?_eq_none, List.mem_flatMap]
  constructor
  · rintro ⟨⟨⟨⟨h1, h2⟩, h3, h4, -, h5⟩, h6, h7, -⟩, h8⟩
    exact ⟨h1, h2, h3, h4, h5, h6, h7, fun index hi f hf => h8 f ⟨index, hi, hf⟩⟩
  · rintro ⟨h1, h2, h3, h4, h5, h6, h7, h8⟩
    refine ⟨⟨⟨⟨h1, h2⟩, h3, h4, by simp, h5⟩, h6, h7, by simp⟩, ?_⟩
    rintro f ⟨index, hi, hf⟩
    exact h8 index hi f hf

end Declaration

/-- A declaration that has been checked. -/
structure Schema extends Declaration where
  wellFormed : toDeclaration.WellFormed
  deriving DecidableEq

namespace Declaration

/-- Check a declaration. -/
def build (d : Declaration) : Except Fault Schema :=
  match h : d.fault? with
  | some fault => .error fault
  | none => .ok ⟨d, d.fault?_eq_none.1 h⟩

theorem build_eq_ok {d : Declaration} {s : Schema} : d.build = .ok s ↔ s.toDeclaration = d := by
  unfold build
  split
  · rename_i fault h
    simp only [reduceCtorEq, false_iff]
    rintro rfl
    simp [s.fault?_eq_none.2 s.wellFormed] at h
  · cases s
    simp [eq_comm]

theorem build_eq_error {d : Declaration} {fault : Fault} :
    d.build = .error fault ↔ d.fault? = some fault := by
  unfold build
  split <;> simp_all

end Declaration

namespace Schema

variable (s : Schema)

/-- The number of columns, which is the width of a whole row. -/
def width : Nat := s.columns.length

/-- The place of a column in declaration order. -/
def position? (field : String) : Option Nat := s.columns.findIdx? (·.name == field)

def hasField (field : String) : Bool := (s.position? field).isSome

def unknown (field : String) : Fault := .unknownField s.name field

def requireField (field : String) : Except Fault Nat :=
  match s.position? field with
  | some place => .ok place
  | none => .error (s.unknown field)

/-- The conditions that single out one row by its key. -/
def keyBindings (values : List Value) : Except Fault Bindings :=
  if values.length = s.key.length then .ok (s.key.zip values)
  else .error (.keyMismatch s.key values)

@[simp] theorem length_columnNames : s.columnNames.length = s.width := by
  simp [Declaration.columnNames, width]

theorem position?_eq_none {field : String} :
    s.position? field = none ↔ field ∉ s.columnNames := by
  simp [position?, Declaration.columnNames, List.findIdx?_eq_none_iff]

theorem hasField_iff {field : String} : s.hasField field = true ↔ field ∈ s.columnNames := by
  rw [hasField, Option.isSome_iff_ne_none, ne_eq, position?_eq_none, Decidable.not_not]

end Schema

/-- A schema together with the number of its declaration, by which two declarations of
the same words are told apart. -/
structure Declared where
  serial : Nat
  schema : Schema
  deriving DecidableEq

end RowSql
