import RowSql.Proofs.Catalog.CreatedNames
import RowSql.Proofs.Catalog.Registrations

/-!
# Blocks of a definition

The definition of a catalog falls into one block for each schema: the types of its
enumerations, the table, the indexes. The types and the columns are gone through one after the
other and name the same types each time. Main statement: the types that a table takes from its
enumerations are those that the statements before it create, in the same order, and a
registration adds one block behind all others or, when it is refused, nothing. A type that is
written out is taken as it stands, and nothing keeps it from being created later or not at all.
-/
namespace RowSql

namespace Column

/-- Whether the type of a column is written out. -/
def isWritten (c : Column) : Bool :=
  match c.type with
  | .written _ => true
  | _ => false

end Column

/-- The name between double quotes at the beginning of a type, if it begins with one. -/
def quotedName? (type : String) : Option String :=
  (type.toList.dropPrefix? ['"']).map fun rest => String.ofList (rest.takeWhile (· ≠ '"'))

theorem quotedName?_inQuotes {name : String} (h : Over (· ≠ '"') name) :
    quotedName? (Fragment.inQuotes name) = some name := by
  have htext : (Fragment.inQuotes name).toList = ['"'] ++ (name.toList ++ ['"']) := by
    simp [Fragment.inQuotes, Fragment.doubleQuote]
  rw [quotedName?, htext, List.dropPrefix?_append_of_beq _ BEq.rfl, Option.map_some,
    takeWhile_quoted h, String.ofList_toList]

/-- The types that the database has built in are not quoted. -/
theorem quotedName?_sqlName (of : Scalar) :
    quotedName? of.sqlName = none ∧ quotedName? (of.sqlName ++ "[]") = none := by
  cases of <;> decide

namespace Schema

variable (s : Schema)

/-- The quoted names among the types of some columns. -/
def quotedTypes (columns : List Column) : List String :=
  columns.filterMap fun c => quotedName? (s.typeText c)

/-- The type of a column that is not written out is quoted when it is an enumeration. -/
theorem quotedName?_typeText {c : Column} (h : c ∈ s.columns) (hwritten : c.isWritten = false) :
    quotedName? (s.typeText c) = c.labels?.map fun _ => s.enumName c := by
  unfold Column.isWritten at hwritten
  unfold typeText Column.labels?
  cases htype : c.type with
  | scalar of => exact (quotedName?_sqlName of).1
  | array of => exact (quotedName?_sqlName of).2
  | written sql => simp [htype] at hwritten
  | enum labels => exact quotedName?_inQuotes (s.over_enumName h)

theorem labels?_of_isWritten {c : Column} (h : c.isWritten = true) : c.labels? = none := by
  unfold Column.isWritten at h
  unfold Column.labels?
  split at h
  · simp_all
  · simp at h

/-- Both ways through the columns come to the same names. -/
theorem quotedTypes_eq_enumNames :
    s.quotedTypes (s.columns.filter fun c => !c.isWritten) =
      s.enums.map fun e => s.enumName e.1 := by
  have hcolumns : ∀ columns : List Column, (∀ c ∈ columns, c ∈ s.columns) →
      s.quotedTypes (columns.filter fun c => !c.isWritten) =
        (columns.filterMap fun c => c.labels?.map (c, ·)).map fun e => s.enumName e.1 := by
    intro columns hsubset
    induction columns with
    | nil => rfl
    | cons c rest ih =>
      obtain ⟨hc, hrest⟩ := List.forall_mem_cons.1 hsubset
      have htail := ih hrest
      unfold quotedTypes at htail ⊢
      cases hwritten : c.isWritten with
      | true =>
        rw [List.filter_cons_of_neg (by simp [hwritten]), List.filterMap_cons,
          labels?_of_isWritten hwritten]
        exact htail
      | false =>
        rw [List.filter_cons_of_pos (by simp [hwritten]), List.filterMap_cons,
          s.quotedName?_typeText hc hwritten, List.filterMap_cons, htail]
        cases c.labels? <;> rfl
  exact hcolumns s.columns fun _ h => h

/-- There is one statement of a type for each enumeration, in the order of the columns. -/
theorem map_fst_enums : s.enums.map Prod.fst = s.columns.filter Column.isEnum := by
  rw [enums, List.map_filterMap]
  induction s.columns with
  | nil => rfl
  | cons c rest ih =>
    rw [List.filterMap_cons, List.filter_cons, ih]
    unfold Column.labels? Column.isEnum
    cases c.type <;> rfl

/-- A statement of a type creates the type that the table uses in the same place. -/
theorem map_createdName?_types : (s.enums.map s.typeStatement).map createdName? =
    (s.quotedTypes (s.columns.filter fun c => !c.isWritten)).map some := by
  rw [quotedTypes_eq_enumNames, List.map_map, List.map_map]
  apply List.map_congr_left
  intro e he
  rw [Function.comp, s.createdName?_typeStatement he]
  rfl

end Schema

namespace Catalog

/-- Every catalog can be defined, block by block. Each block creates the types that its table
takes from enumerations before the table, in the order of the columns. A registration puts one
block behind the others, and a refused one changes nothing. -/
theorem defined_in_blocks (r : Registrations) (d : Declared) :
    (∃ event, r.catalog.definition =
        .ok (r.catalog.entries.flatMap fun d => d.schema.block, event)) ∧
      (∀ s : Schema, s.block = s.enums.map s.typeStatement ++
          s.tableStatement :: s.indexes.map (Index.statement s.table) ∧
        s.enums.map Prod.fst = s.columns.filter Column.isEnum ∧
        (∀ c ∈ s.columns, s.columnType c = .ok (s.typeText c)) ∧
        (s.enums.map s.typeStatement).map createdName? =
          (s.quotedTypes (s.columns.filter fun c => !c.isWritten)).map some) ∧
      ((∃ c event, r.catalog.register d = .ok (c, event)) →
        ∃ event, (r.call d).catalog.definition =
          .ok ((r.catalog.entries.flatMap fun d => d.schema.block) ++ d.schema.block, event)) ∧
      ((∃ fault, r.catalog.register d = .error fault) →
        (r.call d).catalog.definition = r.catalog.definition) := by
  refine ⟨⟨_, r.catalog.definition_eq_ok⟩, ?_, ?_, ?_⟩
  · intro s
    exact ⟨rfl, s.map_fst_enums, fun c hc => s.columnType_eq_ok hc, s.map_createdName?_types⟩
  · rintro ⟨c, event, hok⟩
    have hdefined := c.definition_eq_ok
    rw [statements, r.catalog.entries_of_register hok, List.flatMap_append,
      List.flatMap_singleton] at hdefined
    rw [Registrations.call_of_ok hok]
    exact ⟨_, hdefined⟩
  · rintro ⟨fault, herror⟩
    rw [Registrations.call_of_error herror]

/-- A table with a column of a type that another table creates. -/
def borrowing : Declared :=
  let d : Declaration :=
    ⟨"Label", [⟨"size", .written "\"shirt_size\""⟩], [], [], .named "here"⟩
  ⟨0, d, d.fault?_eq_none.1 (by decide)⟩

/-- The table whose enumeration that is. -/
def lending : Declared :=
  let d : Declaration := ⟨"Shirt", [⟨"size", .enum ["s", "m"]⟩], [], [], .named "here"⟩
  ⟨1, d, d.fault?_eq_none.1 (by decide)⟩

theorem written_type_used_before_created :
    (∃ event, (Registrations.run [borrowing, lending]).catalog.definition =
        .ok (["CREATE TABLE \"label\" (size \"shirt_size\")",
          "CREATE TYPE \"shirt_size\" AS ENUM ('s','m')",
          "CREATE TABLE \"shirt\" (size \"shirt_size\")"], event)) ∧
      borrowing.schema.block = ["CREATE TABLE \"label\" (size \"shirt_size\")"] ∧
      borrowing.schema.quotedTypes borrowing.schema.columns = ["shirt_size"] ∧
      (borrowing.schema.enums.map borrowing.schema.typeStatement).map createdName? = [] := by
  exact ⟨⟨_, rfl⟩, by decide, by decide, by decide⟩

end Catalog
end RowSql
