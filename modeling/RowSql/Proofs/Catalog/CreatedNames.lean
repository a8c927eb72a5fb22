import Mathlib.Data.List.Nodup
import Mathlib.Data.List.Pairwise
import Mathlib.Data.List.Perm.Basic
import RowSql.Proofs.Definition.Statements

/-!
# Created names

Types and tables share one space of names, so no two statements of a catalog should create
the same name. The catalog keeps its tables apart, but the type of an enumeration is called
after its table and its column with an underscore between them, and both may hold
underscores. Main statement: the names that a catalog creates are distinct exactly when no
glued name meets a name of another schema, and statements that were written out create names
of their own.
-/
namespace RowSql

/-- The name that a statement creates, if it is one that creates a type or a table. -/
def createdName? (statement : String) : Option String :=
  ((statement.toList.dropPrefix? "CREATE TYPE \"".toList).or
    (statement.toList.dropPrefix? "CREATE TABLE \"".toList)).map fun rest =>
      String.ofList (rest.takeWhile (· ≠ '"'))

namespace Schema

variable (s : Schema)

/-- The types that are created for the columns, and the table. -/
def ownNames : List String := s.enums.map (fun e => s.enumName e.1) ++ [s.table]

/-- The names that written indexes create, being other statements than they are taken for. -/
def writtenNames : List String :=
  s.indexes.filterMap fun
    | .written sql => createdName? sql
    | .on _ => none

end Schema

namespace Catalog

variable (c : Catalog)

def ownNames : List String := c.entries.flatMap fun d => d.schema.ownNames

def writtenNames : List String := c.entries.flatMap fun d => d.schema.writtenNames

/-- The type of an enumeration has the name of another table, or of a type of another table. -/
def Glued : Prop :=
  ∃ d ∈ c.entries, ∃ d' ∈ c.entries, d.schema.table ≠ d'.schema.table ∧
    ∃ e ∈ d.schema.enums, d.schema.enumName e.1 ∈ d'.schema.ownNames

end Catalog

/-! ## Reading the statements -/

theorem takeWhile_quoted {name : String} (h : Over (· ≠ '"') name) (rest : List Char) :
    (name.toList ++ '"' :: rest).takeWhile (· ≠ '"') = name.toList := by
  rw [List.takeWhile_append_of_pos fun c hc => by simpa using h c hc]
  simp

theorem createdName?_type {name rest : String} (h : Over (· ≠ '"') name) :
    createdName? ("CREATE TYPE " ++ Fragment.inQuotes name ++ rest) = some name := by
  have htext : ("CREATE TYPE " ++ Fragment.inQuotes name ++ rest).toList =
      "CREATE TYPE \"".toList ++ (name.toList ++ '"' :: rest.toList) := by
    simp [Fragment.inQuotes, Fragment.doubleQuote]
  rw [createdName?, htext, List.dropPrefix?_append_of_beq _ BEq.rfl, Option.some_or,
    Option.map_some, takeWhile_quoted h, String.ofList_toList]

theorem createdName?_table {name rest : String} (h : Over (· ≠ '"') name) :
    createdName? ("CREATE TABLE " ++ Fragment.inQuotes name ++ rest) = some name := by
  have htext : ("CREATE TABLE " ++ Fragment.inQuotes name ++ rest).toList =
      "CREATE TABLE \"".toList ++ (name.toList ++ '"' :: rest.toList) := by
    simp [Fragment.inQuotes, Fragment.doubleQuote]
  have htype : ("CREATE TABLE \"".toList ++ (name.toList ++ '"' :: rest.toList)).dropPrefix?
      "CREATE TYPE \"".toList = none := by
    simp [List.dropPrefix?]
  rw [createdName?, htext, htype, List.dropPrefix?_append_of_beq _ BEq.rfl, Option.none_or,
    Option.map_some, takeWhile_quoted h, String.ofList_toList]

/-- Described indexes create neither types nor tables. -/
theorem createdName?_index (shape : IndexShape) (table : String) :
    createdName? (shape.statement table) = none := by
  have hlead : ∀ (word : String) (words : List String),
      ∃ rest, " ".intercalate (word :: words) = word ++ rest := by
    intro word words
    cases words with
    | nil => exact ⟨"", by simp⟩
    | cons next words =>
      exact ⟨" " ++ " ".intercalate (next :: words), by simp [String.append_assoc]⟩
  unfold IndexShape.statement IndexShape.clauses
  rw [List.filter_cons_of_pos (by decide)]
  cases shape.unique with
  | true =>
    rw [if_pos rfl, List.filter_cons_of_pos (by decide), String.intercalate_cons_cons]
    obtain ⟨rest, hrest⟩ := hlead "UNIQUE" _
    rw [hrest]
    simp [createdName?, List.dropPrefix?]
  | false =>
    rw [if_neg Bool.false_ne_true, List.filter_cons_of_neg (by decide),
      List.filter_cons_of_pos (by decide), String.intercalate_cons_cons]
    obtain ⟨rest, hrest⟩ := hlead "INDEX" _
    rw [hrest]
    simp [createdName?, List.dropPrefix?]

namespace Schema

variable (s : Schema)

theorem createdName?_typeStatement {e : Column × List String} (h : e ∈ s.enums) :
    createdName? (s.typeStatement e) = some (s.enumName e.1) := by
  rw [typeStatement, String.append_assoc]
  exact createdName?_type (s.over_enumName (s.mem_columns_of_mem_enums h))

/-- The statements of the types create their names, in the order of the columns. -/
theorem createdNames_types : (s.enums.map s.typeStatement).filterMap createdName? =
    s.enums.map fun e => s.enumName e.1 := by
  rw [List.filterMap_map, ← List.filterMap_eq_map]
  apply List.filterMap_congr
  intro e he
  rw [Function.comp, s.createdName?_typeStatement he]
  rfl

theorem createdName?_tableStatement : createdName? s.tableStatement = some s.table := by
  unfold tableStatement
  rw [String.append_assoc, String.append_assoc]
  exact createdName?_table (s.table_plain.over_ne (by decide))

theorem createdNames_block : s.block.filterMap createdName? = s.ownNames ++ s.writtenNames := by
  have hindexes : (s.indexes.map (Index.statement s.table)).filterMap createdName? =
      s.writtenNames := by
    rw [List.filterMap_map, writtenNames]
    apply List.filterMap_congr
    intro index _
    cases index with
    | written sql => rfl
    | on shape => exact createdName?_index shape s.table
  rw [block, List.filterMap_append, List.filterMap_cons, createdNames_types,
    createdName?_tableStatement, hindexes, ownNames, List.append_assoc]
  rfl

/-- A glued name is longer than the table. -/
theorem enumName_ne_table (c : Column) : s.enumName c ≠ s.table := by
  intro h
  have hlength := congrArg (fun t => t.toList.length) h
  simp [enumName] at hlength

theorem enums_sublist : (s.enums.map Prod.fst).Sublist s.columns := by
  rw [enums, List.map_filterMap]
  induction s.columns with
  | nil => exact List.Sublist.refl []
  | cons c rest ih =>
    rw [List.filterMap_cons]
    cases c.labels? with
    | none => exact ih.cons c
    | some labels => exact ih.cons_cons c

theorem nodup_ownNames : s.ownNames.Nodup := by
  have hcolumns : (s.enums.map fun e => e.1.name).Sublist s.columnNames := by
    have hmap := s.enums_sublist.map Column.name
    rw [List.map_map] at hmap
    exact hmap
  have hnames : (s.enums.map fun e => s.enumName e.1).Nodup := by
    have hdistinct := (s.wellFormed.columns_distinct.sublist hcolumns)
    have hmap : (s.enums.map fun e => s.enumName e.1) =
        (s.enums.map fun e => e.1.name).map (s.table ++ "_" ++ ·) := by
      rw [List.map_map]
      rfl
    rw [hmap]
    exact hdistinct.map fun a b hab => by simpa using hab
  refine List.nodup_append.2 ⟨hnames, by simp, ?_⟩
  rintro a ha b hb rfl
  obtain ⟨e, -, rfl⟩ := List.mem_map.1 ha
  exact s.enumName_ne_table e.1 (by simpa using hb)

end Schema

namespace Catalog

variable (c : Catalog)

theorem createdNames_statements : c.statements.filterMap createdName? =
    c.entries.flatMap fun d => d.schema.ownNames ++ d.schema.writtenNames := by
  rw [statements, List.filterMap_flatMap]
  simp [Schema.createdNames_block]

theorem pairwise_tables : c.entries.Pairwise fun d d' => d.schema.table ≠ d'.schema.table :=
  List.pairwise_map.1 c.tables_distinct

/-- The names that schemas create are distinct unless glued names meet others. -/
theorem nodup_ownNames_iff : c.ownNames.Nodup ↔ ¬ c.Glued := by
  rw [ownNames, List.nodup_flatMap]
  constructor
  · rintro ⟨-, hpairwise⟩ ⟨d, hd, d', hd', htables, e, he, hmem⟩
    have hne : d ≠ d' := fun h => htables (h ▸ rfl)
    have hsymm : Std.Symm (Function.onFun List.Disjoint fun d : Declared => d.schema.ownNames) :=
      ⟨fun _ _ h => List.disjoint_symm h⟩
    have hdisjoint := hpairwise.forall hd hd' hne
    exact hdisjoint (List.mem_append_left _ (List.mem_map_of_mem he)) hmem
  · intro hglued
    refine ⟨fun d _ => d.schema.nodup_ownNames, c.pairwise_tables.imp_of_mem ?_⟩
    intro d d' hd hd' htables n hn hn'
    rcases List.mem_append.1 hn with hn | hn
    · obtain ⟨e, he, rfl⟩ := List.mem_map.1 hn
      exact hglued ⟨d, hd, d', hd', htables, e, he, hn'⟩
    · obtain rfl := List.mem_singleton.1 hn
      rcases List.mem_append.1 hn' with hn' | hn'
      · obtain ⟨e, he, heq⟩ := List.mem_map.1 hn'
        exact hglued ⟨d', hd', d, hd, htables.symm, e, he, heq ▸ List.mem_append_right _ (by simp)⟩
      · exact htables (List.mem_singleton.1 hn')

/-- Every catalog can be defined, and its definition creates no name twice exactly when no glued
name meets a name of another schema and written statements create names of their own. -/
theorem created_names_nodup_iff :
    c.definition = .ok (c.statements, .defined c.size c.statements.length) ∧
      ((c.statements.filterMap createdName?).Nodup ↔
        ¬ c.Glued ∧ c.writtenNames.Nodup ∧ ∀ n ∈ c.ownNames, n ∉ c.writtenNames) := by
  refine ⟨c.definition_eq_ok, ?_⟩
  have hperm := List.flatMap_append_perm c.entries (fun d => d.schema.ownNames)
    fun d => d.schema.writtenNames
  rw [createdNames_statements, ← hperm.nodup_iff, ← nodup_ownNames_iff, ← ownNames,
    ← writtenNames, List.nodup_append]
  constructor
  · rintro ⟨hown, hwritten, hapart⟩
    exact ⟨hown, hwritten, fun n hn hn' => hapart n hn n hn' rfl⟩
  · rintro ⟨hown, hwritten, hapart⟩
    refine ⟨hown, hwritten, ?_⟩
    rintro n hn m hm rfl
    exact hapart n hn hm

/-- A table with an enumeration. -/
def enumerating : Declared :=
  let d : Declaration := ⟨"Foo", [⟨"bar", .enum ["x"]⟩], [], [], .named "here"⟩
  ⟨0, d, d.fault?_eq_none.1 (by decide)⟩

/-- A table that is named like the type of that enumeration. -/
def namedAlike : Declared :=
  let d : Declaration := ⟨"FooBar", [⟨"id", .scalar .int⟩], [], [], .named "here"⟩
  ⟨1, d, d.fault?_eq_none.1 (by decide)⟩

theorem registered_names_clash : ∃ c c' statements event event' event'',
    empty.register enumerating = .ok (c, event) ∧ c.register namedAlike = .ok (c', event') ∧
      c'.definition = .ok (statements, event'') ∧
      statements.filterMap createdName? = ["foo_bar", "foo", "foo_bar"] ∧
      ¬ (statements.filterMap createdName?).Nodup := by
  refine ⟨_, _, _, _, _, _, rfl, rfl, Catalog.definition_eq_ok _, ?_⟩
  rw [createdNames_statements]
  decide

end Catalog
end RowSql
