import RowSql.Proofs.Definition.Statements
import RowSql.Proofs.Name.Spelling
import RowSql.Proofs.Query.Slots

/-!
# Folded names

A name without quotes is read with its capitals folded to lower case letters. Names of columns
are checked to differ as they are written, and they are written without quotes, so twins, which
differ in case alone, are accepted and read as one column. Table names hold no capitals and are
read as they are written. Main statement: the columns of a table, its key and the columns of an
insertion are read apart exactly when there are no twins among them.
-/
namespace RowSql

namespace Name

variable {s : String} {names : List String}

/-- What a name is read as that stands without quotes. -/
def folded (s : String) : String := String.ofList (s.toList.map Char.toLower)

/-- Different names that are read as the same. -/
def Twins (a b : String) : Prop := a ≠ b ∧ folded a = folded b

instance : DecidableRel Twins := fun _ _ => inferInstanceAs (Decidable (_ ∧ _))

/-- A name without capitals is read as it is written. -/
theorem folded_eq_self (h : ∀ c ∈ s.toList, c.isUpper = false) : folded s = s := by
  have hchars : s.toList.map Char.toLower = s.toList.map id := by
    apply List.map_congr_left
    intro c hc
    exact TableName.toLower_eq_self (h c hc)
  rw [folded, hchars, List.map_id, String.ofList_toList]

theorem folded_tableName (s : String) : folded (tableName s) = tableName s := by
  apply folded_eq_self
  intro c hc
  rw [← TableName.spelled_kept] at hc
  rcases TableName.mem_spelled (fun p hp => TableName.isAlphanum_of_mem_keptFrom hp) hc with
    rfl | htail
  · decide
  · exact TableName.isUpper_of_isTail htail

/-- Different names are read apart unless there are twins among them. -/
theorem nodup_map_folded_iff (h : names.Nodup) :
    (names.map folded).Nodup ↔ ∀ a ∈ names, ∀ b ∈ names, ¬ Twins a b := by
  rw [List.nodup_map_iff_inj_on h]
  constructor
  · rintro hapart a ha b hb ⟨hne, hfolded⟩
    exact hne (hapart a ha b hb hfolded)
  · intro hnone a ha b hb hfolded
    by_contra hne
    exact hnone a ha b hb ⟨hne, hfolded⟩

end Name

open Name (folded Twins)

namespace Declaration

variable {d : Declaration}

/-- The same table with one more column. -/
def withColumn (d : Declaration) (c : Column) : Declaration :=
  { d with columns := d.columns ++ [c] }

theorem columnNames_withColumn (c : Column) :
    (d.withColumn c).columnNames = d.columnNames ++ [c.name] := by
  simp [withColumn, columnNames]

/-- A new column is accepted whatever it is the twin of. -/
theorem wellFormed_withColumn {c : Column} (h : d.WellFormed) (hplain : Name.IsPlain c.name)
    (hnew : c.name ∉ d.columnNames) (hlabels : c.labels? = none) :
    (d.withColumn c).WellFormed := by
  refine ⟨h.name_plain, h.table_plain, ?_, ?_, ?_, ?_, h.key_distinct, ?_⟩
  · exact List.forall_mem_append.2 ⟨h.columns_plain, by simpa using hplain⟩
  · rw [columnNames_withColumn]
    refine List.nodup_append.2 ⟨h.columns_distinct, by simp, ?_⟩
    rintro a ha b hb rfl
    exact hnew (List.mem_singleton.1 hb ▸ ha)
  · exact List.forall_mem_append.2 ⟨h.labels_wellFormed, by simp [hlabels]⟩
  · intro k hk
    rw [columnNames_withColumn]
    exact List.mem_append_left _ (h.key_declared k hk)
  · intro index hindex f hf
    rw [columnNames_withColumn]
    exact List.mem_append_left _ (h.indexes_declared index hindex f hf)

end Declaration

namespace Schema

/-- How the columns of a table are written, and when they are read apart. -/
structure ReadsColumns (s : Schema) : Prop where
  table_written : s.createTable = .ok ("CREATE TABLE " ++ Fragment.inQuotes s.table ++ " (" ++
    ", ".intercalate (s.columns.map (fun c => c.name ++ " " ++ s.typeText c) ++
      if s.key = [] then [] else ["PRIMARY KEY " ++ Fragment.parenthesized s.key]) ++ ")")
  written_apart : s.columnNames.Nodup ∧ s.key.Nodup
  columns_apart_iff : (s.columnNames.map folded).Nodup ↔
    ∀ a ∈ s.columnNames, ∀ b ∈ s.columnNames, ¬ Twins a b
  key_apart_iff : (s.key.map folded).Nodup ↔ ∀ a ∈ s.key, ∀ b ∈ s.key, ¬ Twins a b
  key_apart_of_columns_apart : (s.columnNames.map folded).Nodup → (s.key.map folded).Nodup
  inserted_written : ∀ (q : Insert) (m : Marker), q.row.schema = s → q.written = [] →
    q.columns ≠ [] → ∃ rest values, (Query.insert q).build m =
      .ok ⟨"insert into " ++ s.table ++ " (" ++ ",".intercalate q.columns ++ rest, values⟩
  inserted_apart_iff : ∀ q : Insert, q.row.schema = s → q.written = [] →
    q.columns.Sublist s.columnNames ∧
      ((q.columns.map folded).Nodup ↔ ∀ a ∈ q.columns, ∀ b ∈ q.columns, ¬ Twins a b)
  twins_accepted : ∀ c : Column, Name.IsPlain c.name → c.name ∉ s.columnNames →
    c.labels? = none → ∃ s', (s.withColumn c).build = .ok s' ∧
      ((∃ a ∈ s.columnNames, Twins a c.name) → ¬ (s'.columnNames.map folded).Nodup)

variable (s : Schema)

/-- A key is read apart where the columns are. -/
theorem nodup_map_folded_key (h : (s.columnNames.map folded).Nodup) :
    (s.key.map folded).Nodup := by
  rw [Name.nodup_map_folded_iff s.wellFormed.columns_distinct] at h
  rw [Name.nodup_map_folded_iff s.wellFormed.key_distinct]
  intro a ha b hb
  exact h a (s.wellFormed.key_declared a ha) b (s.wellFormed.key_declared b hb)

theorem exists_build_insert {q : Insert} (hwritten : q.written = []) (hcolumns : q.columns ≠ [])
    (m : Marker) : ∃ rest values, (Query.insert q).build m = .ok ⟨"insert into " ++
      q.row.schema.table ++ " (" ++ ",".intercalate q.columns ++ rest, values⟩ := by
  refine ⟨") values (" ++ ",".intercalate (q.slots m) ++ ")" ++ q.returningText,
    Template.parameters q.pieces, Query.build_eq_ok.2 ⟨?_, ?_⟩⟩
  · simp [Query.fault?, Insert.fault?, hwritten]
  · have hsql := q.sql_pieces m
    rw [if_neg hcolumns] at hsql
    have hrender : (Query.insert q).pieces.render m =
        ⟨(q.pieces.render m).sql, Template.parameters q.pieces⟩ := rfl
    rw [hrender, hsql]
    simp [String.append_assoc]

/-- Columns are read apart when none of them differ in case alone, and only then; they are
declared without regard to that. -/
theorem read_apart_iff_no_twins : s.ReadsColumns where
  table_written := s.createTable_eq_ok
  written_apart := ⟨s.wellFormed.columns_distinct, s.wellFormed.key_distinct⟩
  columns_apart_iff := Name.nodup_map_folded_iff s.wellFormed.columns_distinct
  key_apart_iff := Name.nodup_map_folded_iff s.wellFormed.key_distinct
  key_apart_of_columns_apart := s.nodup_map_folded_key
  inserted_written := by
    rintro q m rfl hwritten hcolumns
    exact exists_build_insert hwritten hcolumns m
  inserted_apart_iff := by
    rintro q rfl hwritten
    refine ⟨?_, Name.nodup_map_folded_iff q.nodup_columns⟩
    rw [Insert.columns_of_written_nil hwritten]
    exact q.row.keys_bound_sublist
  twins_accepted := by
    intro c hplain hnew hlabels
    have haccepted := Declaration.wellFormed_withColumn s.wellFormed hplain hnew hlabels
    refine ⟨⟨_, haccepted⟩, Declaration.build_eq_ok.2 rfl, ?_⟩
    rintro ⟨a, ha, htwins⟩ hapart
    rw [Name.nodup_map_folded_iff haccepted.columns_distinct,
      Declaration.columnNames_withColumn] at hapart
    exact hapart a (List.mem_append_left _ ha) c.name (by simp) htwins

/-- Two columns that differ in case alone, both in the key. -/
def ofTwins : Schema :=
  let d : Declaration :=
    ⟨"T", [⟨"a", .scalar .int⟩, ⟨"A", .scalar .int⟩], ["a", "A"], [], .named "here"⟩
  ⟨d, d.fault?_eq_none.1 (by decide)⟩

theorem twins_read_as_one :
    ofTwins.toDeclaration.build = .ok ofTwins ∧
      ofTwins.createTable = .ok "CREATE TABLE \"t\" (a int, A int, PRIMARY KEY (a,A))" ∧
      ¬ (ofTwins.columnNames.map folded).Nodup ∧ ¬ (ofTwins.key.map folded).Nodup :=
  ⟨Declaration.build_eq_ok.2 rfl, by decide, by decide, by decide⟩

end Schema
end RowSql
