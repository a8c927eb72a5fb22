import RowSql.Proofs.Catalog.CreatedNames
import RowSql.Proofs.Name.Folding
import RowSql.Proofs.Query.Scope

/-!
# Names of tables

The definition of a table has its name between quotes, and queries have it without. A table
name holds no capitals, so both are read as the same name. Main statement: what a table name
is made of, what it looks like, when it is an identifier, and that every query reads and writes
the tables that the definitions of its schemas create.
-/
namespace RowSql

namespace Query

/-- The schemas that a query is about. -/
def schemas : Query → List Schema
  | insert q => [q.row.schema]
  | select q => [q.schema]
  | update q => [q.schema]
  | join q => q.schemas

end Query

/-! ## Tables in the text of a query -/

namespace Token

variable {ts us : List Token}

/-- The names of tables among some tokens. -/
def namedTables (tokens : List Token) : List String := tokens.filterMap table?

@[simp] theorem namedTables_nil : namedTables [] = [] := rfl

@[simp] theorem namedTables_fixed (text : String) :
    namedTables (fixed text :: ts) = namedTables ts := rfl

@[simp] theorem namedTables_verbatim (text : String) :
    namedTables (verbatim text :: ts) = namedTables ts := rfl

@[simp] theorem namedTables_number (n : Nat) : namedTables (number n :: ts) = namedTables ts := rfl

@[simp] theorem namedTables_table (text : String) :
    namedTables (name .table text :: ts) = text :: namedTables ts := rfl

@[simp] theorem namedTables_append :
    namedTables (ts ++ us) = namedTables ts ++ namedTables us := List.filterMap_append

theorem namedTables_of_quiet (h : ∀ t ∈ ts, t.table? = none) : namedTables ts = [] :=
  List.filterMap_eq_nil_iff.2 h

theorem namedTables_listed {part : Part} (hpart : part ≠ .table) (names : List String) :
    namedTables (listed part names) = [] := by
  apply namedTables_of_quiet
  apply forall_mem_listed (P := fun t => t.table? = none) rfl
  intro s _
  cases part with
  | table => exact absurd rfl hpart
  | _ => rfl

@[simp] theorem namedTables_assignments (separator : String) (b : Bindings) :
    namedTables (assignments .assignment separator b) = [] := by
  apply namedTables_of_quiet
  exact forall_mem_assignments (P := fun t => t.table? = none) rfl rfl (fun _ => rfl)
    fun _ _ => rfl

@[simp] theorem namedTables_conditions (b : Bindings) : namedTables (conditions b) = [] := by
  apply namedTables_of_quiet
  exact forall_mem_conditions (P := fun t => t.table? = none) rfl rfl rfl (fun _ => rfl)
    fun _ _ => rfl

theorem mem_namedTables_iff {text : String} : text ∈ namedTables ts ↔ name .table text ∈ ts := by
  rw [namedTables, List.mem_filterMap]
  constructor
  · rintro ⟨t, ht, htable⟩
    unfold table? at htable
    split at htable
    · cases htable
      exact ht
    · cases htable
  · intro h
    exact ⟨_, h, rfl⟩

end Token

open Token

theorem Insert.namedTables_tokens (q : Insert) : namedTables q.tokens = [q.row.schema.table] := by
  have hslots :
      namedTables ((q.entries.map fun e => slotToken e.2).intersperse (.fixed ",")) = [] := by
    apply namedTables_of_quiet
    intro t ht
    rcases Span.mem_intersperse ht with rfl | ht
    · rfl
    · obtain ⟨⟨-, e⟩, -, rfl⟩ := List.mem_map.1 ht
      cases e <;> rfl
  have hcolumns : namedTables (Token.listed .column (q.entries.map Prod.fst)) = [] :=
    namedTables_listed (by decide) _
  have hvalues : namedTables (valuesTokens q.entries) = [] := by
    unfold valuesTokens
    split
    · rfl
    · simp [hslots, hcolumns]
  have hreturning : namedTables (returningTokens q.returning) = [] := by
    unfold returningTokens
    split
    · rfl
    · simpa using namedTables_listed (by decide) _
  simp [tokens, hvalues, hreturning]

theorem Select.namedTables_tokens (q : Select) : namedTables q.tokens = [q.schema.table] := by
  have hfields : namedTables (listed .projection q.fields) = [] :=
    namedTables_listed (by decide) _
  have horder : namedTables q.orderTokens = [] := by
    unfold orderTokens
    split <;> rfl
  have hlimit : namedTables q.limitTokens = [] := by
    unfold limitTokens
    split <;> rfl
  have hlock : namedTables q.lockTokens = [] := by
    unfold lockTokens
    split <;> rfl
  simp [tokens, hfields, horder, hlimit, hlock]

theorem Update.namedTables_tokens (q : Update) : namedTables q.tokens = [q.schema.table] := by
  simp [tokens]

namespace Join

theorem namedTables_starTokens (schemas : List Schema) :
    namedTables (starTokens schemas) = schemas.map fun s => s.table := by
  induction schemas with
  | nil => rfl
  | cons s rest ih =>
    cases rest with
    | nil => rfl
    | cons s' rest => simpa [starTokens] using ih

theorem namedTables_tableTokens (schemas : List Schema) :
    namedTables (tableTokens schemas) = schemas.map fun s => s.table := by
  cases schemas with
  | nil => rfl
  | cons first rest =>
    have hkey : namedTables (listed .key first.key) = [] := namedTables_listed (by decide) _
    have hrest : namedTables (rest.flatMap (joinTokens first.key)) =
        rest.map fun s => s.table := by
      induction rest with
      | nil => rfl
      | cons s rest ih => simp [joinTokens, hkey, ih]
    simp [tableTokens, hrest]

/-- A join names its tables to ask for all of their columns, and again to read them. -/
theorem namedTables_tokens (q : Join) : namedTables q.tokens =
    q.schemas.map (fun s => s.table) ++ q.schemas.map fun s => s.table := by
  simp [tokens, namedTables_starTokens, namedTables_tableTokens]

end Join

/-- The tables that a query names are those of its schemas. -/
theorem Query.name_table_mem_tokens_iff {q : Query} {text : String} :
    .name .table text ∈ q.tokens ↔ ∃ s ∈ q.schemas, s.table = text := by
  rw [← Token.mem_namedTables_iff]
  cases q with
  | insert q => simp [Query.tokens, Insert.namedTables_tokens, schemas, eq_comm]
  | select q => simp [Query.tokens, Select.namedTables_tokens, schemas, eq_comm]
  | update q => simp [Query.tokens, Update.namedTables_tokens, schemas, eq_comm]
  | join q => simp [Query.tokens, Join.namedTables_tokens, schemas]

/-! ## Main statement -/

/-- A table that is created under the name that queries without quotes read. -/
structure Schema.ReadAsCreated (d : Schema) : Prop where
  derived : d.table = tableName d.name
  created : ∃ statement, d.createTable = .ok statement ∧
    createdName? statement = some (Name.folded d.table)
  lower_case : Name.folded d.table = d.table

/-- Table names are spelled from the words of a name, and a query names the tables under which
the definitions of its schemas create them. -/
theorem tables_derived_and_read :
    (∀ s, TableName.Derived s (tableName s)) ∧ (∀ d : Schema, d.ReadAsCreated) ∧
      ∀ (q : Query) (m : Marker) (st : Statement), q.build m = .ok st →
        st = Template.render m (Token.template q.tokens) ∧
        ∀ text, .name .table text ∈ q.tokens ↔ ∃ d ∈ q.schemas, d.table = text := by
  refine ⟨TableName.derived_tableName, ?_, ?_⟩
  · intro d
    have hlower : Name.folded d.table = d.table := Name.folded_tableName d.name
    refine ⟨rfl, ⟨_, d.createTable_eq_ok, ?_⟩, hlower⟩
    rw [hlower, d.createdName?_tableStatement]
  · intro q m st hst
    obtain ⟨-, hrender⟩ := Query.build_eq_ok.1 hst
    exact ⟨by rw [Query.render_tokens, hrender], fun _ => Query.name_table_mem_tokens_iff⟩

end RowSql
