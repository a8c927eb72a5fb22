import Mathlib.Data.List.Nodup
import RowSql.Proofs.Query.Names

/-!
# Scope of a join

A join names its tables behind the words `from` and `join`, and the columns of its conditions
without their tables. The relation that it reads holds the columns of the shared key once and
every other column as often as tables declare it, so what a condition is about depends on all
of the tables. Main statement: the tables of a compiled join are those of its schemas, each
condition is about some column, and it is about a single one exactly when it is on the shared
key or one schema alone declares it.
-/
namespace RowSql

namespace Token

/-- A word with a table to read behind it. -/
def opensTable : Token → Bool
  | fixed text => text == " from " || text == " join "
  | _ => false

def table? : Token → Option String
  | name .table text => some text
  | _ => none

/-- The tables that some tokens read; `opened` says whether a word that opens a table stands
before them. -/
def tablesFrom : Bool → List Token → List String
  | _, [] => []
  | opened, t :: rest => (if opened then t.table?.toList else []) ++ tablesFrom t.opensTable rest

/-- The names right behind `from` and `join`. -/
def tables (tokens : List Token) : List String := tablesFrom false tokens

theorem tablesFrom_append {ts : List Token} (h : ∀ t ∈ ts, t.opensTable = false)
    (us : List Token) : tablesFrom false (ts ++ us) = tablesFrom false us := by
  induction ts with
  | nil => rfl
  | cons t ts ih =>
    obtain ⟨ht, hts⟩ := List.forall_mem_cons.1 h
    rw [List.cons_append, tablesFrom, ht, ih hts]
    rfl

theorem opensTable_listed (part : Part) (names : List String) :
    ∀ t ∈ listed part names, t.opensTable = false :=
  forall_mem_listed rfl fun _ _ => rfl

/-- Conditions read no table, even right behind a word that opens one. -/
theorem tablesFrom_conditions (opened : Bool) (b : Bindings) :
    tablesFrom opened (conditions b) = [] := by
  have hquiet : ∀ t ∈ conditions b, t.opensTable = false :=
    forall_mem_conditions rfl rfl rfl (fun _ => rfl) fun _ _ => rfl
  have hclosed : tablesFrom false (conditions b) = [] := by
    simpa [tablesFrom] using tablesFrom_append hquiet []
  cases b with
  | nil => rfl
  | cons p b =>
    cases opened with
    | false => exact hclosed
    | true => exact hclosed

end Token

namespace Join

variable (q : Join)

/-- The columns of two relations that are joined `using` a key: those of the key once, then the
others of each side. -/
def joinedColumns (key left right : List String) : List String :=
  key ++ (left.filter (· ∉ key) ++ right.filter (· ∉ key))

/-- The columns of the relation that is read, by their names alone. -/
def scope : List String :=
  match q.schemas with
  | [] => []
  | first :: rest =>
    rest.foldl (fun left s => joinedColumns first.key left s.columnNames) first.columnNames

/-- No table is read twice under one name, and every condition is about a single column. -/
structure WellScoped : Prop where
  tables_distinct : (Token.tables q.tokens).Nodup
  columns_single : ∀ k ∈ q.conditions.keys, q.scope.count k = 1

/-! ## The tables -/

theorem opensTable_starTokens (schemas : List Schema) :
    ∀ t ∈ starTokens schemas, t.opensTable = false := by
  induction schemas with
  | nil => simp [starTokens]
  | cons s rest ih =>
    cases rest with
    | nil => simp [starTokens, Token.opensTable]
    | cons s' rest =>
      simp only [starTokens, List.forall_mem_cons]
      exact ⟨rfl, rfl, rfl, ih⟩

/-- A further table is read behind its own `join`. -/
theorem tablesFrom_joinTokens (key : List String) (s : Schema) (us : List Token) :
    Token.tablesFrom false (joinTokens key s ++ us) = s.table :: Token.tablesFrom false us := by
  have hclose : ∀ t ∈ Token.listed .key key ++ [.fixed ")"], t.opensTable = false := by
    simp only [List.forall_mem_append]
    exact ⟨Token.opensTable_listed .key key, by simp [Token.opensTable]⟩
  have hrest := Token.tablesFrom_append hclose us
  simpa [joinTokens, Token.tablesFrom, Token.opensTable, Token.table?] using hrest

theorem tablesFrom_tableTokens (schemas : List Schema) (b : Bindings) :
    Token.tablesFrom true (tableTokens schemas ++ Token.conditions b) =
      schemas.map fun s => s.table := by
  cases schemas with
  | nil => exact Token.tablesFrom_conditions true b
  | cons first rest =>
    have hrest : Token.tablesFrom false
        (rest.flatMap (joinTokens first.key) ++ Token.conditions b) =
          rest.map fun s => s.table := by
      induction rest with
      | nil => exact Token.tablesFrom_conditions false b
      | cons s rest ih =>
        rw [List.flatMap_cons, List.append_assoc, tablesFrom_joinTokens, ih]
        rfl
    simpa [tableTokens, Token.tablesFrom, Token.table?, Token.opensTable] using hrest

/-- The tables of a join are those of its schemas, in order. -/
theorem tables_tokens : Token.tables q.tokens = q.schemas.map fun s => s.table := by
  have hstars := Token.tablesFrom_append (opensTable_starTokens q.schemas)
    (.fixed " from " :: (tableTokens q.schemas ++ Token.conditions q.conditions))
  have hopen : Token.tablesFrom false
      (.fixed " from " :: (tableTokens q.schemas ++ Token.conditions q.conditions)) =
        Token.tablesFrom true (tableTokens q.schemas ++ Token.conditions q.conditions) := rfl
  rw [hopen, tablesFrom_tableTokens] at hstars
  exact hstars

/-! ## The columns -/

variable {q} {key left right : List String} {k : String}

theorem count_joinedColumns_of_mem (hkey : key.Nodup) (hk : k ∈ key) :
    (joinedColumns key left right).count k = 1 := by
  have hnone : ∀ names : List String, (names.filter (· ∉ key)).count k = 0 := fun names =>
    List.count_eq_zero.2 fun hmem => by simpa [hk] using (List.mem_filter.1 hmem).2
  rw [joinedColumns, List.count_append, List.count_append, hnone, hnone,
    List.count_eq_one_of_mem hkey hk]

theorem count_joinedColumns_of_notMem (hk : k ∉ key) :
    (joinedColumns key left right).count k = left.count k + right.count k := by
  have hkept : ∀ names : List String, (names.filter (· ∉ key)).count k = names.count k :=
    fun names => List.count_filter (by simpa using hk)
  rw [joinedColumns, List.count_append, List.count_append, hkept, hkept,
    List.count_eq_zero.2 hk, Nat.zero_add]

/-- The columns of a schema differ, so it declares a name once or not at all. -/
theorem count_columnNames (s : Schema) (k : String) :
    s.columnNames.count k = if s.hasField k then 1 else 0 := by
  split
  · rename_i h
    exact List.count_eq_one_of_mem s.wellFormed.columns_distinct (s.hasField_iff.1 h)
  · rename_i h
    exact List.count_eq_zero.2 fun hmem => h (s.hasField_iff.2 hmem)

/-- A column of the key stays single however many tables are joined. -/
theorem count_foldl_of_mem (hkey : key.Nodup) (hk : k ∈ key) (hleft : left.count k = 1)
    (rest : List Schema) :
    (rest.foldl (fun left s => joinedColumns key left s.columnNames) left).count k = 1 := by
  induction rest generalizing left with
  | nil => exact hleft
  | cons s rest ih => exact ih (count_joinedColumns_of_mem hkey hk)

/-- Any other column is there once more for each table that declares it. -/
theorem count_foldl_of_notMem (hk : k ∉ key) (left : List String) (rest : List Schema) :
    (rest.foldl (fun left s => joinedColumns key left s.columnNames) left).count k =
      left.count k + rest.countP (·.hasField k) := by
  induction rest generalizing left with
  | nil => rfl
  | cons s rest ih =>
    rw [List.foldl_cons, ih, count_joinedColumns_of_notMem hk, count_columnNames,
      List.countP_cons]
    omega

theorem count_scope_of_mem (hk : k ∈ q.sharedKey) : q.scope.count k = 1 := by
  cases hschemas : q.schemas with
  | nil => simp [sharedKey, hschemas] at hk
  | cons first rest =>
    rw [sharedKey, hschemas] at hk
    rw [scope, hschemas]
    have hdeclared := first.wellFormed.key_declared k hk
    exact count_foldl_of_mem first.wellFormed.key_distinct hk
      (List.count_eq_one_of_mem first.wellFormed.columns_distinct hdeclared) rest

theorem count_scope_of_notMem (hk : k ∉ q.sharedKey) :
    q.scope.count k = q.schemas.countP (·.hasField k) := by
  cases hschemas : q.schemas with
  | nil => simp [scope, hschemas]
  | cons first rest =>
    rw [sharedKey, hschemas] at hk
    rw [scope, hschemas]
    have hcount := count_foldl_of_notMem hk first.columnNames rest
    rw [count_columnNames] at hcount
    rw [List.countP_cons, Nat.add_comm]
    exact hcount

/-- A condition that a join accepts is about some column. -/
theorem count_scope_pos (hq : q.fault? = none) (hk : k ∈ q.conditions.keys) :
    1 ≤ q.scope.count k := by
  obtain ⟨-, -, -, hwhere⟩ := fault?_eq_none_iff.1 hq
  by_cases hshared : k ∈ q.sharedKey
  · exact Nat.le_of_eq (count_scope_of_mem hshared).symm
  · obtain ⟨s, hs, hdeclared⟩ := hwhere k hk
    rw [count_scope_of_notMem hshared]
    exact List.countP_pos_iff.2 ⟨s, hs, s.hasField_iff.2 hdeclared⟩

theorem count_scope_eq_one_iff :
    q.scope.count k = 1 ↔ k ∈ q.sharedKey ∨ q.schemas.countP (·.hasField k) = 1 := by
  by_cases hshared : k ∈ q.sharedKey
  · simp [hshared, count_scope_of_mem hshared]
  · simp [hshared, count_scope_of_notMem hshared]

/-- A compiled join reads the tables of its schemas, and each of its conditions is about some
column. It is well scoped exactly when these tables are distinct and each condition is on the
shared key or on a column that one schema alone declares. -/
theorem scope_of_compiled {m : Marker} {s : Statement} (h : (Query.join q).build m = .ok s) :
    s = Template.render m (Token.template q.tokens) ∧
      Token.tables q.tokens = q.schemas.map (fun s => s.table) ∧
      (∀ k ∈ q.conditions.keys, 1 ≤ q.scope.count k) ∧
      (∀ k ∈ q.conditions.keys,
        q.scope.count k = 1 ↔ k ∈ q.sharedKey ∨ q.schemas.countP (·.hasField k) = 1) ∧
      (q.WellScoped ↔ (q.schemas.map fun s => s.table).Nodup ∧
        ∀ k ∈ q.conditions.keys,
          k ∈ q.sharedKey ∨ q.schemas.countP (·.hasField k) = 1) := by
  obtain ⟨hq, hrender⟩ := Query.build_eq_ok.1 h
  refine ⟨?_, q.tables_tokens, fun k hk => count_scope_pos hq hk,
    fun k _ => count_scope_eq_one_iff, ?_, ?_⟩
  · exact (hrender.symm.trans (Query.render_tokens (.join q) m).symm)
  · rintro ⟨htables, hcolumns⟩
    rw [tables_tokens] at htables
    exact ⟨htables, fun k hk => count_scope_eq_one_iff.1 (hcolumns k hk)⟩
  · rintro ⟨htables, hcolumns⟩
    rw [← q.tables_tokens] at htables
    exact ⟨htables, fun k hk => count_scope_eq_one_iff.2 (hcolumns k hk)⟩

/-- Parcels with a note. -/
def parcels : Schema :=
  let d : Declaration :=
    ⟨"Parcel", [⟨"id", .scalar .int⟩, ⟨"note", .scalar .text⟩], ["id"], [], .named "here"⟩
  ⟨d, d.fault?_eq_none.1 (by decide)⟩

/-- Bills by the same key, which have a note of their own. -/
def bills : Schema :=
  let d : Declaration :=
    ⟨"Bill", [⟨"id", .scalar .int⟩, ⟨"note", .scalar .text⟩, ⟨"total", .scalar .int⟩], ["id"], [],
      .named "here"⟩
  ⟨d, d.fault?_eq_none.1 (by decide)⟩

def byIdAndTotal : Join := ⟨[parcels, bills], [("id", .int 1), ("total", .int 5)]⟩

theorem byIdAndTotal_wellScoped :
    ∃ s, (Query.join byIdAndTotal).build .dollar = .ok s ∧ byIdAndTotal.WellScoped := by
  have hbuild : (Query.join byIdAndTotal).build .dollar =
      .ok ⟨"select parcel.*,bill.* from parcel join bill using (id) where id=$1 and total=$2",
        [.int 1, .int 5]⟩ := by decide
  obtain ⟨-, -, -, -, hscoped⟩ := scope_of_compiled hbuild
  exact ⟨_, hbuild, hscoped.2 ⟨by decide, by decide⟩⟩

/-- A table that is joined with itself. -/
def doubled : Join := ⟨[parcels, parcels], []⟩

/-- A condition on a column that both tables have beside the key. -/
def byNote : Join := ⟨[parcels, bills], [("note", .null)]⟩

theorem compiled_out_of_scope :
    (Query.join doubled).build .percent =
        .ok ⟨"select parcel.*,parcel.* from parcel join parcel using (id)", []⟩ ∧
      Token.tables doubled.tokens = ["parcel", "parcel"] ∧
      (Query.join byNote).build .percent =
        .ok ⟨"select parcel.*,bill.* from parcel join bill using (id) where note=%s", [.null]⟩ ∧
      "note" ∈ byNote.conditions.keys ∧ "note" ∉ byNote.sharedKey ∧
      byNote.schemas.countP (·.hasField "note") = 2 ∧ byNote.scope.count "note" = 2 := by
  exact ⟨by decide, by decide, by decide, by decide, by decide, by decide, by decide⟩

end Join
end RowSql
