import RowSql.Proofs.Schema.Names
import RowSql.Query

/-!
# Accepted queries

What a query must be like to compile. Each kind of query checks the names that it is given in
its own way; the statements below say what has been checked once a query compiles, and that
the names of an accepted query are plain.
-/
namespace RowSql

namespace Insert

variable {q : Insert}

theorem fault?_eq_none_iff : q.fault? = none ↔ ∀ w ∈ q.written, Name.IsPlain w.1 := by
  simp [fault?, List.findSome?_eq_none_iff]

end Insert

namespace Select

variable {q : Select}

theorem fault?_eq_none_iff : q.fault? = none ↔ q.fields ≠ [] ∧
    (∀ f ∈ q.fields, f = "*" ∨ f ∈ q.schema.columnNames) ∧
    ∀ k ∈ q.conditions.keys, k ∈ q.schema.columnNames := by
  simp only [fault?, Option.or_eq_none_iff, Schema.undeclared?_eq_none, List.mem_filter, and_assoc]
  simp only [ite_eq_right_iff, reduceCtorEq, imp_false, ne_eq, decide_not, Bool.not_eq_eq_eq_not,
    Bool.not_true, decide_eq_false_iff_not, and_imp]
  grind

end Select

namespace Update

variable {q : Update}

theorem fault?_eq_none_iff : q.fault? = none ↔ q.assignments ≠ [] ∧
    (∀ k ∈ q.assignments.keys, k ∈ q.schema.columnNames) ∧
    ∀ k ∈ q.conditions.keys, k ∈ q.schema.columnNames := by
  simp [fault?, Option.or_eq_none_iff, Schema.undeclared?_eq_none, and_assoc]

end Update

namespace Join

variable {q : Join}

/-- The key of the first schema, by which all are joined. -/
def sharedKey (q : Join) : List String :=
  match q.schemas with
  | [] => []
  | first :: _ => first.key

theorem strayCondition?_eq_none_iff {first : Schema} : q.strayCondition? first = none ↔
    ∀ k ∈ q.conditions.keys, ∃ s ∈ q.schemas, k ∈ s.columnNames := by
  simp [strayCondition?, List.findSome?_eq_none_iff, Schema.hasField_iff]

theorem fault?_eq_none_iff : q.fault? = none ↔ 2 ≤ q.schemas.length ∧ q.sharedKey ≠ [] ∧
    (∀ s ∈ q.schemas, s.key = q.sharedKey) ∧
    ∀ k ∈ q.conditions.keys, ∃ s ∈ q.schemas, k ∈ s.columnNames := by
  match h : q.schemas with
  | [] => simp [fault?, h]
  | [s] => simp [fault?, h]
  | first :: second :: rest =>
    rw [← h, ← @strayCondition?_eq_none_iff q first]
    simp only [fault?, sharedKey, h]
    by_cases hkey : first.key = []
    · simp [hkey]
    · cases hfind : (second :: rest).find? fun s => decide (s.key ≠ first.key) with
      | some other =>
        have hother := List.find?_some hfind
        have hmem := List.mem_of_find?_eq_some hfind
        simp only [hkey, if_false, reduceCtorEq, false_iff]
        rintro ⟨-, -, hall, -⟩
        simp [hall other (List.mem_cons_of_mem _ hmem)] at hother
      | none =>
        have hall : ∀ s ∈ first :: second :: rest, s.key = first.key := by
          simp only [List.find?_eq_none, ne_eq, decide_not, Bool.not_eq_eq_eq_not,
            Bool.not_true, Bool.not_eq_false, decide_eq_true_eq] at hfind
          simpa using hfind
        simp only [hkey, if_false]
        constructor
        · intro hstray
          exact ⟨by simp, hkey, hall, hstray⟩
        · exact fun hq => hq.2.2.2

theorem plain_of_mem_sharedKey {k : String} (h : k ∈ q.sharedKey) : Name.IsPlain k := by
  unfold sharedKey at h
  split at h
  · simp at h
  · rename_i first rest hschemas
    exact first.plain_of_mem_key h

theorem plain_of_mem_conditions (hq : q.fault? = none) {k : String}
    (hk : k ∈ q.conditions.keys) : Name.IsPlain k := by
  obtain ⟨-, -, -, hwhere⟩ := fault?_eq_none_iff.1 hq
  obtain ⟨s, hs, hks⟩ := hwhere k hk
  exact s.plain_of_mem_columnNames hks

theorem schemas_ne_nil (h : q.fault? = none) : q.schemas ≠ [] := by
  have hlen := (fault?_eq_none_iff.1 h).1
  intro hnil
  simp [hnil] at hlen

end Join

namespace Query

/-- Text that is documented to be taken as it stands. -/
def expressions : Query → List String
  | insert q => q.written.map Prod.snd
  | select q => q.order.toList
  | update _ => []
  | join _ => []

/-- The names that an insertion is asked to return. -/
def returning : Query → List String
  | insert q => q.returning
  | _ => []

end Query
end RowSql
