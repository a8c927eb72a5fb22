import RowSql.Proofs.Query.Accepted
import RowSql.Proofs.Query.Chunks
import RowSql.Proofs.Row.Bound

/-!
# Slots of an insertion

An insertion lists its columns and then, in the same order, one slot for each of them. The
slot of a bound column is a mark and that of a written column its expression. A column is
listed once, and it stays bound unless an expression takes its place.
-/
namespace RowSql

namespace Insert

variable (q : Insert)

/-- The columns of the statement in order. -/
def columns : List String := q.entries.map Prod.fst

/-- The bound columns that no expression replaces. -/
def kept : Bindings := q.row.bound.filter fun p => p.1 ∉ q.written.map Prod.fst

/-- The slots of some columns, the first mark among them being the `n`-th. -/
def slotsFrom (m : Marker) : Nat → List (String × Entry) → List String
  | _, [] => []
  | n, (_, .bound _) :: rest => m.mark n :: slotsFrom m (n + 1) rest
  | n, (_, .written sql) :: rest => sql :: slotsFrom m n rest

/-- The slots of the statement, one for each column. -/
def slots (m : Marker) : List String := slotsFrom m 1 q.entries

def returningText : String :=
  if q.returning = [] then "" else " returning " ++ ",".intercalate q.returning

/-- The bound ones among some columns. -/
def boundOf (entries : List (String × Entry)) : Bindings :=
  entries.filterMap fun e =>
    match e.2 with
    | .bound v => some (e.1, v)
    | .written _ => none

@[simp] theorem boundOf_nil : boundOf [] = [] := rfl

@[simp] theorem boundOf_cons_bound (n : String) (v : Value) (es : List (String × Entry)) :
    boundOf ((n, .bound v) :: es) = (n, v) :: boundOf es := rfl

@[simp] theorem boundOf_cons_written (n sql : String) (es : List (String × Entry)) :
    boundOf ((n, .written sql) :: es) = boundOf es := rfl

/-! ## Writing expressions -/

theorem map_fst_addWritten (es : List (String × Entry)) (w : String × String) :
    (addWritten es w).map Prod.fst =
      if w.1 ∈ es.map Prod.fst then es.map Prod.fst else es.map Prod.fst ++ [w.1] := by
  unfold addWritten
  split
  · rw [List.map_map]
    apply List.map_congr_left
    intro e he
    by_cases h : e.1 = w.1 <;> simp [h]
  · simp

theorem boundOf_addWritten (es : List (String × Entry)) (w : String × String) :
    boundOf (addWritten es w) = (boundOf es).filter fun p => p.1 ≠ w.1 := by
  have hreplace : ∀ es : List (String × Entry),
      boundOf (es.map fun e => if e.1 = w.1 then (e.1, .written w.2) else e) =
        (boundOf es).filter fun p => p.1 ≠ w.1 := by
    intro es
    induction es with
    | nil => rfl
    | cons e es ih =>
      obtain ⟨n, entry⟩ := e
      by_cases hn : n = w.1 <;> cases entry <;> simp [hn, ih]
  unfold addWritten
  split
  · exact hreplace es
  · rename_i hw
    have hnone : ∀ p ∈ boundOf es, p.1 ≠ w.1 := by
      intro p hp hpw
      obtain ⟨e, he, hep⟩ := List.mem_filterMap.1 hp
      apply hw
      cases hentry : e.2 with
      | bound v =>
        simp only [hentry, Option.some.injEq] at hep
        exact List.mem_map.2 ⟨e, he, by rw [← hpw, ← hep]⟩
      | written sql => simp [hentry] at hep
    have hall : (boundOf es).filter (fun p => p.1 ≠ w.1) = boundOf es :=
      List.filter_eq_self.2 fun p hp => by simpa using hnone p hp
    rw [hall]
    simp [boundOf]

/-- What stays bound after all expressions are written. -/
theorem boundOf_foldl (written : List (String × String)) (es : List (String × Entry)) :
    boundOf (written.foldl addWritten es) =
      (boundOf es).filter fun p => p.1 ∉ written.map Prod.fst := by
  induction written generalizing es with
  | nil => simp
  | cons w written ih =>
    rw [List.foldl_cons, ih, boundOf_addWritten, List.filter_filter]
    apply List.filter_congr
    intro p hp
    rw [← Bool.decide_and, decide_eq_decide, List.map_cons, List.mem_cons, not_or, and_comm]

theorem boundOf_entries : boundOf q.entries = q.kept := by
  have hstart : boundOf (q.row.bound.map fun p => (p.1, Entry.bound p.2)) = q.row.bound := by
    simp [boundOf, List.filterMap_map]
  rw [entries, boundOf_foldl, hstart, kept]

theorem nodup_foldl_addWritten (written : List (String × String)) {es : List (String × Entry)}
    (h : (es.map Prod.fst).Nodup) : ((written.foldl addWritten es).map Prod.fst).Nodup := by
  induction written generalizing es with
  | nil => exact h
  | cons w written ih =>
    apply ih
    rw [map_fst_addWritten]
    split
    · exact h
    · rename_i hw
      exact List.nodup_append.2 ⟨h, by simp, by rintro a ha b hb rfl; simp_all⟩

theorem nodup_columns : q.columns.Nodup := by
  apply nodup_foldl_addWritten
  rw [List.map_map]
  exact q.row.nodup_keys_bound

/-- Without expressions the columns are the bound ones, and all of them are kept. -/
theorem columns_of_written_nil {q : Insert} (hq : q.written = []) :
    q.columns = q.row.bound.keys := by
  rw [columns, entries, hq, List.foldl_nil, List.map_map]
  rfl

theorem kept_of_written_nil {q : Insert} (hq : q.written = []) : q.kept = q.row.bound := by
  simp [kept, hq]

theorem mem_addWritten_iff {es : List (String × Entry)} {w : String × String}
    {e : String × Entry} :
    e ∈ addWritten es w ↔ (e ∈ es ∧ e.1 ≠ w.1) ∨ e = (w.1, .written w.2) := by
  unfold addWritten
  split
  · rename_i hw
    obtain ⟨old, hold, hname⟩ := List.mem_map.1 hw
    rw [List.mem_map]
    constructor
    · rintro ⟨e', he', rfl⟩
      by_cases h : e'.1 = w.1
      · exact Or.inr (by simp [h])
      · exact Or.inl (by simpa [h] using he')
    · rintro (⟨he, hne⟩ | rfl)
      · exact ⟨e, he, if_neg hne⟩
      · exact ⟨old, hold, by simp [hname]⟩
  · rename_i hw
    have hne : ∀ e ∈ es, e.1 ≠ w.1 := fun e he heq => hw (List.mem_map.2 ⟨e, he, heq⟩)
    rw [List.mem_append, List.mem_singleton, and_iff_left_of_imp (hne e)]

/-- A column is bound by the row or has an expression. -/
theorem mem_entries {e : String × Entry} (h : e ∈ q.entries) :
    (∃ p ∈ q.row.bound, e = (p.1, .bound p.2)) ∨ ∃ w ∈ q.written, e = (w.1, .written w.2) := by
  have hfold : ∀ (written : List (String × String)) (es : List (String × Entry)),
      e ∈ written.foldl addWritten es → e ∈ es ∨ ∃ w ∈ written, e = (w.1, .written w.2) := by
    intro written
    induction written with
    | nil => exact fun es he => Or.inl he
    | cons w written ih =>
      intro es he
      rcases ih _ he with he | ⟨w', hw', rfl⟩
      · rcases mem_addWritten_iff.1 he with ⟨he, -⟩ | rfl
        · exact Or.inl he
        · exact Or.inr ⟨w, by simp, rfl⟩
      · exact Or.inr ⟨w', List.mem_cons_of_mem _ hw', rfl⟩
  rcases hfold q.written _ h with he | he
  · obtain ⟨p, hp, rfl⟩ := List.mem_map.1 he
    exact Or.inl ⟨p, hp, rfl⟩
  · exact Or.inr he

theorem plain_of_mem_columns (hq : q.fault? = none) {c : String} (h : c ∈ q.columns) :
    Name.IsPlain c := by
  obtain ⟨e, he, rfl⟩ := List.mem_map.1 h
  rcases q.mem_entries he with ⟨p, hp, rfl⟩ | ⟨w, hw, rfl⟩
  · exact q.row.plain_of_mem_keys_bound (List.mem_map_of_mem hp)
  · exact fault?_eq_none_iff.1 hq w hw

/-! ## The text of the statement -/

@[simp] theorem length_slotsFrom (m : Marker) (n : Nat) (es : List (String × Entry)) :
    (slotsFrom m n es).length = es.length := by
  fun_induction slotsFrom m n es <;> simp_all

/-- The mark of the `k`-th bound column stands in the slot of that column. -/
theorem slot_of_boundOf (m : Marker) (n k : Nat) (es : List (String × Entry))
    {p : String × Value} (h : (boundOf es)[k]? = some p) :
    ∃ i : Nat, (es.map Prod.fst)[i]? = some p.1 ∧
      (slotsFrom m n es)[i]? = some (m.mark (n + k)) := by
  induction es generalizing n k with
  | nil => simp at h
  | cons e es ih =>
    obtain ⟨c, entry⟩ := e
    cases entry with
    | written sql =>
      obtain ⟨i, hi, hmark⟩ := ih n k h
      exact ⟨i + 1, by simpa using hi, by simpa [slotsFrom] using hmark⟩
    | bound v =>
      cases k with
      | zero =>
        simp only [boundOf_cons_bound, List.getElem?_cons_zero, Option.some.injEq] at h
        exact ⟨0, by simp [← h], by simp [slotsFrom]⟩
      | succ k =>
        obtain ⟨i, hi, hmark⟩ := ih (n + 1) k h
        refine ⟨i + 1, by simpa using hi, ?_⟩
        rw [slotsFrom, List.getElem?_cons_succ, hmark, Nat.add_right_comm, Nat.add_assoc]

theorem parameters_entryPieces (es : List (String × Entry)) :
    Template.parameters ((es.map fun e => entryPiece e.2).intersperse (.text ",")) =
      (boundOf es).values := by
  induction es with
  | nil => rfl
  | cons e es ih =>
    obtain ⟨c, entry⟩ := e
    cases es with
    | nil => cases entry <;> rfl
    | cons e' es =>
      cases entry <;>
        simpa [entryPiece, Template.parameters, Bindings.values, List.intersperse_cons_cons]
          using ih

theorem sqlFrom_entryPieces (m : Marker) (n : Nat) (es : List (String × Entry)) :
    Template.sqlFrom m n ((es.map fun e => entryPiece e.2).intersperse (.text ",")) =
      ",".intercalate (slotsFrom m n es) := by
  induction es generalizing n with
  | nil => rfl
  | cons e es ih =>
    obtain ⟨c, entry⟩ := e
    cases es with
    | nil => cases entry <;> simp [entryPiece, Template.sqlFrom, slotsFrom]
    | cons e' es =>
      have hne : ∀ k, slotsFrom m k (e' :: es) ≠ [] := fun k h => by
        simpa [h] using length_slotsFrom m k (e' :: es)
      cases entry with
      | bound v =>
        rw [slotsFrom, String.intercalate_cons_of_ne_nil (hne _), ← ih (n + 1)]
        simp [entryPiece, Template.sqlFrom, String.append_assoc]
      | written sql =>
        rw [slotsFrom, String.intercalate_cons_of_ne_nil (hne _), ← ih n]
        simp [entryPiece, Template.sqlFrom, String.append_assoc]

theorem parameters_pieces : Template.parameters q.pieces = q.kept.values := by
  have hret : Template.parameters (returningPieces q.returning) = [] := by
    unfold returningPieces
    split <;> rfl
  rw [pieces, Template.parameters, Template.parameters_append, hret, List.append_nil,
    ← boundOf_entries, valuesPieces]
  split
  · simp_all [Template.parameters, Bindings.values]
  · simp [Template.parameters, parameters_entryPieces]

theorem sqlFrom_returningPieces (m : Marker) (n : Nat) :
    Template.sqlFrom m n (returningPieces q.returning) = q.returningText := by
  unfold returningPieces returningText
  split <;> simp [Template.sqlFrom]

/-- The text of an insertion, with its columns and their slots. -/
theorem sql_pieces (m : Marker) : (q.pieces.render m).sql =
    "insert into " ++ q.row.schema.table ++
      (if q.columns = [] then " default values"
        else " (" ++ ",".intercalate q.columns ++ ") values (" ++
          ",".intercalate (q.slots m) ++ ")") ++ q.returningText := by
  simp only [Template.render, pieces, Template.sqlFrom, Template.sqlFrom_append,
    sqlFrom_returningPieces, valuesPieces, columns, List.map_eq_nil_iff, slots]
  split
  · simp [Template.sqlFrom, String.append_assoc]
  · simp [Template.sqlFrom, Template.sqlFrom_append, sqlFrom_entryPieces, String.append_assoc]

end Insert
end RowSql
