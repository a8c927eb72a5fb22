import Mathlib.Data.List.Induction
import RowSql.Proofs.Query.Slots

/-!
# Insertions with expressions

The columns of an insertion are those that the row binds and then the further ones that have an
expression, in the order of their first. The last expression of a column stands in its slot, and
a column without one is marked. Nothing else of the calls is left in the statement, so it can be
stated apart from the fold that collects them. Main statement: `Insert.build_documented`.
-/
namespace RowSql

namespace Insert

variable (q : Insert)

/-! ## The statement, stated apart from how it is collected -/

/-- The names that have an expression and are no bound columns, in the order of their first. -/
def addedNames : List String :=
  (q.written.map Prod.fst).eraseDups.filter (· ∉ q.row.bound.keys)

/-- The columns that are to be listed. -/
def listed : List String := q.row.bound.keys ++ q.addedNames

/-- The last expression for a column. -/
def expression? (column : String) : Option String := q.written.reverse.lookup column

/-- The slot of a column. A mark has the number that the value of the column has among the
parameters. -/
def slotOf (m : Marker) (column : String) : String :=
  match q.expression? column with
  | some sql => sql
  | none => m.mark (1 + q.kept.keys.idxOf column)

/-- The text in front of the columns that are to be returned. -/
def documentedBody (m : Marker) : String :=
  "insert into " ++ q.row.schema.table ++
    if q.row.bound = [] ∧ q.written = [] then " default values"
    else " (" ++ ",".intercalate q.listed ++ ") values (" ++
      ",".intercalate (q.listed.map (q.slotOf m)) ++ ")"

def documented (m : Marker) : Statement where
  sql := q.documentedBody m ++ q.returningText
  parameters := q.kept.values

/-- The first call with a name that is not plain. -/
def FirstOdd (written : List (String × String)) (name : String) : Prop :=
  ∃ before sql after, written = before ++ (name, sql) :: after ∧
    (∀ w ∈ before, Name.IsPlain w.1) ∧ ¬ Name.IsPlain name

/-! ## Faults -/

theorem fault?_eq_some_iff {q : Insert} {fault : Fault} : q.fault? = some fault ↔
    ∃ name, FirstOdd q.written name ∧ fault = .invalidIdentifier name := by
  rw [fault?, List.findSome?_eq_some_iff]
  constructor
  · rintro ⟨before, w, after, hwritten, hw, hbefore⟩
    simp only [Name.fault?, Option.ite_none_left_eq_some, Option.some.injEq] at hw
    exact ⟨w.1, ⟨before, w.2, after, hwritten, fun w hw => Name.fault?_eq_none.1 (hbefore w hw),
      hw.1⟩, hw.2.symm⟩
  · rintro ⟨name, ⟨before, sql, after, hwritten, hbefore, hname⟩, rfl⟩
    exact ⟨before, (name, sql), after, hwritten, if_neg hname,
      fun w hw => Name.fault?_eq_none.2 (hbefore w hw)⟩

/-! ## Columns -/

theorem mem_append_filter_eraseDups {names added : List String} {name : String} :
    name ∈ names ++ added.eraseDups.filter (· ∉ names) ↔ name ∈ names ∨ name ∈ added := by
  rw [List.mem_append, List.mem_filter, List.mem_eraseDups, decide_eq_true_iff]
  exact or_and_left.trans (and_iff_left (em (name ∈ names)))

/-- One more name comes last if it is neither there before nor among the names added so far. -/
theorem append_filter_eraseDups_append (names added : List String) (name : String) :
    names ++ (added ++ [name]).eraseDups.filter (· ∉ names) =
      if name ∈ names ++ added.eraseDups.filter (· ∉ names)
      then names ++ added.eraseDups.filter (· ∉ names)
      else names ++ added.eraseDups.filter (· ∉ names) ++ [name] := by
  by_cases hadded : name ∈ added
  · rw [if_pos (mem_append_filter_eraseDups.2 (Or.inr hadded)),
      List.eraseDups_append_of_mem hadded]
  · rw [List.eraseDups_append_of_notMem hadded, List.filter_append]
    by_cases hnames : name ∈ names
    · rw [if_pos (mem_append_filter_eraseDups.2 (Or.inl hnames))]
      simp [hnames]
    · have hnew : ¬ (name ∈ names ∨ name ∈ added) := not_or.2 ⟨hnames, hadded⟩
      rw [if_neg (mt mem_append_filter_eraseDups.1 hnew), List.append_assoc]
      simp [hnames]

/-- What the calls add to the columns that are there before. -/
theorem map_fst_foldl_addWritten (written : List (String × String)) (es : List (String × Entry)) :
    (written.foldl addWritten es).map Prod.fst = es.map Prod.fst ++
      (written.map Prod.fst).eraseDups.filter (· ∉ es.map Prod.fst) := by
  induction written using List.reverseRecOn with
  | nil => simp
  | append_singleton written w ih =>
    rw [List.foldl_append, List.foldl_cons, List.foldl_nil, map_fst_addWritten, ih, List.map_append,
      List.map_singleton, append_filter_eraseDups_append]

theorem columns_eq_listed : q.columns = q.listed := by
  have hbound : (q.row.bound.map fun p => (p.1, Entry.bound p.2)).map Prod.fst =
      q.row.bound.keys := by
    rw [List.map_map]
    rfl
  rw [columns, entries, map_fst_foldl_addWritten, hbound, listed, addedNames]

theorem mem_listed {column : String} :
    column ∈ q.listed ↔ column ∈ q.row.bound.keys ∨ column ∈ q.written.map Prod.fst :=
  mem_append_filter_eraseDups

/-- No column is listed exactly when there is neither a value nor an expression. -/
theorem listed_eq_nil_iff : q.listed = [] ↔ q.row.bound = [] ∧ q.written = [] := by
  rw [List.eq_nil_iff_forall_not_mem]
  simp only [mem_listed, not_or, forall_and]
  rw [← List.eq_nil_iff_forall_not_mem, ← List.eq_nil_iff_forall_not_mem, Bindings.keys,
    List.map_eq_nil_iff, List.map_eq_nil_iff]

/-! ## Entries -/

theorem lookup_reverse_eq_none_iff {written : List (String × String)} {column : String} :
    written.reverse.lookup column = none ↔ column ∉ written.map Prod.fst := by
  rw [← Option.not_isSome_iff_eq_none, List.isSome_lookup_iff, List.map_reverse, List.mem_reverse]

/-- The last call for a column decides. -/
theorem expression?_of_last {before after : List (String × String)} {column sql : String}
    (hwritten : q.written = before ++ (column, sql) :: after)
    (hlast : column ∉ after.map Prod.fst) : q.expression? column = some sql := by
  rw [expression?, hwritten, List.reverse_append, List.reverse_cons, List.lookup_append,
    List.lookup_append, lookup_reverse_eq_none_iff.2 hlast]
  simp

/-- What an entry says is the last that the calls said of its column. -/
def Settled (written : List (String × String)) (e : String × Entry) : Prop :=
  match e.2 with
  | .bound _ => written.reverse.lookup e.1 = none
  | .written sql => written.reverse.lookup e.1 = some sql

theorem settled_foldl_addWritten (written : List (String × String)) {es : List (String × Entry)}
    (hes : ∀ e ∈ es, ∃ v, e.2 = .bound v) :
    ∀ e ∈ written.foldl addWritten es, Settled written e := by
  -- The last call decides, so the calls are taken off from the end.
  induction written using List.reverseRecOn with
  | nil =>
    intro e he
    obtain ⟨v, hv⟩ := hes e he
    simp [Settled, hv]
  | append_singleton written w ih =>
    intro e he
    rw [List.foldl_append, List.foldl_cons, List.foldl_nil] at he
    rcases mem_addWritten_iff.1 he with ⟨he, hne⟩ | rfl
    · have hold := ih e he
      unfold Settled at hold ⊢
      rwa [List.lookup_reverse_append_singleton, if_neg hne]
    · simp only [Settled]
      rw [List.lookup_reverse_append_singleton, if_pos rfl]

theorem settled_entries : ∀ e ∈ q.entries, Settled q.written e := by
  apply settled_foldl_addWritten
  intro e he
  obtain ⟨p, hp, rfl⟩ := List.mem_map.1 he
  exact ⟨p.2, rfl⟩

/-! ## Slots -/

/-- Where columns differ, the number of a mark is told by the place of its column among the
bound ones. -/
theorem slotsFrom_eq_map (m : Marker) (n : Nat) {es : List (String × Entry)}
    (hdistinct : (es.map Prod.fst).Nodup) :
    slotsFrom m n es = es.map fun e =>
      match e.2 with
      | .bound _ => m.mark (n + (boundOf es).keys.idxOf e.1)
      | .written sql => sql := by
  induction es generalizing n with
  | nil => rfl
  | cons e es ih =>
    obtain ⟨c, entry⟩ := e
    obtain ⟨hnew, hrest⟩ := List.nodup_cons.1 hdistinct
    cases entry with
    | written sql =>
      rw [slotsFrom, ih n hrest]
      rfl
    | bound v =>
      -- The numbers behind a bound column are one higher, and so are the places.
      rw [slotsFrom, ih (n + 1) hrest, List.map_cons]
      congr 1
      · simp [Bindings.keys]
      · refine List.map_congr_left fun e he => ?_
        obtain ⟨c', entry⟩ := e
        cases entry with
        | written sql => rfl
        | bound v' =>
          have hne : c ≠ c' := fun h => hnew (List.mem_map.2 ⟨_, he, h.symm⟩)
          simp only [boundOf_cons_bound, Bindings.keys, List.map_cons]
          rw [List.idxOf_cons_ne _ hne, Nat.succ_eq_add_one, Nat.add_right_comm, Nat.add_assoc]

theorem slots_eq_map (m : Marker) : q.slots m = q.listed.map (q.slotOf m) := by
  rw [← columns_eq_listed, columns, List.map_map, slots, slotsFrom_eq_map m 1 q.nodup_columns,
    boundOf_entries]
  refine List.map_congr_left fun e he => ?_
  have hsettled := q.settled_entries e he
  obtain ⟨c, entry⟩ := e
  cases entry with
  | bound v =>
    have hnone : q.expression? c = none := hsettled
    simp only [Function.comp_apply, slotOf, hnone]
  | written sql =>
    have hsome : q.expression? c = some sql := hsettled
    simp only [Function.comp_apply, slotOf, hsome]

/-- A column without an expression is bound, and its mark is that of its value. -/
theorem slotOf_of_notMem (m : Marker) {column : String} (hlisted : column ∈ q.listed)
    (hnone : column ∉ q.written.map Prod.fst) :
    ∃ (k : Nat) (v : Value), q.slotOf m column = m.mark (k + 1) ∧
      q.kept[k]? = some (column, v) := by
  have hbound : column ∈ q.row.bound.keys := (q.mem_listed.1 hlisted).resolve_right hnone
  have hkept : column ∈ q.kept.keys := by
    obtain ⟨p, hp, rfl⟩ := List.mem_map.1 hbound
    exact List.mem_map_of_mem (List.mem_filter.2 ⟨hp, decide_eq_true hnone⟩)
  have hplace : q.kept.keys[q.kept.keys.idxOf column]? = some column := List.getElem?_idxOf hkept
  rw [Bindings.keys, List.getElem?_map, Option.map_eq_some_iff] at hplace
  obtain ⟨⟨name, v⟩, hp, rfl⟩ := hplace
  refine ⟨q.kept.keys.idxOf name, v, ?_, hp⟩
  rw [slotOf, expression?, lookup_reverse_eq_none_iff.2 hnone, Nat.add_comm]

/-! ## Text -/

theorem render_pieces_eq_documented (m : Marker) : q.pieces.render m = q.documented m := by
  have hsql := q.sql_pieces m
  simp only [columns_eq_listed, slots_eq_map, listed_eq_nil_iff] at hsql
  have hparameters : (q.pieces.render m).parameters = q.kept.values := q.parameters_pieces
  rw [documented, documentedBody, ← hsql, ← hparameters]

/-- The text says `default values` where it does only if no column is listed. -/
theorem sql_documented_eq_default_iff (m : Marker) :
    (q.documented m).sql =
      "insert into " ++ q.row.schema.table ++ " default values" ++ q.returningText ↔
    q.row.bound = [] ∧ q.written = [] := by
  rw [documented, documentedBody, String.append_left_inj, String.append_right_inj]
  split
  · rename_i h
    exact iff_of_true rfl h
  · rename_i h
    refine iff_of_false (fun htext => ?_) h
    have hchars := congrArg String.toList htext
    simp at hchars

theorem sql_documented_eq_body_iff (m : Marker) :
    (q.documented m).sql = q.documentedBody m ↔ q.returning = [] := by
  rw [documented, String.append_eq_left_iff, returningText]
  split
  · rename_i h
    exact iff_of_true rfl h
  · rename_i h
    exact iff_of_false (by simp) h

/-! ## Main statement -/

/-- What an insertion compiles to. -/
structure Documented (q : Insert) (m : Marker) : Prop where
  error_iff : ∀ fault, (Query.insert q).build m = .error fault ↔
    ∃ name, FirstOdd q.written name ∧ fault = .invalidIdentifier name
  refused_iff : (∃ fault, (Query.insert q).build m = .error fault) ↔
    ∃ w ∈ q.written, ¬ Name.IsPlain w.1
  built : (∀ w ∈ q.written, Name.IsPlain w.1) → (Query.insert q).build m = .ok (q.documented m)
  listed_distinct : q.listed.Nodup
  slot_last : ∀ before column sql after, q.written = before ++ (column, sql) :: after →
    column ∉ after.map Prod.fst → column ∈ q.listed ∧ q.slotOf m column = sql
  slot_kept : ∀ column ∈ q.listed, column ∉ q.written.map Prod.fst →
    ∃ (k : Nat) (v : Value), q.slotOf m column = m.mark (k + 1) ∧ q.kept[k]? = some (column, v)
  default_iff : (q.documented m).sql =
      "insert into " ++ q.row.schema.table ++ " default values" ++ q.returningText ↔
    q.row.bound = [] ∧ q.written = []
  returning_iff : (q.documented m).sql = q.documentedBody m ↔ q.returning = []

/-- An insertion with expressions compiles to the documented statement, unless the name of an
expression is not plain, and then the first such name is reported. -/
theorem build_documented (q : Insert) (m : Marker) : Documented q m where
  error_iff := fun fault => Query.build_eq_error.trans fault?_eq_some_iff
  refused_iff := by
    simp only [Query.build_eq_error, Query.fault?]
    rw [← Option.isSome_iff_exists, Option.isSome_iff_ne_none, Ne, fault?_eq_none_iff]
    simp
  built := fun hplain =>
    Query.build_eq_ok.2 ⟨fault?_eq_none_iff.2 hplain, q.render_pieces_eq_documented m⟩
  listed_distinct := by
    rw [← columns_eq_listed]
    exact q.nodup_columns
  slot_last := by
    intro before column sql after hwritten hlast
    refine ⟨q.mem_listed.2 (Or.inr (by simp [hwritten])), ?_⟩
    simp only [slotOf, q.expression?_of_last hwritten hlast]
  slot_kept := fun _ => q.slotOf_of_notMem m
  default_iff := q.sql_documented_eq_default_iff m
  returning_iff := q.sql_documented_eq_body_iff m

end Insert
end RowSql
