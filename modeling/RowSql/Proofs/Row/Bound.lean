import Mathlib.Data.List.Nodup
import RowSql.Proofs.Schema.Names
import RowSql.Row

/-!
# Bound columns of a row

A row is known by its schema and the value of each column, and the bound columns with their
values are a second form of it. Naming is the way back: values that are bound by name to
different columns of an empty row end up in those columns, whatever their order. Main
statement: a row is what its bound columns make by name, and what their values make by position
when all columns are bound.
-/
namespace RowSql

theorem List.eraseDups_append_of_mem {α : Type} [BEq α] [LawfulBEq α] {xs : List α} {x : α}
    (hx : x ∈ xs) : (xs ++ [x]).eraseDups = xs.eraseDups := by
  have hremoved : [x].removeAll xs = [] := by simp [List.removeAll, hx]
  rw [List.eraseDups_append, hremoved, List.eraseDups_nil, List.append_nil]

theorem List.eraseDups_append_of_notMem {α : Type} [BEq α] [LawfulBEq α] {xs : List α} {x : α}
    (hx : x ∉ xs) : (xs ++ [x]).eraseDups = xs.eraseDups ++ [x] := by
  have hremoved : [x].removeAll xs = [x] := by simp [List.removeAll, hx]
  rw [List.eraseDups_append, hremoved]
  rfl

theorem List.isSome_lookup_iff {α : Type} {pairs : List (String × α)} {name : String} :
    (pairs.lookup name).isSome ↔ name ∈ pairs.map Prod.fst := by
  rw [List.lookup_isSome_iff, List.mem_map]
  exact exists_congr fun p => and_congr_right fun _ => by rw [beq_iff_eq, eq_comm]

theorem List.lookup_reverse_append_singleton {α : Type} (pairs : List (String × α))
    (p : String × α) (name : String) : (pairs ++ [p]).reverse.lookup name =
      if name = p.1 then some p.2 else pairs.reverse.lookup name := by
  rw [List.reverse_append, List.reverse_singleton, List.singleton_append, List.lookup_cons]
  by_cases h : name = p.1
  · simp [h]
  · simp [beq_false_of_ne h, h]

namespace Schema

variable (s : Schema) {field : String} {place : Nat}

theorem position?_eq_findIdx? : s.position? field = s.columnNames.findIdx? (· == field) := by
  rw [position?, Declaration.columnNames, List.findIdx?_map]
  rfl

/-- Columns differ by name, so a name stands at one place. -/
theorem position?_eq_some_iff :
    s.position? field = some place ↔ s.columnNames[place]? = some field := by
  have hdistinct := s.wellFormed.columns_distinct
  rw [position?_eq_findIdx?, List.findIdx?_eq_some_iff_getElem]
  constructor
  · rintro ⟨hplace, hfield, -⟩
    rw [List.getElem?_eq_getElem hplace, eq_of_beq hfield]
  · intro h
    obtain ⟨hplace, hfield⟩ := List.getElem?_eq_some_iff.1 h
    refine ⟨hplace, by simp [hfield], fun j hj heq => ?_⟩
    have hsame : s.columnNames[j] = s.columnNames[place] := by
      rw [hfield]
      exact eq_of_beq heq
    exact Nat.ne_of_lt hj (hdistinct.getElem_inj_iff.1 hsame)

theorem lt_width_of_position? (h : s.position? field = some place) : place < s.width := by
  rw [position?_eq_some_iff] at h
  simpa using (List.getElem?_eq_some_iff.1 h).1

theorem position?_of_mem (h : field ∈ s.columnNames) :
    ∃ place, s.position? field = some place := by
  rw [← Option.isSome_iff_exists, ← hasField, hasField_iff]
  exact h

end Schema

namespace Bindings

variable {names : List String} {cells : List Cell}

/-- The names whose cells hold a value, with these values. -/
def supplied (names : List String) (cells : List Cell) : Bindings :=
  (names.zip cells).filterMap fun p => p.2.map (p.1, ·)

@[simp] theorem supplied_nil : supplied [] cells = [] := rfl

@[simp] theorem supplied_nil_cells : supplied names [] = [] := by
  simp [supplied]

@[simp] theorem supplied_cons_none {name : String} :
    supplied (name :: names) (none :: cells) = supplied names cells := rfl

@[simp] theorem supplied_cons_some {name : String} {v : Value} :
    supplied (name :: names) (some v :: cells) = (name, v) :: supplied names cells := rfl

theorem supplied_map_some (names : List String) (values : List Value) :
    supplied names (values.map some) = names.zip values := by
  induction names generalizing values with
  | nil => rfl
  | cons name names ih =>
    cases values with
    | nil => simp
    | cons v values => rw [List.map_cons, supplied_cons_some, ih, List.zip_cons_cons]

/-- Cells at the end that hold nothing supply nothing. -/
theorem supplied_append_replicate_none (names : List String) (cells : List Cell) (n : Nat) :
    supplied names (cells ++ List.replicate n none) = supplied names cells := by
  induction names generalizing cells n with
  | nil => rfl
  | cons name names ih =>
    cases cells with
    | nil =>
      cases n with
      | zero => rfl
      | succ n => simpa [List.replicate_succ] using ih [] n
    | cons c cells => cases c <;> simpa using ih cells n

theorem keys_supplied (names : List String) (cells : List Cell) : (supplied names cells).keys =
    ((names.zip (cells.map Option.isSome)).filter Prod.snd).map Prod.fst := by
  induction names generalizing cells with
  | nil => simp [keys]
  | cons name names ih =>
    cases cells with
    | nil => simp [keys]
    | cons c cells => cases c <;> simpa [keys] using ih cells

theorem values_supplied (h : cells.length = names.length) :
    (supplied names cells).values = cells.filterMap id := by
  induction names generalizing cells with
  | nil => simp_all [values]
  | cons name names ih =>
    cases cells with
    | nil => simp at h
    | cons c cells =>
      have hrest := @ih cells (by simpa using h)
      cases c <;> simpa [values] using hrest

/-- A name leads to the value of the cell at its place. -/
theorem lookup_supplied (hdistinct : names.Nodup) (cells : List Cell) (field : String) :
    (supplied names cells).lookup field =
      (names.findIdx? (· == field)).bind fun place => cells[place]?.join := by
  induction names generalizing cells with
  | nil => rfl
  | cons name names ih =>
    obtain ⟨hnew, hdistinct⟩ := List.nodup_cons.1 hdistinct
    cases cells with
    | nil => simp
    | cons c cells =>
      have hrest := ih hdistinct cells
      rw [List.findIdx?_cons]
      by_cases hname : name = field
      · subst hname
        have hnone : names.findIdx? (· == name) = none := by
          rw [List.findIdx?_eq_none_iff]
          intro other hother
          exact beq_false_of_ne fun h => hnew (h ▸ hother)
        cases c with
        | none => simpa [hnone] using hrest
        | some v => simp
      · cases c with
        | none => simpa [hname, Option.bind_map, Function.comp_def] using hrest
        | some v =>
          simpa [hname, beq_false_of_ne (Ne.symm hname), List.lookup_cons, Option.bind_map,
            Function.comp_def] using hrest

/-! ## Looking up -/

theorem lookup_eq_some_iff_mem {b : Bindings} (hdistinct : b.keys.Nodup) {name : String}
    {v : Value} : b.lookup name = some v ↔ (name, v) ∈ b := by
  induction b with
  | nil => simp
  | cons p b ih =>
    obtain ⟨k, w⟩ := p
    obtain ⟨hnew, hdistinct⟩ := List.nodup_cons.1 hdistinct
    by_cases hk : name = k
    · subst hk
      have hlater : (name, v) ∉ b := fun h => hnew (List.mem_map.2 ⟨(name, v), h, rfl⟩)
      simp [hlater, eq_comm]
    · simp [List.lookup_cons, beq_false_of_ne hk, hk, ih hdistinct]

theorem isSome_lookup_iff {b : Bindings} {name : String} :
    (b.lookup name).isSome ↔ name ∈ b.keys := List.isSome_lookup_iff

/-- Where names differ, the order of the pairs does not matter. -/
theorem lookup_eq_of_perm {b c : Bindings} (hdistinct : b.keys.Nodup) (h : b.Perm c)
    (name : String) : c.lookup name = b.lookup name := by
  have hdistinct' : c.keys.Nodup := (h.map Prod.fst).nodup_iff.1 hdistinct
  apply Option.ext
  intro v
  rw [lookup_eq_some_iff_mem hdistinct, lookup_eq_some_iff_mem hdistinct', h.mem_iff]

end Bindings

namespace Row

variable (r : Row)

/-- Bound columns are declared, in the order of the declaration and each once. -/
theorem keys_bound : r.bound.keys =
    ((r.schema.columnNames.zip (r.cells.map Option.isSome)).filter Prod.snd).map Prod.fst :=
  Bindings.keys_supplied _ _

theorem keys_bound_sublist : r.bound.keys.Sublist r.schema.columnNames := by
  have hzip : ((r.schema.columnNames.zip (r.cells.map Option.isSome)).map Prod.fst).Sublist
      r.schema.columnNames := by
    rw [List.map_fst_zip (by simp [r.length_cells])]
  rw [r.keys_bound]
  exact (List.filter_sublist.map Prod.fst).trans hzip

theorem nodup_keys_bound : r.bound.keys.Nodup :=
  r.schema.wellFormed.columns_distinct.sublist r.keys_bound_sublist

theorem mem_columnNames_of_mem_keys_bound {k : String} (h : k ∈ r.bound.keys) :
    k ∈ r.schema.columnNames := r.keys_bound_sublist.subset h

theorem plain_of_mem_keys_bound {k : String} (h : k ∈ r.bound.keys) : Name.IsPlain k :=
  r.schema.plain_of_mem_columnNames (r.mem_columnNames_of_mem_keys_bound h)

/-! ## Values by column -/

variable {r} {r' : Row} {field : String} {place : Nat}

theorem value?_of_position? (h : r.schema.position? field = some place) :
    r.value? field = r.cellAt place := by
  rw [value?, h, Option.bind_some]

/-- There is a cell at every place of the schema. -/
theorem getElem?_cells (h : place < r.schema.width) : r.cells[place]? = some (r.cellAt place) := by
  rw [cellAt, List.getElem?_eq_getElem (by rw [r.length_cells]; exact h), Option.join_some]

/-- A row is determined by its schema and the values of its columns. -/
theorem ext_value? (hschema : r.schema = r'.schema)
    (hvalue : ∀ field, r.value? field = r'.value? field) : r = r' := by
  have hcells : r.cells = r'.cells := by
    apply List.ext_getElem?
    intro place
    by_cases hplace : place < r.schema.width
    · have hplace' : place < r'.schema.width := hschema ▸ hplace
      have hname : place < r.schema.columnNames.length := by simpa using hplace
      have hposition : r.schema.position? r.schema.columnNames[place] = some place :=
        r.schema.position?_eq_some_iff.2 (List.getElem?_eq_getElem hname)
      have hposition' : r'.schema.position? r.schema.columnNames[place] = some place := by
        rw [← hschema]
        exact hposition
      rw [getElem?_cells hplace, getElem?_cells hplace', ← value?_of_position? hposition,
        ← value?_of_position? hposition', hvalue]
    · have hout : r.cells.length ≤ place := by rw [r.length_cells]; omega
      have hout' : r'.cells.length ≤ place := by rw [r'.length_cells, ← hschema]; omega
      rw [List.getElem?_eq_none hout, List.getElem?_eq_none hout']
  cases r
  cases r'
  simp_all

theorem value?_put (h : r.schema.position? field = some place) (v : Value) (other : String) :
    (r.put place v).value? other = if other = field then some v else r.value? other := by
  split
  · rename_i hother
    have hput : (r.put place v).schema.position? other = some place := hother ▸ h
    rw [value?_of_position? hput, r.cellAt_put_self (r.schema.lt_width_of_position? h)]
  · rename_i hother
    cases hposition : r.schema.position? other with
    | none => simp [value?, hposition]
    | some place' =>
      have hput : (r.put place v).schema.position? other = some place' := hposition
      have hne : place ≠ place' := by
        rintro rfl
        rw [Schema.position?_eq_some_iff] at h hposition
        exact hother (Option.some.inj (hposition.symm.trans h))
      rw [value?_of_position? hput, value?_of_position? hposition, r.cellAt_put_of_ne hne]

/-! ## Binding by name -/

theorem bind_eq_put (h : r.schema.position? field = some place) (hfree : r.value? field = none)
    (v : Value) : r.bind field v = .ok (r.put place v) := by
  rw [value?_of_position? h] at hfree
  have hcell := getElem?_cells (r.schema.lt_width_of_position? h)
  rw [hfree] at hcell
  simp only [bind, h, hcell]

/-- Names that are declared, different and free can all be bound, and nothing else changes. -/
theorem foldlM_bind {b : Bindings} (hdeclared : ∀ k ∈ b.keys, k ∈ r.schema.columnNames)
    (hdistinct : b.keys.Nodup) (hfree : ∀ k ∈ b.keys, r.value? k = none) :
    ∃ r' : Row, b.foldlM (fun r p => r.bind p.1 p.2) r = .ok r' ∧ r'.schema = r.schema ∧
      ∀ field, r'.value? field = (b.lookup field).or (r.value? field) := by
  induction b generalizing r with
  | nil => exact ⟨r, rfl, rfl, fun _ => rfl⟩
  | cons p b ih =>
    obtain ⟨k, v⟩ := p
    obtain ⟨hk, hrest⟩ := List.forall_mem_cons.1 hdeclared
    obtain ⟨hfreek, hfreerest⟩ := List.forall_mem_cons.1 hfree
    obtain ⟨hnew, hdistinct⟩ := List.nodup_cons.1 hdistinct
    obtain ⟨place, hplace⟩ := r.schema.position?_of_mem hk
    have hput : ∀ k' ∈ Bindings.keys b, (r.put place v).value? k' = none := by
      intro k' hk'
      have hne : k' ≠ k := fun h => hnew (h ▸ hk')
      rw [value?_put hplace, if_neg hne]
      exact hfreerest k' hk'
    obtain ⟨r', hrun, hschema, hvalue⟩ := @ih (r.put place v) hrest hdistinct hput
    refine ⟨r', ?_, hschema, ?_⟩
    · rw [List.foldlM_cons, bind_eq_put hplace hfreek]
      exact hrun
    · intro field
      rw [hvalue, value?_put hplace, List.lookup_cons]
      by_cases hfield : field = k
      · have hlater : b.lookup k = none := by
          rw [List.lookup_eq_none_iff]
          rintro ⟨k', v'⟩ hp
          simpa using fun h : k = k' => hnew (List.mem_map.2 ⟨(k', v'), hp, h.symm⟩)
        simp [hfield, hlater]
      · rw [beq_false_of_ne hfield, if_neg hfield]

/-- A row without bound columns. -/
theorem value?_of_ofTuple_nil {s : Schema} (h : ofTuple s [] = .ok r) (field : String) :
    r.value? field = none := by
  obtain ⟨-, hcells⟩ := cells_of_ofTuple h
  rw [value?, Option.bind_eq_none_iff]
  intro place _
  rw [cellAt, hcells, List.map_nil, List.nil_append, List.getElem?_replicate]
  split <;> rfl

/-- Different columns that are named make a row with their values and no others. -/
theorem ofNamed_eq_ok {s : Schema} {b : Bindings} (hdeclared : ∀ k ∈ b.keys, k ∈ s.columnNames)
    (hdistinct : b.keys.Nodup) :
    ∃ r : Row, ofNamed s b = .ok r ∧ r.schema = s ∧ ∀ field, r.value? field = b.lookup field := by
  have hstart : ofTuple s [] = .ok ⟨s, [].map some ++ List.replicate (s.width - 0) none,
      by simp⟩ := by
    rw [ofTuple, dif_pos (by simp)]
    rfl
  obtain ⟨r, hrun, hschema, hvalue⟩ := foldlM_bind hdeclared hdistinct
    fun k _ => value?_of_ofTuple_nil hstart k
  refine ⟨r, ?_, hschema, fun field => ?_⟩
  · rw [ofNamed, construct, hstart]
    exact hrun
  · rw [hvalue, value?_of_ofTuple_nil hstart, Option.or_none]

variable (r)

/-- The bound columns lead to the values of the row. -/
theorem lookup_bound (field : String) : r.bound.lookup field = r.value? field := by
  have hcell := Bindings.lookup_supplied r.schema.wellFormed.columns_distinct r.cells field
  rw [← Schema.position?_eq_findIdx?] at hcell
  exact hcell

/-- The order in which the bound columns are named does not matter. -/
theorem ofNamed_of_perm {b : Bindings} (h : r.bound.Perm b) : ofNamed r.schema b = .ok r := by
  have hdeclared : ∀ k ∈ b.keys, k ∈ r.schema.columnNames := fun k hk =>
    r.mem_columnNames_of_mem_keys_bound ((h.map Prod.fst).mem_iff.2 hk)
  obtain ⟨r', hr', hschema, hvalue⟩ :=
    ofNamed_eq_ok hdeclared ((h.map Prod.fst).nodup_iff.1 r.nodup_keys_bound)
  have hsame : r' = r := ext_value? hschema fun field => by
    rw [hvalue, Bindings.lookup_eq_of_perm r.nodup_keys_bound h, lookup_bound]
  rw [hr', hsame]

/-- A row that is made by position has its first columns bound. -/
theorem bound_of_ofTuple {s : Schema} {values : List Value} {r : Row}
    (h : ofTuple s values = .ok r) : r.bound = s.columnNames.zip values := by
  obtain ⟨hschema, hcells⟩ := cells_of_ofTuple h
  have hsupplied : r.bound = Bindings.supplied r.schema.columnNames r.cells := rfl
  rw [hsupplied, hschema, hcells, Bindings.supplied_append_replicate_none,
    Bindings.supplied_map_some]

/-- A row is what its bound columns make by name. -/
theorem ofNamed_bound : ofNamed r.schema r.bound = .ok r := r.ofNamed_of_perm (.refl _)

/-- The values of the bound columns are the cells that hold one. -/
theorem values_bound : r.bound.values = r.cells.filterMap id :=
  Bindings.values_supplied (by simp [r.length_cells])

/-- When all columns are bound, their values make the row by position. -/
theorem ofTuple_values_bound (hfull : none ∉ r.cells) :
    ofTuple r.schema r.bound.values = .ok r := by
  have hcells : (r.cells.filterMap id).map some = r.cells := by
    have hall : ∀ cells : List Cell, none ∉ cells → (cells.filterMap id).map some = cells := by
      intro cells hcells
      induction cells with
      | nil => rfl
      | cons c cells ih =>
        cases c with
        | none => simp at hcells
        | some v => simpa using ih (by simpa using hcells)
    exact hall r.cells hfull
  have hlength : r.bound.values.length = r.schema.width := by
    rw [values_bound, ← r.length_cells, ← List.length_map some, hcells]
  have hpadded : r.bound.values.map some ++
      List.replicate (r.schema.width - r.bound.values.length) none = r.cells := by
    rw [hlength, Nat.sub_self, List.replicate_zero, List.append_nil, values_bound, hcells]
  rw [ofTuple, dif_pos (Nat.le_of_eq hlength)]
  simp only [hpadded]

end Row
end RowSql
