import RowSql.Layout
import RowSql.Proofs.Row.Bound
import RowSql.Query

/-!
# What was written last

A row is made in one of several ways, and then its columns are set, some of the calls being
refused. Whatever happened, a column holds what was last written to it. One write is followed
through the cells first, then a run of them. Main statement: `Row.last_write_wins`.
-/
namespace RowSql

namespace Bindings

variable {b : Bindings}

/-- The value of the last pair of a name. -/
def last? (b : Bindings) (name : String) : Option Value := b.reverse.lookup name

theorem last?_append_singleton (b : Bindings) (p : String × Value) (name : String) :
    last? (b ++ [p]) name = if name = p.1 then some p.2 else b.last? name :=
  List.lookup_reverse_append_singleton b p name

/-- Where names differ, the last pair of a name is the only one. -/
theorem last?_eq_lookup (hdistinct : b.keys.Nodup) (name : String) :
    b.last? name = b.lookup name :=
  lookup_eq_of_perm hdistinct b.reverse_perm.symm name

end Bindings

namespace Row

variable {r r' : Row} {s : Schema} {p : String × Value} {writes : Bindings} {field : String}

/-! ## One write -/

/-- `r'` is `r` after a write to a declared column. -/
def Wrote (r : Row) (p : String × Value) (r' : Row) : Prop :=
  ∃ place, r.schema.position? p.1 = some place ∧ r' = r.put place p.2

theorem wrote_of_bind (h : r.bind p.1 p.2 = .ok r') : r.Wrote p r' := by
  unfold bind at h
  split at h
  · cases h
  · rename_i place hplace
    refine ⟨place, hplace, ?_⟩
    split at h
    · cases h
    · exact (Except.ok.inj h).symm

theorem wrote_of_set (h : r.set p.1 p.2 = .ok r') : r.Wrote p r' := by
  unfold set at h
  split at h
  · cases h
  · rename_i place hplace
    exact ⟨place, hplace, (Except.ok.inj h).symm⟩

theorem set_of_declared (h : field ∈ r.schema.columnNames) (v : Value) :
    ∃ r', r.set field v = .ok r' := by
  obtain ⟨place, hplace⟩ := r.schema.position?_of_mem h
  exact ⟨r.put place v, by simp only [set, hplace]⟩

theorem set_of_undeclared (h : field ∉ r.schema.columnNames) (v : Value) :
    r.set field v = .error (.undeclaredField r.schema.name field) := by
  simp only [set, r.schema.position?_eq_none.2 h]
  rfl

/-! ## A run of writes -/

/-- A row of which every column holds what was last written to it. -/
structure Filled (s : Schema) (writes : Bindings) (r : Row) : Prop where
  schema_eq : r.schema = s
  value?_eq : ∀ field, r.value? field = writes.last? field

theorem Filled.wrote (h : Filled s writes r) (hp : r.Wrote p r') :
    Filled s (writes ++ [p]) r' := by
  obtain ⟨place, hplace, rfl⟩ := hp
  refine ⟨h.schema_eq, fun field => ?_⟩
  rw [value?_put hplace, Bindings.last?_append_singleton, h.value?_eq]

theorem Filled.foldlM_bind {named : Bindings} (h : Filled s writes r)
    (hrun : named.foldlM (fun r p => r.bind p.1 p.2) r = .ok r') :
    Filled s (writes ++ named) r' := by
  induction named generalizing writes r with
  | nil =>
    cases hrun
    simpa using h
  | cons p named ih =>
    rw [List.foldlM_cons] at hrun
    cases hbind : r.bind p.1 p.2 with
    | error fault =>
      rw [hbind] at hrun
      cases hrun
    | ok next =>
      rw [hbind] at hrun
      have hlater := ih (h.wrote (wrote_of_bind hbind)) hrun
      rwa [List.append_assoc, List.singleton_append] at hlater

/-- Values that are bound from the left are those of the first columns. -/
theorem filled_of_ofTuple {values : List Value} (h : ofTuple s values = .ok r) :
    Filled s (s.columnNames.zip values) r := by
  refine ⟨(cells_of_ofTuple h).1, fun field => ?_⟩
  rw [← bound_of_ofTuple h, Bindings.last?_eq_lookup r.nodup_keys_bound, lookup_bound]

theorem filled_of_construct {positional : List Value} {named : Bindings}
    (h : construct s positional named = .ok r) :
    Filled s (s.columnNames.zip positional ++ named) r := by
  unfold construct at h
  cases hstart : ofTuple s positional with
  | error fault =>
    rw [hstart] at h
    cases h
  | ok start =>
    rw [hstart] at h
    exact (filled_of_ofTuple hstart).foldlM_bind h

/-! ## Histories -/

/-- The ways in which a row is made, each with what is written thereby: by position and by name,
by name alone, from a tuple, and as the share of a declaration in what a layout reads. -/
inductive Made (s : Schema) : Bindings → Row → Prop where
  | constructed {positional : List Value} {named : Bindings} {r : Row}
      (h : construct s positional named = .ok r) :
      Made s (s.columnNames.zip positional ++ named) r
  | named {b : Bindings} {r : Row} (h : ofNamed s b = .ok r) : Made s b r
  | tuple {values : List Value} {r : Row} (h : ofTuple s values = .ok r) :
      Made s (s.columnNames.zip values) r
  | read {l : Layout} {values : List Value} {rows : List Row} {d : Declared} {r : Row}
      (h : l.readTuple values = .ok rows) (hr : (d, r) ∈ l.owners.zip rows)
      (hschema : d.schema = s) : Made s (l.share d values) r

/-- What is read is one row for each owner, made of its share. -/
theorem ofNamed_of_mem_readTuple {l : Layout} {values : List Value} {rows : List Row}
    {d : Declared} (h : l.readTuple values = .ok rows) (hr : (d, r) ∈ l.owners.zip rows) :
    ofNamed d.schema (l.share d values) = .ok r := by
  have hrun : ∀ (ds : List Declared) (rows : List Row),
      ds.mapM (fun d => ofNamed d.schema (l.share d values)) = .ok rows →
      (d, r) ∈ ds.zip rows → ofNamed d.schema (l.share d values) = .ok r := by
    -- Over the owners alone: the values stay whole, each owner takes its share of all of them.
    intro ds
    induction ds with
    | nil => simp
    | cons first ds ih =>
      intro rows hrows hmem
      rw [List.mapM_cons] at hrows
      cases hfirst : ofNamed first.schema (l.share first values) with
      | error fault =>
        rw [hfirst] at hrows
        cases hrows
      | ok row =>
        cases hlater : ds.mapM (fun d => ofNamed d.schema (l.share d values)) with
        | error fault =>
          rw [hfirst, hlater] at hrows
          cases hrows
        | ok later =>
          rw [hfirst, hlater] at hrows
          cases hrows
          rcases List.mem_cons.1 hmem with heq | hmem
          · cases heq
            exact hfirst
          · exact ih later hlater hmem
  unfold Layout.readTuple at h
  split at h
  · cases h
  · exact hrun _ _ h hr

theorem Made.filled (h : Made s writes r) : Filled s writes r := by
  cases h with
  | constructed h => exact filled_of_construct h
  | named h =>
    have hfilled := filled_of_construct h
    rwa [List.zip_nil_right, List.nil_append] at hfilled
  | tuple h => exact filled_of_ofTuple h
  | read h hr hschema =>
    have hfilled := filled_of_construct (ofNamed_of_mem_readTuple h hr)
    rw [List.zip_nil_right, List.nil_append] at hfilled
    exact hschema ▸ hfilled

/-- A call that sets a column; the row stays as it is when the call is refused. -/
def call (r : Row) (p : String × Value) : Row :=
  match r.set p.1 p.2 with
  | .ok r' => r'
  | .error _ => r

/-- One call after the other. -/
def calls (r : Row) (sets : Bindings) : Row := sets.foldl call r

/-- Those of the calls that are not refused. -/
def accepted : Row → Bindings → Bindings
  | _, [] => []
  | r, p :: rest =>
    match r.set p.1 p.2 with
    | .ok r' => p :: r'.accepted rest
    | .error _ => r.accepted rest

theorem Filled.calls (h : Filled s writes r) (sets : Bindings) :
    Filled s (writes ++ r.accepted sets) (r.calls sets) := by
  induction sets generalizing writes r with
  | nil =>
    rw [accepted, List.append_nil]
    exact h
  | cons p sets ih =>
    cases hset : r.set p.1 p.2 with
    | ok next =>
      have hlater := ih (h.wrote (wrote_of_set hset))
      rw [List.append_assoc, List.singleton_append] at hlater
      simpa only [accepted, Row.calls, List.foldl_cons, call, hset] using hlater
    | error fault => simpa only [accepted, Row.calls, List.foldl_cons, call, hset] using ih h

/-! ## What follows -/

/-- The cells of a row, one for each column. -/
theorem cells_eq_map_value? (r : Row) : r.cells = r.schema.columnNames.map r.value? := by
  apply List.ext_getElem
  · simp [r.length_cells]
  · intro place hplace hplace'
    have hname : place < r.schema.columnNames.length := by simpa using hplace'
    have hposition : r.schema.position? r.schema.columnNames[place] = some place :=
      r.schema.position?_eq_some_iff.2 (List.getElem?_eq_getElem hname)
    rw [List.getElem_map, value?_of_position? hposition, cellAt, List.getElem?_eq_getElem hplace,
      Option.join_some]

/-- No field of the key is passed over, since all of them are declared. -/
theorem keyCells_eq_map_value? (r : Row) : r.keyCells = r.schema.key.map r.value? := by
  have hkeys : ∀ key : List String, (∀ k ∈ key, k ∈ r.schema.columnNames) →
      (key.filterMap r.schema.position?).map r.cellAt = key.map r.value? := by
    intro key
    induction key with
    | nil => exact fun _ => rfl
    | cons k key ih =>
      intro hdeclared
      obtain ⟨hk, hrest⟩ := List.forall_mem_cons.1 hdeclared
      obtain ⟨place, hplace⟩ := r.schema.position?_of_mem hk
      rw [List.filterMap_cons_some hplace, List.map_cons, List.map_cons, ih hrest,
        value?_of_position? hplace]
  exact hkeys r.schema.key r.schema.wellFormed.key_declared

/-- The conditions for the key of a row, made of its own values. -/
theorem keyBindings_of_keyCells {values : List Value} (h : r.keyCells = values.map some) :
    ∃ b, r.schema.keyBindings values = .ok b ∧ b.keys = r.schema.key ∧
      ∀ p ∈ b, r.value? p.1 = some p.2 := by
  have hpairs : ∀ (key : List String) (values : List Value),
      key.map r.value? = values.map some → ∀ p ∈ key.zip values, r.value? p.1 = some p.2 := by
    intro key
    induction key with
    | nil => simp
    | cons k key ih =>
      intro values hvalues p hp
      cases values with
      | nil => simp at hp
      | cons v values =>
        obtain ⟨hk, hrest⟩ := List.cons.inj hvalues
        rcases List.mem_cons.1 hp with rfl | hp
        · exact hk
        · exact ih values hrest p hp
  rw [keyCells_eq_map_value?] at h
  have hlength : r.schema.key.length = values.length := by
    simpa using congrArg List.length h
  refine ⟨r.schema.key.zip values, ?_, List.map_fst_zip (Nat.le_of_eq hlength),
    hpairs r.schema.key values h⟩
  rw [Schema.keyBindings, if_pos hlength.symm]

/-! ## Main statement -/

/-- What a row is known by, once the writes to it are known in their order. -/
structure KeepsLast (s : Schema) (writes : Bindings) (r : Row) : Prop where
  schema_eq : r.schema = s
  length_cells_eq : r.cells.length = s.width
  cells_eq : r.cells = s.columnNames.map writes.last?
  set_declared : ∀ field ∈ s.columnNames, ∀ v, ∃ r', r.set field v = .ok r'
  set_undeclared : ∀ field ∉ s.columnNames, ∀ v,
    r.set field v = .error (.undeclaredField s.name field) ∧ r.call (field, v) = r
  named_again : ofNamed s r.bound = .ok r
  key_eq : r.keyCells = s.key.map writes.last? ∧ r.keyCells.length = s.key.length
  found_by_key : ∀ values, r.keyCells = values.map some →
    ∃ b, s.keyBindings values = .ok b ∧ b.keys = s.key ∧ ∀ p ∈ b, r.value? p.1 = some p.2

theorem Filled.keepsLast (h : Filled s writes r) : KeepsLast s writes r := by
  obtain ⟨rfl, hvalue⟩ := h
  have hlast : r.value? = writes.last? := funext hvalue
  refine ⟨rfl, r.length_cells, ?_, fun _ => set_of_declared, ?_, r.ofNamed_bound, ?_,
    fun _ => keyBindings_of_keyCells⟩
  · rw [← hlast]
    exact r.cells_eq_map_value?
  · intro field hfield v
    have hrefused := set_of_undeclared hfield v
    exact ⟨hrefused, by rw [call, hrefused]⟩
  · rw [keyCells_eq_map_value?, hlast]
    exact ⟨rfl, List.length_map _⟩

/-- Rows whose columns were last written alike are the same. -/
theorem Filled.eq_of_last?_eq {writes' : Bindings} (h : Filled s writes r)
    (h' : Filled s writes' r') (hlast : ∀ field ∈ s.columnNames,
      writes'.last? field = writes.last? field) : r' = r := by
  have hcells : r'.cells = r.cells := by
    rw [h.keepsLast.cells_eq, h'.keepsLast.cells_eq]
    exact List.map_congr_left hlast
  have hschema : r'.schema = r.schema := h'.schema_eq.trans h.schema_eq.symm
  cases r
  cases r'
  simp_all

/-- However a row was made and whatever was set in it since, each column holds what was last
written to it, or nothing. Two histories that end alike in each column lead to the same row, and
so to the same insertions. -/
theorem last_write_wins (hmade : Made s writes r) (sets : Bindings) :
    KeepsLast s (writes ++ r.accepted sets) (r.calls sets) ∧
      ∀ {writes' : Bindings} {r' : Row} (sets' : Bindings), Made s writes' r' →
        (∀ field ∈ s.columnNames, (writes' ++ r'.accepted sets').last? field =
          (writes ++ r.accepted sets).last? field) →
        (r'.calls sets').cells = (r.calls sets).cells ∧
          ∀ (returning : List String) (written : List (String × String)) (m : Marker),
            (Query.insert { row := r'.calls sets', returning, written }).build m =
              (Query.insert { row := r.calls sets, returning, written }).build m := by
  have hfilled := hmade.filled.calls sets
  refine ⟨hfilled.keepsLast, fun sets' hmade' hlast => ?_⟩
  rw [hfilled.eq_of_last?_eq (hmade'.filled.calls sets') hlast]
  exact ⟨rfl, fun _ _ _ => rfl⟩

/-- Edges of a graph, known by where they lead to and where they come from. -/
def edges : Schema :=
  let d : Declaration :=
    ⟨"Edge", [⟨"src", .scalar .int⟩, ⟨"dst", .scalar .int⟩, ⟨"label", .scalar .text⟩],
      ["dst", "src"], [], .named "here"⟩
  ⟨d, d.fault?_eq_none.1 (by decide)⟩

/-- An edge as it is made, and as it is after its label has been erased and its start moved
twice; edges have no weight. -/
def labelled : Row := ⟨edges, [some (.int 1), some (.int 2), some (.text "new")], rfl⟩

def moves : Bindings :=
  [("label", .null), ("weight", .int 9), ("src", .int 4), ("src", .int 5)]

def moved : Row := ⟨edges, [some (.int 5), some (.int 2), some .null], rfl⟩

theorem edges_keep_last :
    construct edges [.int 1, .int 2] [("label", .text "new")] = .ok labelled ∧
      ofNamed edges [("label", .null), ("dst", .int 2), ("src", .int 5)] = .ok moved ∧
      (labelled.calls moves).cells = [some (.int 5), some (.int 2), some .null] ∧
      (labelled.calls moves).keyCells = [some (.int 2), some (.int 5)] ∧
      (moved.calls []).cells = (labelled.calls moves).cells := by
  have hlabelled : construct edges [.int 1, .int 2] [("label", .text "new")] = .ok labelled := rfl
  have hmoved : ofNamed edges [("label", .null), ("dst", .int 2), ("src", .int 5)] = .ok moved :=
    rfl
  obtain ⟨hkeeps, hsame⟩ := last_write_wins (.constructed hlabelled) moves
  refine ⟨hlabelled, hmoved, hkeeps.cells_eq, hkeeps.key_eq.1, ?_⟩
  exact (hsame [] (.named hmoved) (by decide)).1

end Row
end RowSql
