import RowSql.Layout
import RowSql.Proofs.Query.Slots

/-!
# Reading back an inserted row

An insertion names the columns that a row has bound and takes their values as parameters. A
layout over the same columns puts the values of a tuple back under their names. Main statement:
the parameters of an insertion, read with the layout of its columns, give the row that was
inserted, with the columns unsupplied that were; and when all columns are bound, the parameters
give it by position too.
-/
namespace RowSql

namespace Layout

variable {d : Declared} {fields : List String} {l : Layout}

theorem ofEntries_eq_ok {entries : List Slot} (h : fault? entries = none) :
    ∃ l, ofEntries entries = .ok l ∧ l.columns = entries.flatMap expand := by
  unfold ofEntries
  split
  · rename_i fault hfault
    rw [h] at hfault
    cases hfault
  · exact ⟨_, rfl, rfl⟩

/-- A declared field is no star, so it stands for itself alone. -/
theorem expand_of_mem {f : String} (h : f ∈ d.schema.columnNames) :
    expand (some (d, f)) = [some (d, f)] := by
  have hstar : f ≠ "*" := by
    rintro rfl
    exact absurd (d.schema.plain_of_mem_columnNames h) (by decide)
  rw [expand, if_neg hstar]

/-- Different fields of one declaration make a layout with one column for each. -/
theorem ofEntries_fields (hdeclared : ∀ f ∈ fields, f ∈ d.schema.columnNames)
    (hdistinct : fields.Nodup) :
    ∃ l, ofEntries (fields.map fun f => some (d, f)) = .ok l ∧
      l.columns = fields.map fun f => some (d, f) := by
  have hexpand : (fields.map fun f => some (d, f)).flatMap expand =
      fields.map fun f => some (d, f) := by
    rw [List.flatMap_map]
    induction fields with
    | nil => rfl
    | cons f fields ih =>
      obtain ⟨hf, hrest⟩ := List.forall_mem_cons.1 hdeclared
      rw [List.flatMap_cons, expand_of_mem hf, ih hrest (List.nodup_cons.1 hdistinct).2]
      rfl
  have hfault : fault? (fields.map fun f => some (d, f)) = none := by
    rw [fault?, hexpand, Option.or_eq_none_iff, List.findSome?_eq_none_iff,
      Option.map_eq_none_iff, repeated?_eq_none]
    refine ⟨?_, ?_, by simp⟩
    · intro entry hentry
      obtain ⟨f, hf, rfl⟩ := List.mem_map.1 hentry
      simp [entryFault?, hdeclared f hf]
    · rw [List.filterMap_map]
      have hpairs : fields.filterMap (id ∘ fun f => some (d, f)) = fields.map (d, ·) := by
        rw [← List.filterMap_eq_map]
        rfl
      rw [hpairs]
      exact hdistinct.map fun a b hab => (Prod.mk.inj hab).2
  obtain ⟨l, hl, hcolumns⟩ := ofEntries_eq_ok hfault
  exact ⟨l, hl, hcolumns.trans hexpand⟩

/-- Blocks of columns name their owners in order, however many columns a block has. -/
theorem eraseDups_blocks {block : Declared → List String} {ds : List Declared}
    (hdistinct : ds.Nodup) (hne : ∀ d ∈ ds, block d ≠ []) :
    (ds.flatMap fun d => (block d).map fun _ => d).eraseDups = ds := by
  induction ds with
  | nil => rfl
  | cons d ds ih =>
    obtain ⟨hnew, hdistinct⟩ := List.nodup_cons.1 hdistinct
    obtain ⟨hd, hrest⟩ := List.forall_mem_cons.1 hne
    obtain ⟨f, fields, hblock⟩ := List.exists_cons_of_ne_nil hd
    have hown : (fields.map fun _ => d).filter (fun b => !b == d) = [] := by simp
    have hothers : (ds.flatMap fun d => (block d).map fun _ => d).filter (fun b => !b == d) =
        ds.flatMap fun d => (block d).map fun _ => d := by
      rw [List.filter_eq_self]
      intro b hb
      obtain ⟨d', hd', hb⟩ := List.mem_flatMap.1 hb
      obtain ⟨_, _, rfl⟩ := List.mem_map.1 hb
      simpa using fun h : d' = d => hnew (h ▸ hd')
    rw [List.flatMap_cons, hblock, List.map_cons, List.cons_append, List.eraseDups_cons,
      List.filter_append, hown, hothers, List.nil_append, ih hdistinct hrest]

/-- All columns belong to the one declaration. -/
theorem owners_of_fields (h : l.columns = fields.map fun f => some (d, f))
    (hne : fields ≠ []) : l.owners = [d] := by
  have hone : ([d].flatMap fun e => fields.map fun _ => e).eraseDups = [d] :=
    eraseDups_blocks (List.nodup_singleton d) fun _ _ => hne
  rw [owners, h, List.filterMap_map]
  simpa [Function.comp_def] using hone

/-- What the columns of a tuple hold for one declaration. -/
def shareOf (columns : List Slot) (d : Declared) (tuple : List Value) : Bindings :=
  (columns.zip tuple).filterMap fun p =>
    match p.1 with
    | some (owner, f) => if owner = d then some (f, p.2) else none
    | none => none

theorem share_eq_shareOf (l : Layout) (d : Declared) (tuple : List Value) :
    l.share d tuple = shareOf l.columns d tuple := rfl

/-- What a tuple holds for the declaration is its fields with their values. -/
theorem shareOf_fields (d : Declared) (fields : List String) (tuple : List Value) :
    shareOf (fields.map fun f => some (d, f)) d tuple = fields.zip tuple := by
  rw [shareOf, List.zip_map_left, List.filterMap_map]
  generalize fields.zip tuple = pairs
  induction pairs with
  | nil => rfl
  | cons p pairs ih =>
    rw [List.filterMap_cons, ih]
    simp

end Layout

namespace Row

/-- Read with a layout of its bound columns, the values of a row make that row. -/
theorem readTuple_bound (r : Row) (serial : Nat) (hbound : r.bound ≠ []) :
    ∃ l, Layout.ofEntries (r.bound.keys.map fun k => some (⟨serial, r.schema⟩, k)) = .ok l ∧
      l.width = r.bound.values.length ∧ l.readTuple r.bound.values = .ok [r] := by
  have hdeclared : ∀ k ∈ r.bound.keys, k ∈ r.schema.columnNames :=
    fun _ => r.mem_columnNames_of_mem_keys_bound
  obtain ⟨l, hl, hcolumns⟩ :=
    Layout.ofEntries_fields (d := ⟨serial, r.schema⟩) hdeclared r.nodup_keys_bound
  have hwidth : l.width = r.bound.values.length := by
    rw [Layout.width, hcolumns]
    simp [Bindings.keys, Bindings.values]
  have hshare : l.share ⟨serial, r.schema⟩ r.bound.values = r.bound := by
    rw [Layout.share_eq_shareOf, hcolumns, Layout.shareOf_fields, Bindings.zip_keys_values]
  refine ⟨l, hl, hwidth, ?_⟩
  rw [Layout.readTuple, if_neg (by omega),
    Layout.owners_of_fields hcolumns (by simpa [Bindings.keys] using hbound), List.mapM_cons,
    hshare, ofNamed_bound]
  rfl

end Row

namespace Insert

/-- The parameters of an insertion give back the row that it inserts: by name when they are read
with a layout of its columns, and by position when all columns are bound. -/
theorem reads_back (r : Row) (returning : List String) (serial : Nat) (m : Marker)
    (hbound : r.bound ≠ []) :
    let q : Insert := { row := r, returning }
    ∃ s l, (Query.insert q).build m = .ok s ∧
      s.sql = "insert into " ++ r.schema.table ++ " (" ++ ",".intercalate q.columns ++
        ") values (" ++ ",".intercalate (q.slots m) ++ ")" ++ q.returningText ∧
      Layout.ofEntries (q.columns.map fun c => some (⟨serial, r.schema⟩, c)) = .ok l ∧
      l.width = s.parameters.length ∧
      l.readTuple s.parameters = .ok [r] ∧
      (none ∉ r.cells → Row.ofTuple r.schema s.parameters = .ok r) := by
  intro q
  have hwritten : q.written = [] := rfl
  have hcolumns : q.columns = r.bound.keys := columns_of_written_nil hwritten
  have hparameters : (q.pieces.render m).parameters = r.bound.values := by
    rw [Template.render, parameters_pieces, kept_of_written_nil hwritten]
  have hsome : q.columns ≠ [] := by simpa [hcolumns, Bindings.keys] using hbound
  obtain ⟨l, hl, hwidth, hread⟩ := r.readTuple_bound serial hbound
  refine ⟨_, l, Query.build_eq_ok.2 ⟨rfl, rfl⟩, ?_, ?_, ?_, ?_, ?_⟩
  · have hsql := q.sql_pieces m
    rw [if_neg hsome] at hsql
    exact hsql.trans (by simp [q, String.append_assoc])
  · rw [hcolumns]
    exact hl
  · exact hwidth.trans (congrArg List.length hparameters.symm)
  · exact (congrArg l.readTuple hparameters).trans hread
  · intro hfull
    exact (congrArg (Row.ofTuple r.schema) hparameters).trans (r.ofTuple_values_bound hfull)

/-- Shipments with a remark and their pieces. -/
def shipments : Schema :=
  let d : Declaration :=
    ⟨"Shipment", [⟨"id", .scalar .int⟩, ⟨"remark", .scalar .text⟩, ⟨"pieces", .scalar .int⟩],
      ["id"], [], .named "here"⟩
  ⟨d, d.fault?_eq_none.1 (by decide)⟩

/-- A shipment that is known to have no remark, with its pieces not counted. -/
def uncounted : Row := ⟨shipments, [some (.int 7), some .null, none], rfl⟩

def counted : Row := uncounted.put 2 (.int 3)

theorem shipments_read_back :
    (∃ s l, (Query.insert { row := uncounted }).build .dollar = .ok s ∧
      s.sql = "insert into shipment (id,remark) values ($1,$2)" ∧
      Layout.ofEntries [some (⟨0, shipments⟩, "id"), some (⟨0, shipments⟩, "remark")] = .ok l ∧
      l.readTuple s.parameters = .ok [uncounted]) ∧
    (∃ s, (Query.insert { row := counted }).build .percent = .ok s ∧
      Row.ofTuple shipments s.parameters = .ok counted) := by
  have huncounted : uncounted.bound = [("id", .int 7), ("remark", .null)] := rfl
  have hcounted : counted.bound = [("id", .int 7), ("remark", .null), ("pieces", .int 3)] := rfl
  obtain ⟨s, l, hs, hsql, hl, -, hread, -⟩ :=
    reads_back uncounted [] 0 .dollar (by simp [huncounted])
  obtain ⟨s', l', hs', -, -, -, -, hplaced⟩ :=
    reads_back counted [] 0 .percent (by simp [hcounted])
  refine ⟨⟨s, l, hs, hsql.trans (by decide), hl, hread⟩, s', hs', hplaced ?_⟩
  simp [counted, uncounted]

end Insert
end RowSql
