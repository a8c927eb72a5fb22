import RowSql.Proofs.Layout.ReadBack
import RowSql.Proofs.Unpack.Tuples

/-!
# Layouts of whole rows

A star stands for all fields of a declaration. Stars of different declarations make a layout of
one block of columns for each of them, and a tuple as wide as all blocks together is read block
by block. Main statement: it is read as the rows that the tuple is dealt out to.
-/
namespace RowSql

namespace Layout

variable {d d' : Declared} {ds : List Declared} {l : Layout}

/-- One column for each field of each declaration. -/
def starred (ds : List Declared) : List Slot :=
  ds.flatMap fun d => d.schema.columnNames.map fun f => some (d, f)

theorem starred_cons (d : Declared) (ds : List Declared) :
    starred (d :: ds) = (d.schema.columnNames.map fun f => some (d, f)) ++ starred ds := by
  rw [starred, List.flatMap_cons]
  rfl

theorem flatMap_expand_stars (ds : List Declared) :
    (ds.map fun d => some (d, "*")).flatMap expand = starred ds := by
  rw [List.flatMap_map]
  rfl

theorem length_starred (ds : List Declared) :
    (starred ds).length = (ds.map fun d => d.schema.width).sum := by
  induction ds with
  | nil => rfl
  | cons d ds ih =>
    rw [starred_cons, List.length_append, List.length_map, d.schema.length_columnNames, ih,
      List.map_cons, List.sum_cons]

theorem filterMap_starred (ds : List Declared) :
    (starred ds).filterMap id = ds.flatMap fun d => d.schema.columnNames.map fun f => (d, f) := by
  induction ds with
  | nil => rfl
  | cons d ds ih =>
    rw [starred_cons, List.filterMap_append, ih, List.flatMap_cons, List.filterMap_map]
    congr 1
    rw [← List.filterMap_eq_map]
    rfl

/-- Different declarations may all be starred, as no field is mapped twice. -/
theorem ofEntries_stars (hdistinct : ds.Nodup) :
    ∃ l, ofEntries (ds.map fun d => some (d, "*")) = .ok l ∧ l.columns = starred ds := by
  have hfields : (ds.flatMap fun d => d.schema.columnNames.map fun f => (d, f)).Nodup := by
    rw [List.nodup_flatMap]
    constructor
    · intro d _
      exact d.schema.wellFormed.columns_distinct.map fun f g hfg => (Prod.mk.inj hfg).2
    · refine hdistinct.imp fun {d d'} hne e he he' => ?_
      obtain ⟨f, -, rfl⟩ := List.mem_map.1 he
      obtain ⟨f', -, heq⟩ := List.mem_map.1 he'
      exact hne (Prod.mk.inj heq).1.symm
  have hfault : fault? (ds.map fun d => some (d, "*")) = none := by
    rw [fault?, flatMap_expand_stars, filterMap_starred, Option.or_eq_none_iff,
      List.findSome?_eq_none_iff, Option.map_eq_none_iff, repeated?_eq_none]
    refine ⟨?_, hfields, by simp⟩
    intro entry hentry
    obtain ⟨d, -, rfl⟩ := List.mem_map.1 hentry
    rfl
  obtain ⟨l, hl, hcolumns⟩ := ofEntries_eq_ok hfault
  exact ⟨l, hl, hcolumns.trans (flatMap_expand_stars ds)⟩

/-- Each declaration owns its block, unless the block is empty. -/
theorem owners_of_starred (h : l.columns = starred ds) (hdistinct : ds.Nodup)
    (hfields : ∀ d ∈ ds, d.schema.columns ≠ []) : l.owners = ds := by
  have hnames : ∀ d ∈ ds, d.schema.columnNames ≠ [] := by
    intro d hd
    simpa [Declaration.columnNames] using hfields d hd
  have howners : (ds.flatMap fun d => d.schema.columnNames.map fun f => (d, f)).map Prod.fst =
      ds.flatMap fun d => d.schema.columnNames.map fun _ => d := by
    rw [List.map_flatMap]
    simp only [List.map_map, Function.comp_def]
  rw [owners, h, filterMap_starred, howners, eraseDups_blocks hdistinct hnames]

theorem shareOf_append {columns columns' : List Slot} {t u : List Value}
    (h : columns.length = t.length) (d : Declared) :
    shareOf (columns ++ columns') d (t ++ u) = shareOf columns d t ++ shareOf columns' d u := by
  rw [shareOf, List.zip_append h, List.filterMap_append]
  rfl

/-- A declaration finds nothing in columns of others. -/
theorem shareOf_eq_nil {columns : List Slot} (h : ∀ f, some (d, f) ∉ columns) (t : List Value) :
    shareOf columns d t = [] := by
  rw [shareOf, List.filterMap_eq_nil_iff]
  rintro ⟨slot, v⟩ hp
  have hslot : slot ∈ columns := List.of_mem_zip hp |>.1
  cases slot with
  | none => rfl
  | some e =>
    have hne : e.1 ≠ d := by
      rintro rfl
      exact h e.2 hslot
    simp [hne]

theorem owner_mem_of_mem_starred {f : String} (h : some (d, f) ∈ starred ds) : d ∈ ds := by
  obtain ⟨d', hd', hf⟩ := List.mem_flatMap.1 h
  obtain ⟨_, _, heq⟩ := List.mem_map.1 hf
  cases heq
  exact hd'

/-- A declaration finds its own block in front, and the later ones theirs behind it. -/
theorem shareOf_starred_cons (hd : d ∉ ds) {t u : List Value} (ht : t.length = d.schema.width) :
    shareOf (starred (d :: ds)) d (t ++ u) = d.schema.columnNames.zip t ∧
      ∀ d' ∈ ds, shareOf (starred (d :: ds)) d' (t ++ u) = shareOf (starred ds) d' u := by
  have hblock : (d.schema.columnNames.map fun f => some (d, f)).length = t.length := by
    simp [ht]
  constructor
  · have hlater : shareOf (starred ds) d u = [] :=
      shareOf_eq_nil (fun f hf => hd (owner_mem_of_mem_starred hf)) u
    rw [starred_cons, shareOf_append hblock, shareOf_fields, hlater, List.append_nil]
  · intro d' hd'
    have hfront : shareOf (d.schema.columnNames.map fun f => some (d, f)) d' t = [] := by
      refine shareOf_eq_nil (fun f hf => ?_) t
      obtain ⟨_, _, heq⟩ := List.mem_map.1 hf
      cases heq
      exact hd hd'
    rw [starred_cons, shareOf_append hblock, hfront, List.nil_append]

/-- What the declarations find makes the rows that the tuple is dealt out to. -/
theorem mapM_shareOf {share : Declared → Bindings} {t : List Value} {rows : List Row}
    (hdistinct : ds.Nodup) (hshare : ∀ d ∈ ds, share d = shareOf (starred ds) d t)
    (hdealt : Join.Dealt (ds.map Declared.schema) t rows) :
    ds.mapM (fun d => Row.ofNamed d.schema (share d)) = .ok rows := by
  induction ds generalizing t rows with
  | nil =>
    have hnil : rows = [] := List.map_eq_nil_iff.1 hdealt.schemas_eq
    rw [hnil]
    rfl
  | cons d ds ih =>
    obtain ⟨hnew, hdistinct⟩ := List.nodup_cons.1 hdistinct
    obtain ⟨hd, hrest⟩ := List.forall_mem_cons.1 hshare
    obtain ⟨r, rows, rfl, hschema, hschemas⟩ := List.map_eq_cons_iff.1 hdealt.schemas_eq
    obtain ⟨own, later, rfl, hown, hlater⟩ := List.map_eq_append_iff.1 hdealt.cells_eq.symm
    have hcells : own.map some = r.cells := hown
    have hlength : own.length = d.schema.width := by
      rw [← List.length_map some, hcells, r.length_cells, hschema]
    obtain ⟨hfound, hothers⟩ := shareOf_starred_cons hnew (u := later) hlength
    have hbound : share d = r.bound := by
      have hsupplied : r.bound = Bindings.supplied r.schema.columnNames r.cells := rfl
      rw [hd, hfound, hsupplied, ← hcells, Bindings.supplied_map_some, hschema]
    have hhead : Row.ofNamed d.schema (share d) = .ok r := by
      rw [hbound, ← hschema, Row.ofNamed_bound]
    have htail := ih hdistinct (fun d' hd' => (hrest d' hd').trans (hothers d' hd'))
      ⟨hschemas, hlater.symm⟩
    rw [List.mapM_cons, hhead, htail]
    rfl

/-- A layout of stars reads a tuple as the rows that it is dealt out to. -/
theorem readTuple_of_dealt {t : List Value} {rows : List Row} (h : l.columns = starred ds)
    (hdistinct : ds.Nodup) (hfields : ∀ d ∈ ds, d.schema.columns ≠ [])
    (hdealt : Join.Dealt (ds.map Declared.schema) t rows) : l.readTuple t = .ok rows := by
  have hwidth : t.length = l.width := by
    rw [width, h, length_starred, hdealt.length_eq, List.map_map]
    rfl
  rw [readTuple, if_neg (by omega), owners_of_starred h hdistinct hfields]
  refine mapM_shareOf hdistinct (fun d _ => ?_) hdealt
  rw [share_eq_shareOf, h]

end Layout
end RowSql
