import RowSql.Proofs.Layout.Stars
import RowSql.Proofs.Query.Scope
import RowSql.Proofs.Query.Unambiguous
import RowSql.Proofs.Unpack.Atomic

/-!
# Rows of joined schemas

A result of a join is cut by position, and its statement asks for the columns of each table in
the order in which it is cut. Main statement: every tuple is dealt out to the joined schemas, one
row for each, unless some tuple has another width than all of them together; a layout of stars
reads the same rows by name; and the entries of the statement's projection are the stars of the
tables whose rows come back.
-/
namespace RowSql

/-- The entries between `select` and `from`. -/
def Statement.projection (s : Statement) : List String :=
  (((s.sql.toList.drop "select ".toList.length).takeWhile (· ≠ ' ')).splitOn ',').map String.ofList

namespace Join

variable {q : Join} {m : Marker}

/-- A join asks for all columns of each of its tables, in the order of its schemas. -/
theorem projection_render (h : q.schemas ≠ []) : (q.pieces.render m).projection =
    q.schemas.map fun s => s.table ++ ".*" := by
  have hstars : ∀ cs ∈ (q.schemas.map fun s => s.table ++ ".*").map String.toList, ',' ∉ cs := by
    intro cs hcs
    obtain ⟨text, htext, rfl⟩ := List.mem_map.1 hcs
    intro hc
    exact absurd (over_stars text htext ',' hc) (by decide)
  have hblank : ∀ c ∈ q.stars.toList, (decide (c ≠ ' ')) = true := by
    intro c hc
    have hover : Over (fun c => IsEntryChar c ∨ c = ',') q.stars :=
      Over.intercalate (by decide) fun s hs => (over_stars s hs).mono fun _ => Or.inl
    simp only [decide_eq_true_eq]
    rintro rfl
    exact absurd (hover ' ' hc) (by decide)
  have hselected : ((q.pieces.render m).sql.toList.drop "select ".toList.length).takeWhile
      (· ≠ ' ') = q.stars.toList := by
    rw [sql_pieces, String.toList_append, List.drop_left, String.toList_append,
      List.takeWhile_append_of_pos hblank, String.toList_append]
    simp
  have hlist : q.stars.toList =
      [','].intercalate ((q.schemas.map fun s => s.table ++ ".*").map String.toList) := by
    rw [stars, String.toList_intercalate]
    rfl
  rw [Statement.projection, hselected, hlist, List.splitOn_intercalate ',' hstars (by simpa)]
  simp

theorem projection_of_build {s : Statement} (hs : (Query.join q).build m = .ok s) :
    s.projection = q.schemas.map fun s => s.table ++ ".*" := by
  obtain ⟨hq, rfl⟩ := Query.build_eq_ok.1 hs
  exact projection_render (schemas_ne_nil hq)

/-- The rows that come back for a tuple belong to the tables whose stars were asked for. -/
theorem tables_of_rows {c : Cursor} {s : Statement} {rows : List (List Row)}
    (hs : (Query.join q).build c.marker = .ok s) (hrows : (c.join q).result = .ok rows) :
    ∀ own ∈ rows, own.map (fun r => r.schema.table ++ ".*") = s.projection := by
  intro own hown
  have hran : Cursor.Ran c s (Cursor.splitAll q.schemas) (c.join q) := Cursor.ran_query hs
  obtain ⟨tuples, htuples⟩ := Cursor.exists_of_scripted_eq_ok (hran.result.symm.trans hrows)
  have heach := (readsEach_splitAll q.schemas).each tuples rows htuples
  obtain ⟨i, hi, rfl⟩ := List.getElem_of_mem hown
  have hi' : i < List.length tuples := by
    rw [heach.length_eq]
    exact hi
  have hdealt : Dealt q.schemas tuples[i] rows[i] := heach.get hi' hi
  rw [projection_of_build hs, ← hdealt.schemas_eq, List.map_map]
  rfl

/-- Where a waiting result has a tuple of another width, unpacking breaks off there; otherwise
each tuple is dealt out, and this is also how a layout of stars reads it, provided that no
declaration comes twice and none is without columns. A join that compiles asks for the stars of
the tables that its tuples are then dealt out to. -/
theorem dealt_by_position_and_name (ds : List Declared) :
    let schemas := ds.map Declared.schema
    let width := (schemas.map Schema.width).sum
    (∀ c : Cursor,
      ((∃ actual, (c.unpackJoined schemas).result = .error (.misalignedTuple width actual)) ↔
        ∃ t ∈ c.tape.pending, t.length ≠ width) ∧
      (∀ e, (c.unpackJoined schemas).result = .error e →
        ∃ actual, e = .misalignedTuple width actual) ∧
      ((∀ t ∈ c.tape.pending, t.length = width) →
        ∃ rows, (c.unpackJoined schemas).result = .ok rows ∧
          List.Forall₂ (Dealt schemas) c.tape.pending rows)) ∧
    (ds.Nodup → (∀ d ∈ ds, d.schema.columns ≠ []) →
      ∃ l, Layout.ofEntries (ds.map fun d => some (d, "*")) = .ok l ∧ l.width = width ∧
        ∀ (c : Cursor) (rows : List (List Row)), (c.unpackJoined schemas).result = .ok rows →
          List.Forall₂ (fun t own => l.readTuple t = .ok own) c.tape.pending rows) ∧
    ∀ (c : Cursor) (conditions : Bindings) (s : Statement),
      (Query.join ⟨schemas, conditions⟩).build c.marker = .ok s →
        (c.join ⟨schemas, conditions⟩).cursor.tape.executed = c.tape.executed ++ [s] ∧
        (c.join ⟨schemas, conditions⟩).result = c.scripted (Cursor.splitAll schemas) ∧
        s.projection = schemas.map (fun s => s.table ++ ".*") ∧
        ∀ rows, (c.join ⟨schemas, conditions⟩).result = .ok rows →
          ∀ own ∈ rows, own.map (fun r => r.schema.table ++ ".*") = s.projection := by
  intro schemas width
  have hreads := readsEach_splitAll schemas
  refine ⟨fun c => ⟨⟨?_, ?_⟩, ?_, ?_⟩, ?_, ?_⟩
  · rintro ⟨actual, h⟩
    obtain ⟨t, ⟨before, after, hpending, -, ht⟩, -⟩ := (hreads.error_iff c.tape.pending _).1 h
    exact ⟨t, by rw [hpending]; simp, ht⟩
  · rintro ⟨t, ht, hne⟩
    obtain ⟨u, hu⟩ := Tuples.FirstMisfit.exists_of_not_fits
      (fun hall : ∀ t ∈ c.tape.pending, t.length = width => hne (hall t ht))
    exact ⟨u.length, (hreads.error_iff c.tape.pending _).2 ⟨u, hu, rfl⟩⟩
  · intro e h
    obtain ⟨t, -, rfl⟩ := (hreads.error_iff c.tape.pending e).1 h
    exact ⟨t.length, rfl⟩
  · intro hall
    obtain ⟨rows, hrows⟩ := (hreads.ok_iff c.tape.pending).2 hall
    exact ⟨rows, hrows, hreads.each c.tape.pending rows hrows⟩
  · intro hdistinct hfields
    obtain ⟨l, hl, hcolumns⟩ := Layout.ofEntries_stars hdistinct
    refine ⟨l, hl, ?_, fun c rows hrows => ?_⟩
    · rw [Layout.width, hcolumns, Layout.length_starred]
      simp [width, schemas, Function.comp_def]
    · exact (hreads.each c.tape.pending rows hrows).imp fun t own hdealt =>
        Layout.readTuple_of_dealt hcolumns hdistinct hfields hdealt
  · intro c conditions s hs
    have hran : Cursor.Ran c s (Cursor.splitAll schemas) (c.join ⟨schemas, conditions⟩) :=
      Cursor.ran_query hs
    exact ⟨hran.executed, hran.result, projection_of_build hs, fun rows hrows =>
      tables_of_rows hs hrows⟩

/-- A parcel without a note beside its bill. -/
def billed : List Value := [.int 1, .null, .int 1, .text "paid", .int 5]

theorem parcels_and_bills_dealt :
    let c : Cursor := { tape := { pending := [billed] } }
    (∃ l rows, Layout.ofEntries [some (⟨0, parcels⟩, "*"), some (⟨1, bills⟩, "*")] = .ok l ∧
      (c.unpackJoined [parcels, bills]).result = .ok rows ∧
      List.Forall₂ (Dealt [parcels, bills]) [billed] rows ∧
      List.Forall₂ (fun t own => l.readTuple t = .ok own) [billed] rows) ∧
    ∃ s, (Query.join byIdAndTotal).build c.marker = .ok s ∧
      s.projection = ["parcel.*", "bill.*"] := by
  intro c
  obtain ⟨hunpack, hlayout, hasked⟩ := dealt_by_position_and_name [⟨0, parcels⟩, ⟨1, bills⟩]
  obtain ⟨-, -, hdealt⟩ := hunpack c
  obtain ⟨rows, hrows, heach⟩ := hdealt (by decide)
  obtain ⟨l, hl, -, hread⟩ := hlayout (by decide) (by decide)
  have hbuild : ∃ s, (Query.join byIdAndTotal).build c.marker = .ok s := ⟨_, rfl⟩
  obtain ⟨s, hs⟩ := hbuild
  obtain ⟨-, -, hprojection, -⟩ := hasked c byIdAndTotal.conditions s hs
  exact ⟨⟨l, rows, hl, hrows, heach, hread c rows hrows⟩, s, hs, hprojection⟩

end Join
end RowSql
