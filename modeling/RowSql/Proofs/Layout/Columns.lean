import Mathlib.Data.List.Induction
import RowSql.Proofs.Layout.ReadBack
import RowSql.Proofs.Unpack.Tuples

/-!
# Columns of a layout

Entries make a layout unless one of them names a field that is not declared, or a field gets two
columns once stars are written out. Then every field that has a column finds its value there,
whatever else the tuple holds, and the fields of one declaration make one row. Main statement:
`Layout.each_column_read_once`.
-/
namespace RowSql

namespace Layout

variable {entries columns : List Slot} {d : Declared} {f : String} {fault : Fault} {l : Layout}
  {t u : List Value}

/-! ## Entries -/

/-- A field that is named has to be declared; stars and skipped columns are always in order. -/
def Declares : Slot → Prop
  | none => True
  | some (d, f) => f = "*" ∨ f ∈ d.schema.columnNames

/-- The number of columns that an entry takes up. -/
def entryWidth : Slot → Nat
  | none => 1
  | some (d, f) => if f = "*" then d.schema.width else 1

/-- The first entry that names a field which is not declared. -/
def FirstUndeclared (entries : List Slot) (d : Declared) (f : String) : Prop :=
  ∃ before after, entries = before ++ some (d, f) :: after ∧ (∀ e ∈ before, Declares e) ∧
    ¬ Declares (some (d, f))

/-- The first column for a field that has one already. -/
def FirstRepeated (columns : List Slot) (d : Declared) (f : String) : Prop :=
  ∃ before after, columns = before ++ some (d, f) :: after ∧ (before.filterMap id).Nodup ∧
    some (d, f) ∈ before

theorem entryFault?_eq_none_iff {e : Slot} : entryFault? e = none ↔ Declares e := by
  cases e with
  | none => simp [entryFault?, Declares]
  | some e => simp [entryFault?, Declares, or_iff_not_imp_left]

theorem entryFault?_eq_some_iff {e : Slot} : entryFault? e = some fault ↔
    ∃ d f, e = some (d, f) ∧ ¬ Declares e ∧ fault = .unknownField d.schema.name f := by
  cases e with
  | none => simp [entryFault?]
  | some e =>
    obtain ⟨d, f⟩ := e
    by_cases h : f = "*" ∨ f ∈ d.schema.columnNames
    · simp [entryFault?, Declares, h]
    · simp [entryFault?, Declares, h, Schema.unknown, eq_comm]

theorem findSome?_entryFault?_eq_some_iff : entries.findSome? entryFault? = some fault ↔
    ∃ d f, FirstUndeclared entries d f ∧ fault = .unknownField d.schema.name f := by
  rw [List.findSome?_eq_some_iff]
  constructor
  · rintro ⟨before, e, after, rfl, he, hbefore⟩
    obtain ⟨d, f, rfl, hnot, rfl⟩ := entryFault?_eq_some_iff.1 he
    exact ⟨d, f, ⟨before, after, rfl, fun e he => entryFault?_eq_none_iff.1 (hbefore e he), hnot⟩,
      rfl⟩
  · rintro ⟨d, f, ⟨before, after, rfl, hbefore, hnot⟩, rfl⟩
    exact ⟨before, _, after, rfl, entryFault?_eq_some_iff.2 ⟨d, f, rfl, hnot, rfl⟩,
      fun e he => entryFault?_eq_none_iff.2 (hbefore e he)⟩

theorem findSome?_entryFault?_eq_none_iff :
    entries.findSome? entryFault? = none ↔ ∀ e ∈ entries, Declares e := by
  simp only [List.findSome?_eq_none_iff, entryFault?_eq_none_iff]

theorem repeated?_eq_some_iff {seen es : List (Declared × String)} {e : Declared × String} :
    repeated? seen es = some e ↔ ∃ before after, es = before ++ e :: after ∧ before.Nodup ∧
      (∀ x ∈ before, x ∉ seen) ∧ (e ∈ seen ∨ e ∈ before) := by
  induction es generalizing seen with
  | nil => simp [repeated?]
  | cons first es ih =>
    rw [repeated?]
    split
    · rename_i hseen
      constructor
      · intro h
        cases h
        exact ⟨[], es, rfl, .nil, by simp, .inl hseen⟩
      · rintro ⟨before, after, hes, -, hbefore, -⟩
        cases before with
        | nil => rw [(List.cons.inj hes).1]
        | cons b before =>
          have hb : b = first := (List.cons.inj hes).1.symm
          exact absurd hseen (hbefore first (by simp [hb]))
    · rename_i hseen
      rw [ih]
      constructor
      · rintro ⟨before, after, rfl, hdistinct, hbefore, he⟩
        refine ⟨first :: before, after, rfl, List.nodup_cons.2 ⟨?_, hdistinct⟩, ?_, ?_⟩
        · exact fun hin => hbefore first hin (by simp)
        · exact List.forall_mem_cons.2 ⟨hseen, fun x hx hin => hbefore x hx (by simp [hin])⟩
        · grind
      · rintro ⟨before, after, hes, hdistinct, hbefore, he⟩
        cases before with
        | nil => grind
        | cons b before =>
          obtain ⟨rfl, rfl⟩ := List.cons.inj hes
          obtain ⟨hnew, hdistinct⟩ := List.nodup_cons.1 hdistinct
          refine ⟨before, after, rfl, hdistinct, fun x hx => ?_, ?_⟩
          · grind
          · grind

/-- Among the columns, the first field to repeat is that of the first repeated column. -/
theorem repeated?_columns_eq_some_iff : repeated? [] (columns.filterMap id) = some (d, f) ↔
    FirstRepeated columns d f := by
  rw [repeated?_eq_some_iff]
  constructor
  · rintro ⟨before, after, hcolumns, hdistinct, -, he⟩
    obtain ⟨front, back, rfl, rfl, hback⟩ := List.filterMap_eq_append_iff.1 hcolumns
    obtain ⟨skipped, e, back, rfl, hskipped, he', rfl⟩ := List.filterMap_eq_cons_iff.1 hback
    cases he'
    have hfront : (front ++ skipped).filterMap id = front.filterMap id := by
      rw [List.filterMap_append, List.filterMap_eq_nil_iff.2 hskipped, List.append_nil]
    refine ⟨front ++ skipped, back, by simp, hfront ▸ hdistinct, ?_⟩
    have hmem : (d, f) ∈ front.filterMap id := he.resolve_left (by simp)
    obtain ⟨c, hc, rfl⟩ := List.mem_filterMap.1 hmem
    exact List.mem_append_left _ hc
  · rintro ⟨before, after, rfl, hdistinct, he⟩
    refine ⟨before.filterMap id, after.filterMap id, by simp, hdistinct, by simp, .inr ?_⟩
    exact List.mem_filterMap.2 ⟨_, he, rfl⟩

theorem fault?_eq_some_iff : fault? entries = some fault ↔
    (∃ d f, FirstUndeclared entries d f ∧ fault = .unknownField d.schema.name f) ∨
    ((∀ e ∈ entries, Declares e) ∧
      ∃ d f, FirstRepeated (entries.flatMap expand) d f ∧
        fault = .duplicateField d.schema.name f) := by
  rw [fault?, Option.or_eq_some_iff, findSome?_entryFault?_eq_some_iff,
    findSome?_entryFault?_eq_none_iff, Option.map_eq_some_iff]
  simp only [Prod.exists, repeated?_columns_eq_some_iff, @eq_comm _ _ fault]

theorem count_some_eq_count_filterMap (columns : List Slot) (e : Declared × String) :
    columns.count (some e) = (columns.filterMap id).count e := by
  induction columns with
  | nil => rfl
  | cons c columns ih =>
    cases c with
    | none => simpa using ih
    | some e' => simp [List.count_cons, ih]

theorem repeated?_columns_eq_none_iff :
    repeated? [] (columns.filterMap id) = none ↔ ∀ d f, columns.count (some (d, f)) ≤ 1 := by
  rw [repeated?_eq_none]
  simp [count_some_eq_count_filterMap, List.nodup_iff_count_le_one, Prod.forall]

/-- Some column is the first to repeat a field if any field has two columns. -/
theorem exists_firstRepeated_iff : (∃ d f, FirstRepeated columns d f) ↔
    ∃ d f, 2 ≤ columns.count (some (d, f)) := by
  have hsome : (∃ d f, FirstRepeated columns d f) ↔
      repeated? [] (columns.filterMap id) ≠ none := by
    rw [← Option.isSome_iff_ne_none, Option.isSome_iff_exists, Prod.exists]
    simp only [repeated?_columns_eq_some_iff]
  rw [hsome, Ne, repeated?_columns_eq_none_iff]
  simp only [not_forall, Nat.not_le, Nat.lt_iff_add_one_le]

theorem fault?_eq_none_iff : fault? entries = none ↔
    (∀ e ∈ entries, Declares e) ∧ ∀ d f, (entries.flatMap expand).count (some (d, f)) ≤ 1 := by
  rw [fault?, Option.or_eq_none_iff, findSome?_entryFault?_eq_none_iff, Option.map_eq_none_iff,
    repeated?_columns_eq_none_iff]

theorem ofEntries_eq_error_iff :
    ofEntries entries = .error fault ↔ fault? entries = some fault := by
  unfold ofEntries
  split <;> simp_all

theorem columns_of_ofEntries (h : ofEntries entries = .ok l) :
    fault? entries = none ∧ l.columns = entries.flatMap expand := by
  cases hfault : fault? entries with
  | some fault =>
    rw [ofEntries_eq_error_iff.2 hfault] at h
    cases h
  | none =>
    obtain ⟨l', hl', hcolumns⟩ := ofEntries_eq_ok hfault
    cases h.symm.trans hl'
    exact ⟨rfl, hcolumns⟩

theorem length_expand (e : Slot) : (expand e).length = entryWidth e := by
  cases e with
  | none => rfl
  | some e =>
    obtain ⟨d, f⟩ := e
    by_cases h : f = "*" <;> simp [expand, entryWidth, h]

theorem width_of_ofEntries (h : ofEntries entries = .ok l) :
    l.width = (entries.map entryWidth).sum := by
  rw [width, (columns_of_ofEntries h).2, List.length_flatMap]
  simp only [length_expand]

/-! ## Owners -/

/-- The place of the first column of a declaration. -/
def firstColumn (columns : List Slot) (d : Declared) : Nat :=
  columns.findIdx fun c => c.map Prod.fst == some d

/-- The declarations of the columns, one for each column that is not skipped. -/
def ownersOf (columns : List Slot) : List Declared := (columns.filterMap id).map Prod.fst

theorem mem_ownersOf : d ∈ ownersOf columns ↔ ∃ f, some (d, f) ∈ columns := by
  simp [ownersOf]

theorem mem_owners : d ∈ l.owners ↔ ∃ f, some (d, f) ∈ l.columns :=
  List.mem_eraseDups.trans mem_ownersOf

theorem firstColumn_lt_iff :
    firstColumn columns d < columns.length ↔ d ∈ ownersOf columns := by
  rw [firstColumn, List.findIdx_lt_length, mem_ownersOf]
  constructor
  · rintro ⟨c, hc, hd⟩
    obtain ⟨e, rfl, rfl⟩ := Option.map_eq_some_iff.1 (eq_of_beq hd)
    exact ⟨e.2, hc⟩
  · rintro ⟨f, hf⟩
    exact ⟨_, hf, by simp⟩

/-- What comes behind does not matter to a declaration that has a column already. -/
theorem firstColumn_append_of_mem (h : d ∈ ownersOf columns) (later : List Slot) :
    firstColumn (columns ++ later) d = firstColumn columns d := by
  have hfound := firstColumn_lt_iff.2 h
  rw [firstColumn] at hfound
  rw [firstColumn, List.findIdx_append, if_pos hfound, firstColumn]

theorem firstColumn_append_of_notMem (h : d ∉ ownersOf columns) (later : List Slot) :
    columns.length ≤ firstColumn (columns ++ later) d := by
  have hmissed := mt firstColumn_lt_iff.1 h
  rw [firstColumn] at hmissed
  rw [firstColumn, List.findIdx_append, if_neg hmissed]
  exact Nat.le_add_left _ _

/-- Owners come in the order of their first columns. -/
theorem pairwise_eraseDups_ownersOf (columns : List Slot) : (ownersOf columns).eraseDups.Pairwise
    fun d d' => firstColumn columns d < firstColumn columns d' := by
  induction columns using List.reverseRecOn with
  | nil => simp [ownersOf]
  | append_singleton columns c ih =>
    have hkept : (ownersOf columns).eraseDups.Pairwise fun d d' =>
        firstColumn (columns ++ [c]) d < firstColumn (columns ++ [c]) d' := by
      refine ih.imp_of_mem fun {d d'} hd hd' hlt => ?_
      rwa [firstColumn_append_of_mem (List.mem_eraseDups.1 hd),
        firstColumn_append_of_mem (List.mem_eraseDups.1 hd')]
    cases c with
    | none => simpa [ownersOf] using hkept
    | some e =>
      have howners : ownersOf (columns ++ [some e]) = ownersOf columns ++ [e.1] := by
        simp [ownersOf]
      rw [howners]
      by_cases he : e.1 ∈ ownersOf columns
      · rw [List.eraseDups_append_of_mem he]
        exact hkept
      · -- A new owner has its first column behind those of all others.
        rw [List.eraseDups_append_of_notMem he, List.pairwise_append]
        refine ⟨hkept, List.pairwise_singleton _ _, fun d hd d' hd' => ?_⟩
        rw [List.mem_singleton.1 hd', firstColumn_append_of_mem (List.mem_eraseDups.1 hd)]
        exact Nat.lt_of_lt_of_le (firstColumn_lt_iff.2 (List.mem_eraseDups.1 hd))
          (firstColumn_append_of_notMem he [some e])

/-! ## Shares -/

/-- A declaration finds the values of its own columns under their fields. -/
theorem mem_shareOf {v : Value} : (f, v) ∈ shareOf columns d t ↔
    ∃ i : Nat, columns[i]? = some (some (d, f)) ∧ t[i]? = some v := by
  rw [shareOf, List.mem_filterMap]
  constructor
  · rintro ⟨⟨c, w⟩, hp, hfound⟩
    obtain ⟨i, hi⟩ := List.mem_iff_getElem?.1 hp
    obtain ⟨hcolumn, hvalue⟩ := List.getElem?_zip_eq_some.1 hi
    cases c with
    | none => cases hfound
    | some e =>
      obtain ⟨owner, g⟩ := e
      by_cases howner : owner = d
      · simp only [howner, if_true, Option.some.injEq, Prod.mk.injEq] at hfound
        obtain ⟨rfl, rfl⟩ := hfound
        exact ⟨i, howner ▸ hcolumn, hvalue⟩
      · simp [howner] at hfound
  · rintro ⟨i, hcolumn, hvalue⟩
    exact ⟨(some (d, f), v), List.mem_iff_getElem?.2
      ⟨i, List.getElem?_zip_eq_some.2 ⟨hcolumn, hvalue⟩⟩, by simp⟩

/-- The fields for which a declaration has columns. -/
def fieldsOf (columns : List Slot) (d : Declared) : List String :=
  (columns.filterMap id).filterMap fun e => if e.1 = d then some e.2 else none

theorem nodup_fieldsOf (h : (columns.filterMap id).Nodup) (d : Declared) :
    (fieldsOf columns d).Nodup := by
  refine h.filterMap fun e e' g he he' => ?_
  obtain ⟨owner, field⟩ := e
  obtain ⟨owner', field'⟩ := e'
  simp only [Option.mem_def, Option.ite_none_right_eq_some, Option.some.injEq] at he he'
  rw [he.1, he'.1, he.2, he'.2]

/-- A wide tuple has a value for each field with a column. -/
theorem keys_shareOf (h : columns.length ≤ t.length) :
    (shareOf columns d t).keys = fieldsOf columns d := by
  induction columns generalizing t with
  | nil => rfl
  | cons c columns ih =>
    cases t with
    | nil => simp at h
    | cons v t =>
      have hrest := ih (Nat.le_of_succ_le_succ h)
      cases c with
      | none => exact hrest
      | some e =>
        obtain ⟨owner, field⟩ := e
        by_cases howner : owner = d
        · simpa [shareOf, fieldsOf, Bindings.keys, howner] using hrest
        · simpa [shareOf, fieldsOf, Bindings.keys, howner] using hrest

/-- Only the values in mapped columns are looked at. -/
theorem shareOf_congr (ht : columns.length ≤ t.length) (hu : columns.length ≤ u.length)
    (h : ∀ (i : Nat) e, columns[i]? = some (some e) → t[i]? = u[i]?) :
    shareOf columns d t = shareOf columns d u := by
  induction columns generalizing t u with
  | nil => rfl
  | cons c columns ih =>
    cases t with
    | nil => simp at ht
    | cons v t =>
      cases u with
      | nil => simp at hu
      | cons w u =>
        have hrest := ih (Nat.le_of_succ_le_succ ht) (Nat.le_of_succ_le_succ hu)
          fun i e hi => by simpa using h (i + 1) e (by simpa using hi)
        cases c with
        | none => exact hrest
        | some e =>
          have hv : v = w := by simpa using h 0 e rfl
          rw [shareOf, List.zip_cons_cons, List.filterMap_cons, shareOf, List.zip_cons_cons,
            List.filterMap_cons, hv]
          rw [shareOf, shareOf] at hrest
          rw [hrest]

/-! ## Rows -/

/-- A row of one declaration: the fields with a column have the values of their columns, and no
other field is supplied. -/
structure Fills (columns : List Slot) (t : List Value) (d : Declared) (r : Row) : Prop where
  schema_eq : r.schema = d.schema
  mapped : ∀ (i : Nat) f, columns[i]? = some (some (d, f)) →
    ∃ v, t[i]? = some v ∧ r.get f = .ok (some v)
  unmapped : ∀ f ∈ d.schema.columnNames, some (d, f) ∉ columns → r.get f = .ok none

theorem get_of_declared {r : Row} (h : f ∈ r.schema.columnNames) : r.get f = .ok (r.value? f) := by
  obtain ⟨place, hplace⟩ := r.schema.position?_of_mem h
  rw [Row.value?_of_position? hplace, Row.get, Schema.requireField, hplace]
  rfl

theorem ofNamed_share (l : Layout) (h : l.width ≤ t.length) (d : Declared) :
    ∃ r, Row.ofNamed d.schema (l.share d t) = .ok r ∧ Fills l.columns t d r := by
  have hkeys : (l.share d t).keys = fieldsOf l.columns d := keys_shareOf h
  have hdistinct : (l.share d t).keys.Nodup := hkeys ▸ nodup_fieldsOf l.distinct d
  have hmem : ∀ {f v}, (f, v) ∈ l.share d t ↔
      ∃ i : Nat, l.columns[i]? = some (some (d, f)) ∧ t[i]? = some v := mem_shareOf
  have hdeclared : ∀ f ∈ (l.share d t).keys, f ∈ d.schema.columnNames := by
    intro f hf
    obtain ⟨⟨g, v⟩, hp, rfl⟩ := List.mem_map.1 hf
    obtain ⟨i, hi, -⟩ := hmem.1 hp
    exact l.declared d g (List.mem_of_getElem? hi)
  obtain ⟨r, hr, hschema, hvalue⟩ := Row.ofNamed_eq_ok hdeclared hdistinct
  refine ⟨r, hr, hschema, fun i f hi => ?_, fun f hf hnone => ?_⟩
  · have hlt : i < t.length := Nat.lt_of_lt_of_le (List.getElem?_eq_some_iff.1 hi).1 h
    have hget : t[i]? = some t[i] := List.getElem?_eq_getElem hlt
    have hf : f ∈ r.schema.columnNames := hschema ▸ l.declared d f (List.mem_of_getElem? hi)
    refine ⟨t[i], hget, ?_⟩
    rw [get_of_declared hf, hvalue, (Bindings.lookup_eq_some_iff_mem hdistinct).2
      (hmem.2 ⟨i, hi, hget⟩)]
  · have hlookup : (l.share d t).lookup f = none := by
      rw [← Option.not_isSome_iff_eq_none, Bindings.isSome_lookup_iff]
      intro hkey
      obtain ⟨⟨g, v⟩, hp, rfl⟩ := List.mem_map.1 hkey
      obtain ⟨i, hi, -⟩ := hmem.1 hp
      exact hnone (List.mem_of_getElem? hi)
    rw [get_of_declared (hschema ▸ hf), hvalue, hlookup]

theorem readTuple_of_le (l : Layout) (h : l.width ≤ t.length) :
    ∃ rows, l.readTuple t = .ok rows ∧ List.Forall₂ (Fills l.columns t) l.owners rows := by
  rw [readTuple, if_neg (Nat.not_lt.2 h)]
  exact Except.mapM_of_forall fun d _ => l.ofNamed_share h d

theorem readTuple_congr (l : Layout) (ht : l.width ≤ t.length) (hu : l.width ≤ u.length)
    (h : ∀ (i : Nat) e, l.columns[i]? = some (some e) → t[i]? = u[i]?) :
    l.readTuple t = l.readTuple u := by
  have hshare : ∀ d, l.share d t = l.share d u := fun d => shareOf_congr ht hu h
  rw [readTuple, readTuple, if_neg (Nat.not_lt.2 ht), if_neg (Nat.not_lt.2 hu)]
  simp only [hshare]

/-! ## Main statement -/

/-- What comes of entries. -/
structure LaidOut (entries : List Slot) : Prop where
  error_iff : ∀ fault, ofEntries entries = .error fault ↔
    (∃ d f, FirstUndeclared entries d f ∧ fault = .unknownField d.schema.name f) ∨
    ((∀ e ∈ entries, Declares e) ∧
      ∃ d f, FirstRepeated (entries.flatMap expand) d f ∧
        fault = .duplicateField d.schema.name f)
  repeated_iff : (∃ d f, FirstRepeated (entries.flatMap expand) d f) ↔
    ∃ d f, 2 ≤ (entries.flatMap expand).count (some (d, f))
  ok_iff : (∃ l, ofEntries entries = .ok l) ↔
    (∀ e ∈ entries, Declares e) ∧ ∀ d f, (entries.flatMap expand).count (some (d, f)) ≤ 1
  columns_eq : ∀ l, ofEntries entries = .ok l →
    l.columns = entries.flatMap expand ∧ l.width = (entries.map entryWidth).sum

/-- How tuples are read with a layout: one row for each declaration that owns a column, in the
order of their first columns. -/
structure Reads (l : Layout) : Prop where
  narrow : ∀ t, t.length < l.width → l.readTuple t = .error (.narrowTuple l.width t.length)
  wide : ∀ t, l.width ≤ t.length →
    ∃ rows, l.readTuple t = .ok rows ∧ List.Forall₂ (Fills l.columns t) l.owners rows
  mem_owners_iff : ∀ d, d ∈ l.owners ↔ ∃ f, some (d, f) ∈ l.columns
  owners_ordered : l.owners.Pairwise fun d d' =>
    firstColumn l.columns d < firstColumn l.columns d'
  mapped_only : ∀ t u, l.width ≤ t.length → l.width ≤ u.length →
    (∀ (i : Nat) e, l.columns[i]? = some (some e) → t[i]? = u[i]?) → l.readTuple t = l.readTuple u

theorem laidOut (entries : List Slot) : LaidOut entries where
  error_iff := fun fault => by rw [ofEntries_eq_error_iff, fault?_eq_some_iff]
  repeated_iff := exists_firstRepeated_iff
  ok_iff := by
    rw [← fault?_eq_none_iff]
    constructor
    · rintro ⟨l, hl⟩
      exact (columns_of_ofEntries hl).1
    · intro h
      obtain ⟨l, hl, -⟩ := ofEntries_eq_ok h
      exact ⟨l, hl⟩
  columns_eq := fun _ hl => ⟨(columns_of_ofEntries hl).2, width_of_ofEntries hl⟩

theorem reads (l : Layout) : Reads l where
  narrow := fun _ h => if_pos h
  wide := fun _ => l.readTuple_of_le
  mem_owners_iff := fun _ => mem_owners
  owners_ordered := pairwise_eraseDups_ownersOf l.columns
  mapped_only := fun _ _ => l.readTuple_congr

/-- Entries make a layout unless a field is undeclared or gets two columns, and a tuple that is
wide enough is always read: each field with a column has the value of that column. -/
theorem each_column_read_once (entries : List Slot) :
    LaidOut entries ∧ ∀ l, ofEntries entries = .ok l → Reads l :=
  ⟨laidOut entries, fun l _ => l.reads⟩

end Layout
end RowSql
