import Mathlib.Data.List.Forall2
import RowSql.Proofs.Query.Assignments
import RowSql.Proofs.Query.Slots

/-!
# Unambiguous statements

A statement can be read in one way only, unless it holds expressions: those are taken as they
stand and could look like anything. Each kind of query is read from the left. A list of names
ends at a blank or at a parenthesis, names are separated by commas, and behind the names of an
assignment stands a mark that its place determines. Main statement: queries with the same text
and the same parameters are of one kind and ask for the same.
-/
namespace RowSql

/-- The same names, and values that are the same pairwise. -/
def Bindings.Agree (same : Value → Value → Prop) (b c : Bindings) : Prop :=
  b.keys = c.keys ∧ List.Forall₂ same b.values c.values

/-- The same text, and parameters that are the same pairwise. -/
def Statement.Agree (same : Value → Value → Prop) (s t : Statement) : Prop :=
  s.sql = t.sql ∧ List.Forall₂ same s.parameters t.parameters

namespace Query

/-- Nothing is taken as it stands: there are no expressions, and what an insertion returns has
names. -/
def IsReadable (q : Query) : Prop :=
  q.expressions = [] ∧ ∀ c ∈ q.returning, c = "*" ∨ Name.IsPlain c

/-- Queries of one kind that ask for the same. -/
def Agree (same : Value → Value → Prop) : Query → Query → Prop
  | insert q, insert r =>
    q.row.schema.table = r.row.schema.table ∧ q.row.bound.Agree same r.row.bound ∧
      q.returning = r.returning
  | select q, select r =>
    q.schema.table = r.schema.table ∧ q.fields = r.fields ∧
      q.conditions.Agree same r.conditions ∧ q.limit = r.limit ∧ q.forUpdate = r.forUpdate
  | update q, update r =>
    q.schema.table = r.schema.table ∧ q.assignments.Agree same r.assignments ∧
      q.conditions.Agree same r.conditions
  | join q, join r =>
    q.schemas.map (fun s => s.table) = r.schemas.map (fun s => s.table) ∧
      q.sharedKey = r.sharedKey ∧ q.conditions.Agree same r.conditions
  | _, _ => False

end Query

theorem forall₂_of_append {α β : Type} {R : α → β → Prop} {a b : List α} {c d : List β}
    (hlength : a.length = c.length) (h : List.Forall₂ R (a ++ b) (c ++ d)) :
    List.Forall₂ R a c ∧ List.Forall₂ R b d := by
  have hfirst := List.forall₂_take a.length h
  have hsecond := List.forall₂_drop a.length h
  rw [List.take_left, List.take_left' hlength.symm] at hfirst
  rw [List.drop_left, List.drop_left' hlength.symm] at hsecond
  exact ⟨hfirst, hsecond⟩

/-! ## Lists of names -/

/-- The characters of what stands in a list: names, stars, and stars of a table. -/
abbrev IsEntryChar (c : Char) : Prop := Name.IsWordChar c ∨ c = '*' ∨ c = '.'

theorem Name.IsPlain.over_entry {s : String} (h : Name.IsPlain s) : Over IsEntryChar s :=
  h.over.mono fun _ => Or.inl

theorem over_entry_of_star_or_plain {s : String} (h : s = "*" ∨ Name.IsPlain s) :
    Over IsEntryChar s := by
  rcases h with rfl | h
  · decide
  · exact h.over_entry

/-- A table name is read up to the blank behind it, or to the end. -/
theorem table_eq_of_append_eq {s t : Schema} {x y : String} (hx : StopsAt Name.IsWordChar x)
    (hy : StopsAt Name.IsWordChar y) (h : s.table ++ x = t.table ++ y) :
    s.table = t.table ∧ x = y :=
  Span.eq_of_append_eq s.table_plain.over t.table_plain.over hx hy h

theorem fields_eq_of_append_eq {l m : List String} {x y : String} (hl : l ≠ []) (hm : m ≠ [])
    (hlP : ∀ s ∈ l, Over IsEntryChar s) (hmP : ∀ s ∈ m, Over IsEntryChar s)
    (hx : StopsAt (fun c => IsEntryChar c ∨ c = ',') x)
    (hy : StopsAt (fun c => IsEntryChar c ∨ c = ',') y)
    (h : ",".intercalate l ++ x = ",".intercalate m ++ y) : l = m ∧ x = y :=
  Span.eq_of_listed_append_eq (by decide) hl hm hlP hmP hx hy h

/-! ## Insertions -/

namespace Insert

variable {same : Value → Value → Prop} {q r : Insert} {m : Marker}

/-- The slots of bound columns are marks, as many as there are columns. -/
theorem slotsFrom_eq_of_length {b c : Bindings} (n : Nat) (h : b.length = c.length) :
    slotsFrom m n (b.map fun p => (p.1, Entry.bound p.2)) =
      slotsFrom m n (c.map fun p => (p.1, Entry.bound p.2)) := by
  induction b generalizing c n with
  | nil => rw [List.length_eq_zero_iff.1 h.symm]
  | cons p b ih =>
    cases c with
    | nil => simp at h
    | cons p' c => simpa [slotsFrom] using ih (n + 1) (by simpa using h)

theorem slots_eq_of_written_nil (hq : q.written = []) (hr : r.written = [])
    (h : q.columns = r.columns) : q.slots m = r.slots m := by
  have hlength := congrArg List.length h
  rw [columns_of_written_nil hq, columns_of_written_nil hr] at hlength
  unfold slots entries
  rw [hq, hr]
  exact slotsFrom_eq_of_length 1 (by simpa [Bindings.keys] using hlength)

theorem returning_eq (hq : ∀ c ∈ q.returning, Over IsEntryChar c)
    (hr : ∀ c ∈ r.returning, Over IsEntryChar c) (h : q.returningText = r.returningText) :
    q.returning = r.returning := by
  unfold returningText at h
  by_cases hq' : q.returning = []
  · by_cases hr' : r.returning = []
    · rw [hq', hr']
    · rw [if_pos hq', if_neg hr'] at h
      simp at h
  · by_cases hr' : r.returning = []
    · rw [if_neg hq', if_pos hr'] at h
      simp at h
    · rw [if_neg hq', if_neg hr', String.append_right_inj] at h
      have happend : ",".intercalate q.returning ++ "" = ",".intercalate r.returning ++ "" := by
        rw [h]
      exact (fields_eq_of_append_eq hq' hr' hq hr StopsAt.empty StopsAt.empty happend).1

/-- The table, the columns and what is returned are read off one after the other. -/
theorem columns_eq (hq : q.fault? = none) (hr : r.fault? = none)
    (hq' : q.written = []) (hr' : r.written = [])
    (h : (q.pieces.render m).sql = (r.pieces.render m).sql) :
    q.row.schema.table = r.row.schema.table ∧ q.columns = r.columns ∧
      q.returningText = r.returningText := by
  have hblank : ∀ z, StopsAt Name.IsWordChar (" default values" ++ z) :=
    StopsAt.append (by decide) (by decide)
  have hopen : ∀ z, StopsAt Name.IsWordChar (" (" ++ z) := StopsAt.append (by decide) (by decide)
  have hclose : ∀ z, StopsAt (fun c => IsEntryChar c ∨ c = ',') (") values (" ++ z) :=
    StopsAt.append (by decide) (by decide)
  rw [sql_pieces, sql_pieces] at h
  by_cases hqc : q.columns = []
  · by_cases hrc : r.columns = []
    · rw [if_pos hqc, if_pos hrc] at h
      simp only [String.append_assoc, String.append_right_inj] at h
      obtain ⟨htable, hrest⟩ := table_eq_of_append_eq (hblank _) (hblank _) h
      rw [String.append_right_inj] at hrest
      exact ⟨htable, by rw [hqc, hrc], hrest⟩
    · rw [if_pos hqc, if_neg hrc] at h
      simp only [String.append_assoc, String.append_right_inj] at h
      obtain ⟨-, hrest⟩ := table_eq_of_append_eq (hblank _) (hopen _) h
      have hlist := congrArg String.toList hrest
      simp at hlist
  · by_cases hrc : r.columns = []
    · rw [if_neg hqc, if_pos hrc] at h
      simp only [String.append_assoc, String.append_right_inj] at h
      obtain ⟨-, hrest⟩ := table_eq_of_append_eq (hopen _) (hblank _) h
      have hlist := congrArg String.toList hrest
      simp at hlist
    · rw [if_neg hqc, if_neg hrc] at h
      simp only [String.append_assoc, String.append_right_inj] at h
      obtain ⟨htable, hrest⟩ := table_eq_of_append_eq (hopen _) (hopen _) h
      rw [String.append_right_inj] at hrest
      obtain ⟨hcolumns, hslots⟩ := fields_eq_of_append_eq hqc hrc
        (fun c hc => (plain_of_mem_columns q hq hc).over_entry)
        (fun c hc => (plain_of_mem_columns r hr hc).over_entry) (hclose _) (hclose _) hrest
      rw [slots_eq_of_written_nil hq' hr' hcolumns] at hslots
      simp only [String.append_right_inj] at hslots
      exact ⟨htable, hcolumns, hslots⟩

theorem agree_of_render_agree (hq : q.fault? = none) (hr : r.fault? = none)
    (hq' : (Query.insert q).IsReadable) (hr' : (Query.insert r).IsReadable)
    (h : (q.pieces.render m).Agree same (r.pieces.render m)) :
    (Query.insert q).Agree same (Query.insert r) := by
  have hqw : q.written = [] := List.map_eq_nil_iff.1 hq'.1
  have hrw : r.written = [] := List.map_eq_nil_iff.1 hr'.1
  obtain ⟨htable, hcolumns, htext⟩ := columns_eq hq hr hqw hrw h.1
  have hreturning := returning_eq (fun c hc => over_entry_of_star_or_plain (hq'.2 c hc))
    (fun c hc => over_entry_of_star_or_plain (hr'.2 c hc)) htext
  rw [columns_of_written_nil hqw, columns_of_written_nil hrw] at hcolumns
  have hvalues := h.2
  simp only [Template.render, parameters_pieces] at hvalues
  rw [kept_of_written_nil hqw, kept_of_written_nil hrw] at hvalues
  exact ⟨htable, ⟨hcolumns, hvalues⟩, hreturning⟩

end Insert

/-! ## Selections -/

namespace Select

variable {same : Value → Value → Prop} {q r : Select} {m : Marker}

theorem lacks_limit_of_lockText : Lacks " limit " q.lockText := by
  intro rest h
  have hlist := congrArg String.toList h
  unfold lockText at hlist
  split at hlist <;> simp at hlist

/-- What stands behind the conditions, when no order is given. -/
theorem tail_eq (h : q.limitText ++ q.lockText = r.limitText ++ r.lockText) :
    q.limit = r.limit ∧ q.forUpdate = r.forUpdate := by
  have hlock : ∀ p : Select, StopsAt (fun c => c.isDigit = true) p.lockText := by
    intro p
    unfold lockText
    split <;> decide
  have hflag : q.lockText = r.lockText → q.forUpdate = r.forUpdate := by
    unfold lockText
    cases q.forUpdate <;> cases r.forUpdate <;> simp
  cases hq : q.limit with
  | none =>
    cases hr : r.limit with
    | none => exact ⟨rfl, hflag (by simpa [limitText, hq, hr] using h)⟩
    | some k =>
      simp only [limitText, hq, hr, String.empty_append, String.append_assoc] at h
      exact absurd h (lacks_limit_of_lockText _)
  | some n =>
    cases hr : r.limit with
    | none =>
      simp only [limitText, hq, hr, String.empty_append, String.append_assoc] at h
      exact absurd h.symm (lacks_limit_of_lockText _)
    | some k =>
      unfold limitText at h
      simp only [hq, hr, String.append_assoc, String.append_right_inj] at h
      obtain ⟨hnumber, hrest⟩ :=
        Span.eq_of_append_eq (Over.digits n) (Over.digits k) (hlock q) (hlock r) h
      have hnk : n = k := by
        have hchars := congrArg (fun s => Nat.ofDigitChars 10 s.toList 0) hnumber
        simpa using hchars
      exact ⟨by rw [hnk], hflag hrest⟩

theorem lacks_of_tail : Lacks " where " (q.limitText ++ q.lockText) ∧
    Lacks " and " (q.limitText ++ q.lockText) := by
  constructor
  · intro rest h
    have hlist := congrArg String.toList h
    unfold limitText lockText at hlist
    split at hlist <;> split at hlist <;> simp at hlist
  · intro rest h
    have hlist := congrArg String.toList h
    unfold limitText lockText at hlist
    split at hlist <;> split at hlist <;> simp at hlist

theorem stopsAt_tail : StopsAt Name.IsWordChar (q.limitText ++ q.lockText) := by
  cases h : q.limit with
  | none =>
    simp only [limitText, h, String.empty_append]
    unfold lockText
    split <;> decide
  | some n =>
    simp only [limitText, h, String.append_assoc]
    exact StopsAt.append (by decide) (by decide) _

/-- The text of a selection without an order. -/
theorem sql_pieces (hq : q.order = none) : (q.pieces.render m).sql =
    "select " ++ (",".intercalate q.fields ++ (" from " ++ (q.schema.table ++
      (Template.sqlFrom m 1 (Template.conditions q.conditions) ++
        (q.limitText ++ q.lockText))))) := by
  have horder : q.orderText = "" := by rw [orderText, hq]
  simp [Template.render, pieces, Template.sqlFrom, Template.sqlFrom_append, horder,
    String.append_assoc]

theorem parameters_pieces : Template.parameters q.pieces = q.conditions.values := by
  simp [pieces, Template.parameters]

theorem over_fields (hq : q.fault? = none) : ∀ f ∈ q.fields, Over IsEntryChar f := by
  intro f hf
  rcases (fault?_eq_none_iff.1 hq).2.1 f hf with hstar | hf
  · exact over_entry_of_star_or_plain (Or.inl hstar)
  · exact (q.schema.plain_of_mem_columnNames hf).over_entry

theorem keysPlain (hq : q.fault? = none) : q.conditions.KeysPlain :=
  q.schema.plain_of_subset (fault?_eq_none_iff.1 hq).2.2

theorem agree_of_render_agree (hq : q.fault? = none) (hr : r.fault? = none)
    (hq' : (Query.select q).IsReadable) (hr' : (Query.select r).IsReadable)
    (h : (q.pieces.render m).Agree same (r.pieces.render m)) :
    (Query.select q).Agree same (Query.select r) := by
  have hqo : q.order = none := Option.toList_eq_nil_iff.1 hq'.1
  have hro : r.order = none := Option.toList_eq_nil_iff.1 hr'.1
  have hsql := h.1
  rw [sql_pieces hqo, sql_pieces hro, String.append_right_inj] at hsql
  obtain ⟨hfields, hsql⟩ := fields_eq_of_append_eq (fault?_eq_none_iff.1 hq).1
    (fault?_eq_none_iff.1 hr).1 (over_fields hq) (over_fields hr)
    (StopsAt.append (by decide) (by decide) _) (StopsAt.append (by decide) (by decide) _) hsql
  rw [String.append_right_inj] at hsql
  obtain ⟨htable, hsql⟩ := table_eq_of_append_eq (Template.stopsAt_conditions stopsAt_tail)
    (Template.stopsAt_conditions stopsAt_tail) hsql
  obtain ⟨hkeys, htail⟩ := Template.keys_eq_of_conditions (keysPlain hq) (keysPlain hr)
    lacks_of_tail lacks_of_tail hsql
  obtain ⟨hlimit, hlock⟩ := tail_eq htail
  have hvalues := h.2
  simp only [Template.render, parameters_pieces] at hvalues
  exact ⟨htable, hfields, ⟨hkeys, hvalues⟩, hlimit, hlock⟩

end Select

/-! ## Updates -/

namespace Update

variable {same : Value → Value → Prop} {q r : Update} {m : Marker}

theorem sql_pieces : (q.pieces.render m).sql =
    "update " ++ (q.schema.table ++ (" set " ++
      (Template.sqlFrom m 1 (Template.assignments "," q.assignments) ++
        Template.sqlFrom m (1 + q.assignments.length) (Template.conditions q.conditions)))) := by
  simp [Template.render, pieces, Template.sqlFrom, Template.sqlFrom_append, Bindings.values,
    String.append_assoc]

theorem parameters_pieces : Template.parameters q.pieces =
    q.assignments.values ++ q.conditions.values := by
  simp [pieces, Template.parameters]

theorem agree_of_render_agree (hq : q.fault? = none) (hr : r.fault? = none)
    (h : (q.pieces.render m).Agree same (r.pieces.render m)) :
    (Query.update q).Agree same (Query.update r) := by
  obtain ⟨hqa, hqset, hqwhere⟩ := fault?_eq_none_iff.1 hq
  obtain ⟨hra, hrset, hrwhere⟩ := fault?_eq_none_iff.1 hr
  have hblank : ∀ z, StopsAt Name.IsWordChar (" set " ++ z) :=
    StopsAt.append (by decide) (by decide)
  have hsql := h.1
  rw [sql_pieces, sql_pieces, String.append_right_inj] at hsql
  obtain ⟨htable, hsql⟩ := table_eq_of_append_eq (hblank _) (hblank _) hsql
  rw [String.append_right_inj] at hsql
  obtain ⟨hassignments, hsql⟩ := Template.keys_eq_of_assignments
    (q.schema.plain_of_subset hqset) (r.schema.plain_of_subset hrset) hqa hra
    Template.lacks_comma_of_conditions Template.lacks_comma_of_conditions hsql
  have hlength : q.assignments.length = r.assignments.length := by
    simpa [Bindings.keys] using congrArg List.length hassignments
  rw [hlength] at hsql
  have hconditions := Template.keys_eq_of_last_conditions (q.schema.plain_of_subset hqwhere)
    (r.schema.plain_of_subset hrwhere) hsql
  have hvalues := h.2
  simp only [Template.render, parameters_pieces] at hvalues
  obtain ⟨hset, hwhere⟩ := forall₂_of_append (by simpa [Bindings.values] using hlength) hvalues
  exact ⟨htable, ⟨hassignments, hset⟩, hconditions, hwhere⟩

end Update

/-! ## Joins -/

namespace Join

variable {same : Value → Value → Prop} {q r : Join} {m : Marker}

theorem sql_pieces : (q.pieces.render m).sql =
    "select " ++ (q.stars ++ (" from " ++ (tables q.schemas ++
      Template.sqlFrom m 1 (Template.conditions q.conditions)))) := by
  simp [Template.render, pieces, Template.sqlFrom, String.append_assoc]

theorem parameters_pieces : Template.parameters q.pieces = q.conditions.values := by
  simp [pieces, Template.parameters]

theorem over_stars : ∀ s ∈ q.schemas.map fun s => s.table ++ ".*", Over IsEntryChar s := by
  intro text htext
  obtain ⟨s, -, rfl⟩ := List.mem_map.1 htext
  exact Over.append_iff.2 ⟨s.table_plain.over_entry, by decide⟩

theorem stars_injective {l k : List Schema}
    (h : l.map (fun s => s.table ++ ".*") = k.map (fun s => s.table ++ ".*")) :
    l.map (fun s => s.table) = k.map (fun s => s.table) := by
  have hmap : ∀ j : List Schema, j.map (fun s => s.table ++ ".*") =
      (j.map fun s => s.table).map (· ++ ".*") := by
    intro j
    rw [List.map_map]
    rfl
  rw [hmap, hmap] at h
  exact (List.map_inj_right fun _ _ => String.append_left_inj _ |>.1).1 h

/-- What joins one more table. -/
def joining (key : List String) (table : String) : String :=
  " join " ++ (table ++ (" using (" ++ (",".intercalate key ++ ")")))

theorem tables_cons (first : Schema) (rest : List Schema) : tables (first :: rest) =
    first.table ++ String.join ((rest.map fun s => s.table).map (joining first.key)) := by
  simp [tables, joining, Function.comp_def, String.append_assoc]

/-- The names of the tables and the key make up the text. -/
theorem tables_congr (htables : q.schemas.map (fun s => s.table) = r.schemas.map fun s => s.table)
    (hkey : q.sharedKey = r.sharedKey) : tables q.schemas = tables r.schemas := by
  unfold sharedKey at hkey
  cases hq : q.schemas with
  | nil =>
    rw [hq] at htables
    rw [List.map_eq_nil_iff.1 htables.symm]
  | cons first rest =>
    cases hr : r.schemas with
    | nil => simp [hq, hr] at htables
    | cons first' rest' =>
      rw [hq, hr] at htables hkey
      obtain ⟨hfirst, hrest⟩ := List.cons.inj htables
      have htable : first.table = first'.table := hfirst
      have hfields : first.key = first'.key := hkey
      rw [tables_cons, tables_cons, htable, hrest, hfields]

/-- The key is read off behind the second table. -/
theorem sharedKey_eq {x y : String} (hq : q.fault? = none) (hr : r.fault? = none)
    (h : tables q.schemas ++ x = tables r.schemas ++ y) : q.sharedKey = r.sharedKey := by
  have hplain : ∀ {p : Join}, ∀ k ∈ p.sharedKey, Over IsEntryChar k :=
    fun k hk => (plain_of_mem_sharedKey hk).over_entry
  have htext : ∀ {p : Join} (z : String), p.fault? = none → ∃ first second : Schema, ∃ rest,
      tables p.schemas ++ z = first.table ++ (" join " ++ (second.table ++ (" using (" ++
        (",".intercalate p.sharedKey ++ (")" ++ rest))))) := by
    intro p z hp
    have hlength := (fault?_eq_none_iff.1 hp).1
    match hschemas : p.schemas with
    | [] | [_] => simp [hschemas] at hlength
    | first :: second :: rest =>
      refine ⟨first, second,
        String.join ((rest.map fun s => s.table).map (joining first.key)) ++ z, ?_⟩
      simp only [tables_cons, sharedKey, hschemas, joining, List.map_cons, String.join_cons,
        String.append_assoc]
  have hjoin : ∀ z, StopsAt Name.IsWordChar (" join " ++ z) :=
    StopsAt.append (by decide) (by decide)
  have husing : ∀ z, StopsAt Name.IsWordChar (" using (" ++ z) :=
    StopsAt.append (by decide) (by decide)
  have hclose : ∀ z, StopsAt (fun c => IsEntryChar c ∨ c = ',') (")" ++ z) :=
    StopsAt.append (by decide) (by decide)
  obtain ⟨first, second, rest, hqtext⟩ := htext x hq
  obtain ⟨first', second', rest', hrtext⟩ := htext y hr
  rw [hqtext, hrtext] at h
  obtain ⟨-, h⟩ := table_eq_of_append_eq (hjoin _) (hjoin _) h
  rw [String.append_right_inj] at h
  obtain ⟨-, h⟩ := table_eq_of_append_eq (husing _) (husing _) h
  rw [String.append_right_inj] at h
  exact (fields_eq_of_append_eq (fault?_eq_none_iff.1 hq).2.1 (fault?_eq_none_iff.1 hr).2.1
    hplain hplain (hclose _) (hclose _) h).1

theorem agree_of_render_agree (hq : q.fault? = none) (hr : r.fault? = none)
    (h : (q.pieces.render m).Agree same (r.pieces.render m)) :
    (Query.join q).Agree same (Query.join r) := by
  have hne : ∀ {p : Join}, p.fault? = none → p.schemas.map (fun s => s.table ++ ".*") ≠ [] :=
    fun hp => by simpa using schemas_ne_nil hp
  have hsql := h.1
  rw [sql_pieces, sql_pieces, String.append_right_inj] at hsql
  obtain ⟨hstars, hsql⟩ := fields_eq_of_append_eq (hne hq) (hne hr) over_stars over_stars
    (StopsAt.append (by decide) (by decide) _) (StopsAt.append (by decide) (by decide) _) hsql
  rw [String.append_right_inj] at hsql
  have htables := stars_injective hstars
  have hkey := sharedKey_eq hq hr hsql
  rw [tables_congr htables hkey, String.append_right_inj] at hsql
  have hconditions := Template.keys_eq_of_last_conditions
    (fun k hk => plain_of_mem_conditions hq hk) (fun k hk => plain_of_mem_conditions hr hk) hsql
  have hvalues := h.2
  simp only [Template.render, parameters_pieces] at hvalues
  exact ⟨htables, hkey, hconditions, hvalues⟩

end Join

/-! ## All queries -/

namespace Query

variable {same : Value → Value → Prop} {q r : Query} {m : Marker} {s t : Statement}

/-- What a statement begins with. -/
def lead : Query → String
  | insert _ => "insert into "
  | select _ => "select "
  | update _ => "update "
  | join _ => "select "

theorem sql_eq_lead_append (q : Query) (m : Marker) :
    ∃ rest, (q.pieces.render m).sql = q.lead ++ rest := by
  cases q <;> simp only [pieces, Insert.pieces, Select.pieces, Update.pieces, Join.pieces, lead,
    Template.render, Template.sqlFrom, String.append_assoc] <;> exact ⟨_, rfl⟩

theorem lead_eq_of_sql_eq (h : (q.pieces.render m).sql = (r.pieces.render m).sql) :
    q.lead = r.lead := by
  obtain ⟨x, hx⟩ := sql_eq_lead_append q m
  obtain ⟨y, hy⟩ := sql_eq_lead_append r m
  rw [hx, hy] at h
  have hlist := congrArg String.toList h
  cases q <;> cases r <;> first | rfl | simp [lead] at hlist

/-- A selection asks for no star of a table, as a join does. -/
theorem select_ne_join {p : Select} {j : Join} (hp : p.fault? = none) (hj : j.fault? = none)
    (hp' : (select p).IsReadable) : (p.pieces.render m).sql ≠ (j.pieces.render m).sql := by
  intro h
  rw [Select.sql_pieces (Option.toList_eq_nil_iff.1 hp'.1), Join.sql_pieces,
    String.append_right_inj] at h
  have hne : j.schemas.map (fun s => s.table ++ ".*") ≠ [] := by
    simpa using Join.schemas_ne_nil hj
  obtain ⟨hfields, -⟩ := fields_eq_of_append_eq (Select.fault?_eq_none_iff.1 hp).1 hne
    (Select.over_fields hp) Join.over_stars (StopsAt.append (by decide) (by decide) _)
    (StopsAt.append (by decide) (by decide) _) h
  obtain ⟨s, hs⟩ := List.exists_mem_of_ne_nil _ (Join.schemas_ne_nil hj)
  have hmem : s.table ++ ".*" ∈ p.fields := by
    rw [hfields]
    exact List.mem_map.2 ⟨s, hs, rfl⟩
  have hdot : ¬ Over (· ≠ '.') (s.table ++ ".*") := fun hover =>
    absurd (Over.append_iff.1 hover).2 (by decide)
  apply hdot
  rcases (Select.fault?_eq_none_iff.1 hp).2.1 _ hmem with hstar | hcolumn
  · rw [hstar]
    decide
  · exact (p.schema.plain_of_mem_columnNames hcolumn).over_ne (by decide)

/-- Readable queries that give rise to the same statement ask for the same. -/
theorem agree_of_statement_agree (hq : q.IsReadable) (hr : r.IsReadable)
    (hs : q.build m = .ok s) (ht : r.build m = .ok t) (h : s.Agree same t) : q.Agree same r := by
  obtain ⟨hqf, rfl⟩ := build_eq_ok.1 hs
  obtain ⟨hrf, rfl⟩ := build_eq_ok.1 ht
  have hlead := lead_eq_of_sql_eq h.1
  -- The beginning tells the kinds apart, but for selections and joins.
  cases q with
  | insert q =>
    cases r with
    | insert r => exact Insert.agree_of_render_agree hqf hrf hq hr h
    | _ => simp [lead] at hlead
  | select q =>
    cases r with
    | select r => exact Select.agree_of_render_agree hqf hrf hq hr h
    | join r => exact absurd h.1 (select_ne_join hqf hrf hq)
    | _ => simp [lead] at hlead
  | update q =>
    cases r with
    | update r => exact Update.agree_of_render_agree hqf hrf h
    | _ => simp [lead] at hlead
  | join q =>
    cases r with
    | select r => exact absurd h.1.symm (select_ne_join hrf hqf hr)
    | join r => exact Join.agree_of_render_agree hqf hrf h
    | _ => simp [lead] at hlead

/-- One row by its key, from a schema that declares nothing else. -/
def ofSingle : Query :=
  select { schema := Schema.single, conditions := [("a", .int 1)], limit := some 1 }

/-- The same from a schema that declares more. -/
def ofWider : Query :=
  let d : Declaration :=
    ⟨"T", [⟨"a", .scalar .int⟩, ⟨"b", .scalar .text⟩], [], [], .named "there"⟩
  select { schema := ⟨d, d.fault?_eq_none.1 (by decide)⟩, conditions := [("a", .int 1)],
           limit := some 1 }

theorem ofSingle_agree_ofWider :
    ∃ s, ofSingle.build .dollar = .ok s ∧ ofWider.build .dollar = .ok s ∧
      ofSingle.Agree Eq ofWider := by
  have hsingle : ofSingle.build .dollar =
      .ok ⟨"select * from t where a=$1 limit 1", [.int 1]⟩ := by decide
  have hwider : ofWider.build .dollar =
      .ok ⟨"select * from t where a=$1 limit 1", [.int 1]⟩ := by decide
  refine ⟨_, hsingle, hwider, ?_⟩
  exact agree_of_statement_agree ⟨rfl, by simp [returning, ofSingle]⟩
    ⟨rfl, by simp [returning, ofWider]⟩ hsingle hwider ⟨rfl, List.forall₂_refl _⟩

end Query
end RowSql
