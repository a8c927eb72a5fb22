import RowSql.Proofs.Catalog.Blocks
import RowSql.Proofs.Definition.Indexes

/-!
# Reading a definition back

What a definition was made from can be read off its statements, except for what was written
out in place of them. Labels may hold commas, parentheses and double quotes, so that a label
ends at its closing quote and nowhere before. The columns of a table and its key stand in one
list: a column has no comma and no parenthesis in it, and the parenthesis is what tells the key
from a column, whatever the columns are called. Main statement: two schemas without types
written out, and with described indexes only that have neither method nor predicate, have the
same definition exactly when they agree on table, columns, key, and on fields and uniqueness
of the indexes.
-/
namespace RowSql

open Fragment (inQuotes parenthesized)

namespace Index

def isUnique : Index → Bool
  | written _ => false
  | on shape => shape.unique

/-- The columns of an index in order, and whether it is unique. -/
def coverage (index : Index) : List String × Bool := (index.fields, index.isUnique)

/-- A described index with neither method nor predicate, where an empty one counts as none. -/
def IsBare : Index → Prop
  | written _ => False
  | on shape => shape.method.getD "" = "" ∧ shape.predicate.getD "" = ""

instance : DecidablePred IsBare
  | written _ => inferInstanceAs (Decidable False)
  | on _ => inferInstanceAs (Decidable (_ ∧ _))

end Index

/-- Nothing that a definition takes over verbatim. -/
structure Schema.IsReadable (s : Schema) : Prop where
  types_known : ∀ c ∈ s.columns, c.isWritten = false
  indexes_bare : ∀ index ∈ s.indexes, index.IsBare

/-- What one list of entries determines, another with equal entries determines as well. -/
theorem map_eq_map_of_entries {α β γ δ : Type} {f : α → γ} {g : β → γ} {f' : α → δ} {g' : β → δ}
    {l : List α} {m : List β} (hentry : ∀ a ∈ l, ∀ b ∈ m, f a = g b → f' a = g' b)
    (h : l.map f = m.map g) : l.map f' = m.map g' := by
  induction l generalizing m with
  | nil => simp_all
  | cons a l ih =>
    cases m with
    | nil => simp at h
    | cons b m =>
      obtain ⟨hhead, htail⟩ := List.cons.inj h
      rw [List.map_cons, List.map_cons, hentry a (by simp) b (by simp) hhead,
        ih (fun c hc d hd => hentry c (by simp [hc]) d (by simp [hd])) htail]

namespace Schema

/-! ## Types -/

theorem eq_of_labelLiteral_append_eq {a b x y : String} (ha : Over (· ≠ '\x27') a)
    (hb : Over (· ≠ '\x27') b) (h : labelLiteral a ++ x = labelLiteral b ++ y) :
    a = b ∧ x = y := by
  simp only [labelLiteral, String.append_assoc, String.append_right_inj] at h
  exact Span.eq_of_append_mark_eq (by decide) ha hb h

theorem over_label {label : String} (h : Label.IsQuotable label) : Over (· ≠ '\x27') label := by
  intro c hc
  have hall := List.all_eq_true.1 h.2 c hc
  rw [Bool.and_eq_true] at hall
  simpa using hall.1

/-- Labels can be read off their list whatever they hold, since none has a single quote. -/
theorem eq_of_literals_eq {labels labels' : List String}
    (h : Declaration.LabelsWellFormed labels) (h' : Declaration.LabelsWellFormed labels')
    (heq : parenthesized (labels.map labelLiteral) = parenthesized (labels'.map labelLiteral)) :
    labels = labels' := by
  simp only [parenthesized, String.append_left_inj, String.append_right_inj] at heq
  have hread : ∀ a ∈ labels.map labelLiteral, ∀ b ∈ labels'.map labelLiteral, ∀ x y,
      Continues "," x → Continues "," y → a ++ x = b ++ y → a = b ∧ x = y := by
    intro a ha b hb x y _ _ hab
    obtain ⟨label, hlabel, rfl⟩ := List.mem_map.1 ha
    obtain ⟨label', hlabel', rfl⟩ := List.mem_map.1 hb
    obtain ⟨rfl, rfl⟩ := eq_of_labelLiteral_append_eq (over_label (h.quotable label hlabel))
      (over_label (h'.quotable label' hlabel')) hab
    exact ⟨rfl, rfl⟩
  have hliterals := Span.eq_of_intercalate_eq (by decide)
    (by simp [h.nonempty, h'.nonempty]) hread heq
  refine (List.map_inj_right ?_).1 hliterals
  intro a b hab
  simpa [labelLiteral] using hab

variable (s : Schema)

theorem labels_of_mem_enums {e : Column × List String} (h : e ∈ s.enums) :
    Declaration.LabelsWellFormed e.2 := by
  obtain ⟨c, hc, he⟩ := List.mem_filterMap.1 h
  obtain ⟨labels, hlabels, rfl⟩ := Option.map_eq_some_iff.1 he
  exact s.wellFormed.labels_wellFormed c hc labels hlabels

theorem map_snd_enums : s.enums.map Prod.snd = s.columns.filterMap Column.labels? := by
  rw [enums, List.map_filterMap]
  congr 1
  funext c
  cases c.labels? <;> rfl

variable {s} {t : Schema}

/-- The statement of a type determines its labels. -/
theorem labels_of_typeStatement_eq {e e' : Column × List String} (he : e ∈ s.enums)
    (he' : e' ∈ t.enums) (h : s.typeStatement e = t.typeStatement e') : e.2 = e'.2 := by
  have hnames : s.enumName e.1 = t.enumName e'.1 := by
    have hcreated := congrArg createdName? h
    rw [s.createdName?_typeStatement he, t.createdName?_typeStatement he'] at hcreated
    exact Option.some.inj hcreated
  rw [typeStatement, typeStatement, hnames, String.append_right_inj] at h
  exact eq_of_literals_eq (s.labels_of_mem_enums he) (t.labels_of_mem_enums he') h

theorem labels_of_types_eq (h : s.enums.map s.typeStatement = t.enums.map t.typeStatement) :
    s.columns.filterMap Column.labels? = t.columns.filterMap Column.labels? := by
  rw [← map_snd_enums, ← map_snd_enums]
  exact map_eq_map_of_entries (fun e he e' he' => labels_of_typeStatement_eq he he') h

/-! ## The table -/

/-- Characters that neither end an entry of a table nor open the fields of a key. -/
def IsEntryChar (x : Char) : Prop := x ≠ '(' ∧ x ≠ ','

instance : DecidablePred IsEntryChar := fun _ => inferInstanceAs (Decidable (_ ∧ _))

theorem isEntryChar_of_isFollower {x : Char} (h : Name.isFollower x = true) : IsEntryChar x := by
  constructor <;> rintro rfl <;> exact absurd h (by decide)

theorem over_sqlName (of : Scalar) : Over IsEntryChar of.sqlName := by
  cases of <;> decide

theorem over_typeText {c : Column} (hc : c ∈ s.columns) (hwritten : c.isWritten = false) :
    Over IsEntryChar (s.typeText c) := by
  unfold Column.isWritten at hwritten
  unfold typeText
  cases htype : c.type with
  | scalar of => exact over_sqlName of
  | array of => exact Over.append_iff.2 ⟨over_sqlName of, by decide⟩
  | written sql => simp [htype] at hwritten
  | enum labels =>
    have hname := (s.wordChars_enumName hc).mono fun _ => isEntryChar_of_isFollower
    exact Over.append_iff.2 ⟨Over.append_iff.2 ⟨by decide, hname⟩, by decide⟩

theorem over_columnText {c : Column} (hc : c ∈ s.columns) (hwritten : c.isWritten = false) :
    Over IsEntryChar (s.columnText c) := by
  have hname := (s.wellFormed.columns_plain c hc).over.mono fun _ => isEntryChar_of_isFollower
  exact Over.append_iff.2 ⟨Over.append_iff.2 ⟨hname, by decide⟩, over_typeText hc hwritten⟩

/-- An entry of a table: a column, or a key with its fields behind some words. -/
inductive IsEntry : String → Prop
  | column {text : String} (h : Over IsEntryChar text) : IsEntry text
  | key {words : String} {fields : List String} (h : Over IsEntryChar words)
      (hfields : ∀ f ∈ fields, Name.IsPlain f) : IsEntry (words ++ parenthesized fields)

theorem isEntry_of_mem (hs : s.IsReadable) {entry : String}
    (h : entry ∈ s.columns.map s.columnText ++ s.keyClause) : IsEntry entry := by
  rcases List.mem_append.1 h with h | h
  · obtain ⟨c, hc, rfl⟩ := List.mem_map.1 h
    exact .column (over_columnText hc (hs.types_known c hc))
  · unfold keyClause at h
    split at h
    · simp at h
    · rw [List.mem_singleton.1 h]
      exact .key (by decide) fun k hk => s.plain_of_mem_key hk

theorem stopsAt_parenthesized (fields : List String) (x : String) :
    StopsAt IsEntryChar (parenthesized fields ++ x) := by
  simp [StopsAt, parenthesized, IsEntryChar]

/-- What continues the list does not open a parenthesis, so no column is taken for a key. -/
theorem column_ne_key {text words x y : String} {fields : List String}
    (htext : Over IsEntryChar text) (hwords : Over IsEntryChar words) (hx : Continues ", " x) :
    text ++ x ≠ words ++ (parenthesized fields ++ y) := by
  intro h
  obtain ⟨-, rfl⟩ := Span.eq_of_append_eq htext hwords (hx.stopsAt (by decide))
    (stopsAt_parenthesized fields y) h
  rcases hx with h | ⟨rest, h⟩ <;> simpa [parenthesized] using congrArg (·.toList.head?) h

/-- An entry can be read off in front of the rest of the list. -/
theorem IsEntry.eq_of_append_eq {a b x y : String} (ha : IsEntry a) (hb : IsEntry b)
    (hx : Continues ", " x) (hy : Continues ", " y) (h : a ++ x = b ++ y) : a = b ∧ x = y := by
  cases ha with
  | column ha =>
    cases hb with
    | column hb => exact Span.eq_of_append_eq_of_continues (by decide) ha hb hx hy h
    | key hwords hfields =>
      rw [String.append_assoc] at h
      exact absurd h (column_ne_key ha hwords hx)
  | key hwords hfields =>
    rw [String.append_assoc] at h
    cases hb with
    | column hb => exact absurd h.symm (column_ne_key hb hwords hy)
    | key hwords' hfields' =>
      rw [String.append_assoc] at h
      obtain ⟨rfl, hkeys⟩ := Span.eq_of_append_eq hwords hwords' (stopsAt_parenthesized _ x)
        (stopsAt_parenthesized _ y) h
      obtain ⟨rfl, rfl⟩ := Fragment.eq_of_parenthesized_append_eq hfields hfields' hkeys
      exact ⟨rfl, rfl⟩

theorem ne_empty_of_mem {entry : String}
    (h : entry ∈ s.columns.map s.columnText ++ s.keyClause) : entry ≠ "" := by
  rcases List.mem_append.1 h with h | h
  · obtain ⟨c, -, rfl⟩ := List.mem_map.1 h
    simp [columnText]
  · unfold keyClause at h
    split at h
    · simp at h
    · rw [List.mem_singleton.1 h]
      simp

theorem entries_eq_nil_iff : ", ".intercalate (s.columns.map s.columnText ++ s.keyClause) = "" ↔
    s.columns.map s.columnText ++ s.keyClause = [] :=
  Span.intercalate_eq_empty_iff fun _ => ne_empty_of_mem

theorem key_of_keyClause_eq (h : s.keyClause = t.keyClause) : s.key = t.key := by
  unfold keyClause at h
  split at h <;> split at h
  · rename_i hs ht
    rw [hs, ht]
  · simp at h
  · simp at h
  · simp only [List.cons.injEq, String.append_right_inj, and_true] at h
    exact Fragment.eq_of_parenthesized_eq (fun _ => s.plain_of_mem_key)
      (fun _ => t.plain_of_mem_key) h

/-- The key is told from the columns by its parenthesis. -/
theorem not_over_keyClause : ∀ entry ∈ s.keyClause.head?, ¬ Over IsEntryChar entry := by
  unfold keyClause
  split
  · simp
  · intro entry hentry hover
    rw [List.head?_cons, Option.mem_some] at hentry
    subst hentry
    exact (hover '(' (by simp [parenthesized])).1 rfl

/-- The statement of a table determines the table, its columns as they are written, and its
key. -/
theorem of_tableStatement_eq (hs : s.IsReadable) (ht : t.IsReadable)
    (h : s.tableStatement = t.tableStatement) :
    s.table = t.table ∧ s.columns.map s.columnText = t.columns.map t.columnText ∧
      s.key = t.key := by
  have htable : s.table = t.table := by
    have hcreated := congrArg createdName? h
    rw [s.createdName?_tableStatement, t.createdName?_tableStatement] at hcreated
    exact Option.some.inj hcreated
  unfold tableStatement at h
  rw [htable, String.append_left_inj, String.append_right_inj] at h
  have hempty : s.columns.map s.columnText ++ s.keyClause = [] ↔
      t.columns.map t.columnText ++ t.keyClause = [] := by
    rw [← entries_eq_nil_iff, h, entries_eq_nil_iff]
  have hentries := Span.eq_of_intercalate_eq (by decide) hempty
    (fun a ha b hb _ _ => (isEntry_of_mem hs ha).eq_of_append_eq (isEntry_of_mem ht hb)) h
  have hover : ∀ u : Schema, u.IsReadable →
      ∀ entry ∈ u.columns.map u.columnText, Over IsEntryChar entry := by
    intro u hu entry hentry
    obtain ⟨c, hc, rfl⟩ := List.mem_map.1 hentry
    exact over_columnText hc (hu.types_known c hc)
  obtain ⟨hcolumns, hkeys⟩ := Span.eq_of_append_eq_list (hover s hs) (hover t ht)
    not_over_keyClause not_over_keyClause hentries
  exact ⟨htable, hcolumns, key_of_keyClause_eq hkeys⟩

/-! ## The columns -/

theorem sqlName_injective {of of' : Scalar} (h : of.sqlName = of'.sqlName) : of = of' := by
  cases of <;> cases of' <;> first | rfl | exact absurd h (by decide)

theorem sqlName_ne_array (of of' : Scalar) : of.sqlName ≠ of'.sqlName ++ "[]" := by
  cases of <;> cases of' <;> decide

/-- Apart from its labels, a type can be read off as it is written. -/
theorem type_of_typeText_eq {c c' : Column} (hwritten : c.isWritten = false)
    (hwritten' : c'.isWritten = false) (hlabels : c.labels? = c'.labels?)
    (h : s.typeText c = t.typeText c') : c.type = c'.type := by
  unfold Column.isWritten at hwritten hwritten'
  unfold Column.labels? at hlabels
  unfold typeText at h
  cases htype : c.type with
  | scalar of =>
    cases htype' : c'.type with
    | scalar of' =>
      simp only [htype, htype'] at h
      rw [sqlName_injective h]
    | array of' =>
      simp only [htype, htype'] at h
      exact absurd h (sqlName_ne_array of of')
    | written sql => simp [htype'] at hwritten'
    | enum labels => simp [htype, htype'] at hlabels
  | array of =>
    cases htype' : c'.type with
    | scalar of' =>
      simp only [htype, htype'] at h
      exact absurd h.symm (sqlName_ne_array of' of)
    | array of' =>
      simp only [htype, htype', String.append_left_inj] at h
      rw [sqlName_injective h]
    | written sql => simp [htype'] at hwritten'
    | enum labels => simp [htype, htype'] at hlabels
  | written sql => simp [htype] at hwritten
  | enum labels =>
    cases htype' : c'.type with
    | enum labels' => simpa [htype, htype'] using hlabels
    | written sql => simp [htype'] at hwritten'
    | _ => simp [htype, htype'] at hlabels

/-- Columns that are written alike are both enumerations or neither is, and with the same
labels they are the same. -/
theorem column_of_columnText_eq (hs : s.IsReadable) (ht : t.IsReadable) {c c' : Column}
    (hc : c ∈ s.columns) (hc' : c' ∈ t.columns) (h : s.columnText c = t.columnText c') :
    (c.labels? = none ↔ c'.labels? = none) ∧ (c.labels? = c'.labels? → c = c') := by
  simp only [columnText, String.append_assoc] at h
  obtain ⟨hname, htype⟩ := Span.eq_of_append_mark_eq (by decide)
    (s.wellFormed.columns_plain c hc).over (t.wellFormed.columns_plain c' hc').over h
  constructor
  · have hquoted := congrArg quotedName? htype
    rw [s.quotedName?_typeText hc (hs.types_known c hc),
      t.quotedName?_typeText hc' (ht.types_known c' hc')] at hquoted
    rw [← Option.map_eq_none_iff, hquoted, Option.map_eq_none_iff]
  · intro hlabels
    have htypes := type_of_typeText_eq (hs.types_known c hc) (ht.types_known c' hc') hlabels htype
    cases c
    cases c'
    rw [Column.mk.injEq]
    exact ⟨hname, htypes⟩

/-- The columns follow from how they are written together with the labels of the types. -/
theorem columns_of_texts_eq (hs : s.IsReadable) (ht : t.IsReadable) {l m : List Column}
    (hl : ∀ c ∈ l, c ∈ s.columns) (hm : ∀ c ∈ m, c ∈ t.columns)
    (htexts : l.map s.columnText = m.map t.columnText)
    (hlabels : l.filterMap Column.labels? = m.filterMap Column.labels?) : l = m := by
  induction l generalizing m with
  | nil => simp_all
  | cons c l ih =>
    cases m with
    | nil => simp at htexts
    | cons c' m =>
      obtain ⟨hhead, htail⟩ := List.cons.inj htexts
      obtain ⟨hc, hl⟩ := List.forall_mem_cons.1 hl
      obtain ⟨hc', hm⟩ := List.forall_mem_cons.1 hm
      obtain ⟨hnone, hsame⟩ := column_of_columnText_eq hs ht hc hc' hhead
      cases hlabel : c.labels? with
      | none =>
        have hlabel' := hnone.1 hlabel
        rw [List.filterMap_cons_none hlabel, List.filterMap_cons_none hlabel'] at hlabels
        rw [hsame (hlabel.trans hlabel'.symm), ih hl hm htail hlabels]
      | some labels =>
        cases hlabel' : c'.labels? with
        | none => simp [hnone.2 hlabel'] at hlabel
        | some labels' =>
          rw [List.filterMap_cons_some hlabel, List.filterMap_cons_some hlabel'] at hlabels
          obtain ⟨rfl, hlater⟩ := List.cons.inj hlabels
          rw [hsame (hlabel.trans hlabel'.symm), ih hl hm htail hlater]

end Schema

/-! ## The indexes -/

namespace Index

/-- A described index without method and predicate, as it is written. -/
def bareStatement (table : String) (unique : Bool) (fields : List String) : String :=
  " ".intercalate ("CREATE" :: ((if unique then ["UNIQUE"] else []) ++
    ["INDEX", "ON " ++ inQuotes table, parenthesized fields]))

theorem statement_of_isBare {index : Index} (h : index.IsBare) (table : String) :
    index.statement table = bareStatement table index.isUnique index.fields := by
  cases index with
  | written sql => exact h.elim
  | on shape =>
    obtain ⟨hmethod, hpredicate⟩ := h
    have hon : "ON " ++ inQuotes table ≠ "" := by simp
    have hfields := Fragment.parenthesized_ne_empty shape.fields
    rw [statement, IndexShape.statement, IndexShape.clauses, hmethod, hpredicate, bareStatement,
      isUnique, fields]
    congr 1
    cases shape.unique <;> simp [hon, hfields]

theorem coverage_eq_of_statement_eq {i j : Index} (hi : i.IsBare) (hj : j.IsBare)
    (hfields : ∀ f ∈ i.fields, Name.IsPlain f) (hfields' : ∀ f ∈ j.fields, Name.IsPlain f)
    {table : String} (h : i.statement table = j.statement table) : i.coverage = j.coverage := by
  cases i with
  | written sql => exact hi.elim
  | on shape =>
    cases j with
    | written sql => exact hj.elim
    | on other =>
      have halike := IndexShape.alike_of_statement_eq ⟨hfields, Or.inl hi.1⟩
        ⟨hfields', Or.inl hj.1⟩ h
      exact Prod.ext halike.fields halike.unique

end Index

namespace Schema

variable {s t : Schema}

theorem indexes_of_statements_eq (hs : s.IsReadable) (ht : t.IsReadable)
    (htable : s.table = t.table)
    (h : s.indexes.map (Index.statement s.table) = t.indexes.map (Index.statement t.table)) :
    s.indexes.map Index.coverage = t.indexes.map Index.coverage := by
  refine map_eq_map_of_entries ?_ h
  intro i hi j hj heq
  rw [htable] at heq
  exact Index.coverage_eq_of_statement_eq (hs.indexes_bare i hi) (ht.indexes_bare j hj)
    (s.plain_of_subset (s.wellFormed.indexes_declared i hi))
    (t.plain_of_subset (t.wellFormed.indexes_declared j hj)) heq

/-! ## The definition -/

/-- The statement creates a type, as no other statement of a definition does. -/
def IsTypeStatement (statement : String) : Prop := ∃ rest, statement = "CREATE TYPE " ++ rest

theorem isTypeStatement_of_mem {statement : String} (h : statement ∈ s.enums.map s.typeStatement) :
    IsTypeStatement statement := by
  obtain ⟨e, -, rfl⟩ := List.mem_map.1 h
  exact ⟨_, by rw [typeStatement, String.append_assoc, String.append_assoc]⟩

theorem not_isTypeStatement_table (s : Schema) : ¬ IsTypeStatement s.tableStatement := by
  rintro ⟨rest, h⟩
  have htable : "CREATE TABLE " = "CREATE T" ++ "ABLE " := by decide
  have htype : "CREATE TYPE " = "CREATE T" ++ "YPE " := by decide
  unfold tableStatement at h
  simp only [htable, htype, String.append_assoc, String.append_right_inj] at h
  simpa using congrArg (·.toList.head?) h

/-- The table is the first statement that creates no type, which parts the definition. -/
theorem parts_of_block_eq (h : s.block = t.block) :
    s.enums.map s.typeStatement = t.enums.map t.typeStatement ∧
      s.tableStatement = t.tableStatement ∧
      s.indexes.map (Index.statement s.table) = t.indexes.map (Index.statement t.table) := by
  have hstop : ∀ (u : Schema), ∀ statement ∈
      (u.tableStatement :: u.indexes.map (Index.statement u.table)).head?,
      ¬ IsTypeStatement statement := by
    intro u statement hstatement
    rw [List.head?_cons, Option.mem_some] at hstatement
    exact hstatement ▸ u.not_isTypeStatement_table
  obtain ⟨htypes, hrest⟩ := Span.eq_of_append_eq_list (fun _ => isTypeStatement_of_mem)
    (fun _ => isTypeStatement_of_mem) (hstop s) (hstop t) h
  exact ⟨htypes, List.cons.inj hrest⟩

theorem statements_of_bare (hs : s.IsReadable) : s.indexes.map (Index.statement s.table) =
    (s.indexes.map Index.coverage).map fun i => Index.bareStatement s.table i.2 i.1 := by
  rw [List.map_map]
  exact List.map_congr_left fun i hi => Index.statement_of_isBare (hs.indexes_bare i hi) s.table

/-- Neither the name of the schema nor its origin has a part in the definition. -/
theorem block_eq_of_parts_eq (hs : s.IsReadable) (ht : t.IsReadable) (htable : s.table = t.table)
    (hcolumns : s.columns = t.columns) (hkey : s.key = t.key)
    (hindexes : s.indexes.map Index.coverage = t.indexes.map Index.coverage) :
    s.block = t.block := by
  have hname : s.enumName = t.enumName := by
    funext c
    rw [enumName, enumName, htable]
  have htype : s.typeStatement = t.typeStatement := by
    funext e
    rw [typeStatement, typeStatement, hname]
  have htext : s.columnText = t.columnText := by
    funext c
    rw [columnText, columnText, typeText, typeText, hname]
  have hbody : s.tableStatement = t.tableStatement := by
    unfold tableStatement keyClause
    rw [htable, hcolumns, hkey, htext]
  rw [block, block, statements_of_bare hs, statements_of_bare ht, hindexes, htable, hbody, enums,
    enums, hcolumns, htype]

/-- Two schemas that have nothing written out are defined by the same statements exactly when
they agree on the table, the columns in order with their types and labels, the key, and the
fields and uniqueness of each index. -/
theorem defined_alike_iff (hs : s.IsReadable) (ht : t.IsReadable) :
    (∃ statements, s.definition = .ok statements ∧ t.definition = .ok statements) ↔
      s.table = t.table ∧ s.columns = t.columns ∧ s.key = t.key ∧
        s.indexes.map Index.coverage = t.indexes.map Index.coverage := by
  rw [s.definition_eq_ok, t.definition_eq_ok]
  constructor
  · rintro ⟨statements, hblock, hblock'⟩
    obtain ⟨htypes, hstatement, hindexes⟩ :=
      parts_of_block_eq (Except.ok.inj (hblock.trans hblock'.symm))
    obtain ⟨htable, htexts, hkey⟩ := of_tableStatement_eq hs ht hstatement
    have hcolumns := columns_of_texts_eq hs ht (fun _ h => h) (fun _ h => h) htexts
      (labels_of_types_eq htypes)
    exact ⟨htable, hcolumns, hkey, indexes_of_statements_eq hs ht htable hindexes⟩
  · rintro ⟨htable, hcolumns, hkey, hindexes⟩
    exact ⟨s.block, rfl, by rw [block_eq_of_parts_eq hs ht htable hcolumns hkey hindexes]⟩

/-- Columns that are called like the words of a definition. -/
def disguise (name : String) (labels : List String) (method : Option String) : Declaration :=
  ⟨name, [⟨"PRIMARY", .enum labels⟩, ⟨"KEY", .array .int⟩], ["KEY", "PRIMARY"],
    [.on ⟨["PRIMARY"], method, none, true⟩], .named "here"⟩

def disguised : Schema :=
  ⟨disguise "FooBar" ["a,b", "\"c) (", " "] none, (Declaration.fault?_eq_none _).1 (by decide)⟩

/-- The same table under another name, with an empty method. -/
def respelled : Schema :=
  ⟨disguise "Foo_Bar" ["a,b", "\"c) (", " "] (some ""),
    (Declaration.fault?_eq_none _).1 (by decide)⟩

/-- One of the labels is parted at its comma. -/
def parted : Schema :=
  ⟨disguise "FooBar" ["a", "b", "\"c) (", " "] none, (Declaration.fault?_eq_none _).1 (by decide)⟩

theorem disguised_defined_alike :
    disguised.IsReadable ∧ respelled.IsReadable ∧ parted.IsReadable ∧
      disguised.name ≠ respelled.name ∧
      (∃ statements, disguised.definition = .ok statements ∧
        respelled.definition = .ok statements) ∧
      ¬ ∃ statements, disguised.definition = .ok statements ∧
        parted.definition = .ok statements := by
  have hdisguised : disguised.IsReadable := ⟨by decide, by decide⟩
  have hrespelled : respelled.IsReadable := ⟨by decide, by decide⟩
  have hparted : parted.IsReadable := ⟨by decide, by decide⟩
  refine ⟨hdisguised, hrespelled, hparted, by decide, ?_, ?_⟩
  · exact (defined_alike_iff hdisguised hrespelled).2 ⟨rfl, rfl, rfl, rfl⟩
  · rw [defined_alike_iff hdisguised hparted]
    rintro ⟨-, hcolumns, -⟩
    exact absurd hcolumns (by decide)

example : disguised.definition = .ok
    ["CREATE TYPE \"foo_bar_PRIMARY\" AS ENUM ('a,b','\"c) (',' ')",
      "CREATE TABLE \"foo_bar\" (PRIMARY \"foo_bar_PRIMARY\", KEY int[], " ++
        "PRIMARY KEY (KEY,PRIMARY))",
      "CREATE UNIQUE INDEX ON \"foo_bar\" (PRIMARY)"] := rfl

end Schema
end RowSql
