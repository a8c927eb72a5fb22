import RowSql.Proofs.Query.Tokens

/-!
# Names in a query

Which names reach the text of a query. Main statement: a query that compiles is made of fixed
words, numbers, marks, the expressions that are documented to be taken as they stand, and
names; every name is a plain identifier, or a star where a star can stand, unless it is one
that an insertion returns. Those are not looked at, and all names of a compiled query are
sound exactly when the returned ones are.
-/
namespace RowSql

namespace Part

/-- Where all columns can be asked for, a star is as good as a name. -/
def Admits : Part → String → Prop
  | projection, s => s = "*" ∨ Name.IsPlain s
  | returning, s => s = "*" ∨ Name.IsPlain s
  | _, s => Name.IsPlain s

instance : ∀ part s, Decidable (Admits part s)
  | projection, _ => inferInstanceAs (Decidable (_ ∨ _))
  | returning, _ => inferInstanceAs (Decidable (_ ∨ _))
  | table, s => inferInstanceAs (Decidable (Name.IsPlain s))
  | column, s => inferInstanceAs (Decidable (Name.IsPlain s))
  | key, s => inferInstanceAs (Decidable (Name.IsPlain s))
  | assignment, s => inferInstanceAs (Decidable (Name.IsPlain s))
  | condition, s => inferInstanceAs (Decidable (Name.IsPlain s))

theorem star_or_plain {part : Part} {s : String} (h : part.Admits s) :
    s = "*" ∨ Name.IsPlain s := by
  cases part with
  | projection | returning => exact h
  | _ => exact Or.inr h

end Part

namespace Token

/-- A token of a query with the given expressions and returned names. -/
def Admissible (expressions returning : List String) : Token → Prop
  | fixed text => text ∈ vocabulary
  | name .returning text => text ∈ returning
  | name part text => part.Admits text
  | verbatim text => text ∈ expressions
  | number _ => True
  | bound _ => True

variable {P : Token → Prop}

theorem forall_mem_listed {part : Part} {names : List String} (hcomma : P (fixed ","))
    (h : ∀ s ∈ names, P (name part s)) : ∀ t ∈ listed part names, P t := by
  intro t ht
  rcases Span.mem_intersperse ht with rfl | ht
  · exact hcomma
  · obtain ⟨s, hs, rfl⟩ := List.mem_map.1 ht
    exact h s hs

theorem forall_mem_assignments {part : Part} {separator : String} {b : Bindings}
    (hsep : P (fixed separator)) (heq : P (fixed "=")) (hbound : ∀ v, P (bound v))
    (h : ∀ k ∈ b.keys, P (name part k)) : ∀ t ∈ assignments part separator b, P t := by
  induction b with
  | nil => simp [assignments]
  | cons p b ih =>
    have hk := h p.1 (by simp [Bindings.keys])
    cases b with
    | nil => simp [assignments, hk, heq, hbound]
    | cons q b =>
      have hrest := ih fun k hk => h k (List.mem_cons_of_mem _ hk)
      simp only [assignments, List.forall_mem_cons]
      exact ⟨hk, heq, hbound _, hsep, hrest⟩

theorem forall_mem_conditions {b : Bindings} (hwhere : P (fixed " where "))
    (hand : P (fixed " and ")) (heq : P (fixed "=")) (hbound : ∀ v, P (bound v))
    (h : ∀ k ∈ b.keys, P (name .condition k)) : ∀ t ∈ conditions b, P t := by
  cases b with
  | nil => simp [conditions]
  | cons p b =>
    simp only [conditions, List.forall_mem_cons]
    exact ⟨hwhere, forall_mem_assignments hand heq hbound h⟩

variable {expressions returning : List String}

theorem admissible_fixed {text : String} (h : text ∈ vocabulary) :
    Admissible expressions returning (fixed text) := h

/-- Names are fit for their part, returned ones apart. -/
theorem Admissible.admits {part : Part} {text : String}
    (h : Admissible expressions returning (name part text)) (hpart : part ≠ .returning) :
    part.Admits text := by
  cases part with
  | returning => exact absurd rfl hpart
  | _ => exact h

theorem admissible_conditions {b : Bindings} (h : ∀ k ∈ b.keys, Name.IsPlain k) :
    ∀ t ∈ conditions b, Admissible expressions returning t :=
  forall_mem_conditions (admissible_fixed (by decide)) (admissible_fixed (by decide))
    (admissible_fixed (by decide)) (fun _ => trivial) h

end Token

namespace Query

open Token

/-- The names that a query is given; those of a row are declared with its schema. -/
def given : Query → List (Part × String)
  | insert q => q.written.map (fun w => (.column, w.1)) ++ q.returning.map (.returning, ·)
  | select q => q.fields.map (.projection, ·) ++ q.conditions.keys.map (.condition, ·)
  | update q => q.assignments.keys.map (.assignment, ·) ++ q.conditions.keys.map (.condition, ·)
  | join q => q.conditions.keys.map (.condition, ·)

variable {q : Query}

theorem admits_of_mem_given (hq : q.fault? = none) {p : Part × String} (hp : p ∈ q.given)
    (hpart : p.1 ≠ .returning) : p.1.Admits p.2 := by
  cases q with
  | insert q =>
    rcases List.mem_append.1 hp with hp | hp
    · obtain ⟨w, hw, rfl⟩ := List.mem_map.1 hp
      exact Insert.fault?_eq_none_iff.1 hq w hw
    · obtain ⟨c, -, rfl⟩ := List.mem_map.1 hp
      exact absurd rfl hpart
  | select q =>
    obtain ⟨-, hfields, hwhere⟩ := Select.fault?_eq_none_iff.1 hq
    rcases List.mem_append.1 hp with hp | hp
    · obtain ⟨f, hf, rfl⟩ := List.mem_map.1 hp
      exact (hfields f hf).imp_right q.schema.plain_of_mem_columnNames
    · obtain ⟨k, hk, rfl⟩ := List.mem_map.1 hp
      exact q.schema.plain_of_subset hwhere k hk
  | update q =>
    obtain ⟨-, hset, hwhere⟩ := Update.fault?_eq_none_iff.1 hq
    rcases List.mem_append.1 hp with hp | hp
    · obtain ⟨k, hk, rfl⟩ := List.mem_map.1 hp
      exact q.schema.plain_of_subset hset k hk
    · obtain ⟨k, hk, rfl⟩ := List.mem_map.1 hp
      exact q.schema.plain_of_subset hwhere k hk
  | join q =>
    obtain ⟨k, hk, rfl⟩ := List.mem_map.1 hp
    exact Join.plain_of_mem_conditions hq hk

theorem admissible_insert {q : Insert} (hq : q.fault? = none) :
    ∀ t ∈ q.tokens, Admissible (expressions (.insert q)) q.returning t := by
  have hvalues : ∀ t ∈ Insert.valuesTokens q.entries,
      Admissible (expressions (.insert q)) q.returning t := by
    have hslots : ∀ t ∈ (q.entries.map fun e => Insert.slotToken e.2).intersperse (.fixed ","),
        Admissible (expressions (.insert q)) q.returning t := by
      intro t ht
      rcases Span.mem_intersperse ht with rfl | ht
      · exact admissible_fixed (by decide)
      · obtain ⟨e, he, rfl⟩ := List.mem_map.1 ht
        rcases q.mem_entries he with ⟨p, -, rfl⟩ | ⟨w, hw, rfl⟩
        · trivial
        · exact List.mem_map_of_mem hw
    have hcolumns : ∀ t ∈ listed .column (q.entries.map Prod.fst),
        Admissible (expressions (.insert q)) q.returning t :=
      forall_mem_listed (admissible_fixed (by decide))
        fun c hc => q.plain_of_mem_columns hq hc
    unfold Insert.valuesTokens
    split
    · simpa using admissible_fixed (by decide)
    · simp only [List.forall_mem_cons, List.forall_mem_append]
      exact ⟨admissible_fixed (by decide), hcolumns, admissible_fixed (by decide), hslots,
        admissible_fixed (by decide), by simp⟩
  have hreturning : ∀ t ∈ Insert.returningTokens q.returning,
      Admissible (expressions (.insert q)) q.returning t := by
    unfold Insert.returningTokens
    split
    · simp
    · rw [List.forall_mem_cons]
      exact ⟨admissible_fixed (by decide),
        forall_mem_listed (admissible_fixed (by decide)) fun c hc => hc⟩
  simp only [Insert.tokens, List.forall_mem_cons, List.forall_mem_append]
  exact ⟨admissible_fixed (by decide), q.row.schema.table_plain, hvalues, hreturning⟩

theorem admissible_select {q : Select} (hq : q.fault? = none) :
    ∀ t ∈ q.tokens, Admissible (expressions (.select q)) [] t := by
  obtain ⟨-, hfields, hwhere⟩ := Select.fault?_eq_none_iff.1 hq
  have hprojection : ∀ t ∈ listed .projection q.fields,
      Admissible (expressions (.select q)) [] t :=
    forall_mem_listed (admissible_fixed (by decide))
      fun f hf => (hfields f hf).imp_right q.schema.plain_of_mem_columnNames
  have horder : ∀ t ∈ q.orderTokens, Admissible (expressions (.select q)) [] t := by
    unfold Select.orderTokens
    split
    · rename_i order ho
      have hmem : order ∈ expressions (.select q) := by simp [expressions, ho]
      simpa using ⟨admissible_fixed (by decide), hmem⟩
    · simp
  have hlimit : ∀ t ∈ q.limitTokens, Admissible (expressions (.select q)) [] t := by
    unfold Select.limitTokens
    split
    · simpa using ⟨admissible_fixed (by decide), trivial⟩
    · simp
  have hlock : ∀ t ∈ q.lockTokens, Admissible (expressions (.select q)) [] t := by
    unfold Select.lockTokens
    split
    · simpa using admissible_fixed (by decide)
    · simp
  simp only [Select.tokens, List.forall_mem_cons, List.forall_mem_append]
  exact ⟨admissible_fixed (by decide), hprojection, admissible_fixed (by decide),
    q.schema.table_plain, admissible_conditions (q.schema.plain_of_subset hwhere),
    ⟨horder, hlimit⟩, hlock⟩

theorem admissible_update {q : Update} (hq : q.fault? = none) :
    ∀ t ∈ q.tokens, Admissible [] [] t := by
  obtain ⟨-, hset, hwhere⟩ := Update.fault?_eq_none_iff.1 hq
  have hassignments : ∀ t ∈ assignments .assignment "," q.assignments, Admissible [] [] t :=
    forall_mem_assignments (admissible_fixed (by decide)) (admissible_fixed (by decide))
      (fun _ => trivial) (q.schema.plain_of_subset hset)
  simp only [Update.tokens, List.forall_mem_cons, List.forall_mem_append]
  exact ⟨admissible_fixed (by decide), q.schema.table_plain, admissible_fixed (by decide),
    hassignments, admissible_conditions (q.schema.plain_of_subset hwhere)⟩

theorem admissible_starTokens (schemas : List Schema) :
    ∀ t ∈ Join.starTokens schemas, Admissible [] [] t := by
  induction schemas with
  | nil => simp [Join.starTokens]
  | cons s rest ih =>
    cases rest with
    | nil =>
      simp only [Join.starTokens, List.forall_mem_cons]
      exact ⟨s.table_plain, admissible_fixed (by decide), by simp⟩
    | cons s' rest =>
      simp only [Join.starTokens, List.forall_mem_cons]
      exact ⟨s.table_plain, admissible_fixed (by decide), admissible_fixed (by decide), ih⟩

theorem admissible_joinTokens (first s : Schema) :
    ∀ t ∈ Join.joinTokens first.key s, Admissible [] [] t := by
  have hkey : ∀ t ∈ listed .key first.key, Admissible [] [] t :=
    forall_mem_listed (admissible_fixed (by decide)) fun k hk => first.plain_of_mem_key hk
  simp only [Join.joinTokens, List.forall_mem_cons, List.forall_mem_append]
  exact ⟨admissible_fixed (by decide), s.table_plain, admissible_fixed (by decide), hkey,
    admissible_fixed (by decide), by simp⟩

theorem admissible_join {q : Join} (hq : q.fault? = none) :
    ∀ t ∈ q.tokens, Admissible [] [] t := by
  have htables : ∀ t ∈ Join.tableTokens q.schemas, Admissible [] [] t := by
    unfold Join.tableTokens
    split
    · simp
    · rename_i first rest _
      rw [List.forall_mem_cons]
      refine ⟨first.table_plain, fun t ht => ?_⟩
      obtain ⟨s, -, hs⟩ := List.mem_flatMap.1 ht
      exact admissible_joinTokens first s t hs
  simp only [Join.tokens, List.forall_mem_cons, List.forall_mem_append]
  exact ⟨admissible_fixed (by decide), admissible_starTokens q.schemas,
    admissible_fixed (by decide), htables,
    admissible_conditions fun k hk => Join.plain_of_mem_conditions hq hk⟩

/-- All tokens of a query that compiles are admissible. -/
theorem admissible_tokens (hq : q.fault? = none) :
    ∀ t ∈ q.tokens, Admissible q.expressions q.returning t := by
  cases q with
  | insert q => exact admissible_insert hq
  | select q => exact admissible_select hq
  | update q => exact admissible_update hq
  | join q => exact admissible_join hq

/-- The names that are asked for are among the tokens. -/
theorem name_mem_tokens_of_mem_returning {c : String} (h : c ∈ q.returning) :
    name .returning c ∈ q.tokens := by
  cases q with
  | insert q =>
    have hlisted : name .returning c ∈ listed .returning q.returning :=
      Span.mem_intersperse_of_mem (List.mem_map_of_mem h)
    have hne : q.returning ≠ [] := List.ne_nil_of_mem h
    simp [tokens, Insert.tokens, Insert.returningTokens, hne, hlisted]
  | select q => simp [returning] at h
  | update q => simp [returning] at h
  | join q => simp [returning] at h

/-- A name that does not fit its part is refused, and nothing but fixed words, expressions and
names that fit gets into the text, the names that an insertion returns apart: all names fit
exactly when those do. -/
theorem refused_or_admissible (q : Query) :
    ((∃ p ∈ q.given, p.1 ≠ .returning ∧ ¬ p.1.Admits p.2) →
      ∃ fault, ∀ m, q.build m = .error fault) ∧
    ∀ m s, q.build m = .ok s →
      s = Template.render m (Token.template q.tokens) ∧
      (∀ text, .fixed text ∈ q.tokens → text ∈ Token.vocabulary) ∧
      (∀ text, .verbatim text ∈ q.tokens → text ∈ q.expressions) ∧
      (∀ part text, .name part text ∈ q.tokens → part ≠ .returning → part.Admits text) ∧
      ((∀ part text, .name part text ∈ q.tokens → part.Admits text) ↔
        ∀ c ∈ q.returning, Part.returning.Admits c) := by
  constructor
  · rintro ⟨p, hp, hpart, hbad⟩
    cases hq : q.fault? with
    | some fault => exact ⟨fault, fun m => build_eq_error.2 hq⟩
    | none => exact absurd (admits_of_mem_given hq hp hpart) hbad
  · intro m s hs
    obtain ⟨hq, hrender⟩ := build_eq_ok.1 hs
    have hadmissible := admissible_tokens hq
    have hchecked : ∀ part text, .name part text ∈ q.tokens → part ≠ .returning →
        part.Admits text := fun part text hmem hpart => (hadmissible _ hmem).admits hpart
    refine ⟨?_, fun text h => hadmissible _ h, fun text h => hadmissible _ h, hchecked, ?_, ?_⟩
    · rw [render_tokens, hrender]
    · exact fun h c hc => h _ _ (name_mem_tokens_of_mem_returning hc)
    · intro h part text hmem
      by_cases hpart : part = .returning
      · subst hpart
        exact h text (hadmissible _ hmem)
      · exact hchecked part text hmem hpart

end Query

/-- An insertion that is asked to return something other than a column. -/
def Insert.askingForMore : Insert :=
  ⟨⟨Schema.single, [some (.int 1)], rfl⟩, ["a; drop table t"], []⟩

theorem Insert.returns_what_is_no_name :
    (Query.insert Insert.askingForMore).build .percent =
        .ok ⟨"insert into t (a) values (%s) returning a; drop table t", [.int 1]⟩ ∧
      .name .returning "a; drop table t" ∈ (Query.insert Insert.askingForMore).tokens ∧
      ¬ Part.returning.Admits "a; drop table t" := by
  refine ⟨by decide, ?_, by decide⟩
  exact Query.name_mem_tokens_of_mem_returning (by simp [Query.returning, askingForMore])

end RowSql
