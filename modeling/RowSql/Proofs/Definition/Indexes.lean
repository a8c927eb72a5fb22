import RowSql.Proofs.Definition.Statements

/-!
# Statements of indexes

The statement of an index has up to four clauses behind its table, and each of them but the
fields may be absent. A clause that is there begins with a word of its own, the access method
ends at a blank, and the fields end at the closing parenthesis, so that all that stands behind
it is the predicate, whatever it looks like. Main statement: described indexes of one table have
the same statement exactly when they agree in all they say.
-/
namespace RowSql

open Fragment (inQuotes parenthesized)

theorem Name.IsPlain.ne_empty {s : String} (h : IsPlain s) : s ≠ "" := by
  rintro rfl
  exact Bool.false_ne_true h

/-! ## Lists between parentheses -/

namespace Fragment

variable {k k' : List String} {x y : String}

/-- Names between parentheses end at the closing one. -/
theorem eq_of_parenthesized_append_eq (hk : ∀ n ∈ k, Name.IsPlain n)
    (hk' : ∀ n ∈ k', Name.IsPlain n) (h : parenthesized k ++ x = parenthesized k' ++ y) :
    k = k' ∧ x = y := by
  have hover : ∀ l : List String, (∀ n ∈ l, Name.IsPlain n) →
      Over (· ≠ ')') (",".intercalate l) := by
    intro l hl
    exact Over.intercalate (by decide) fun n hn => (hl n hn).over_ne (by decide)
  simp only [parenthesized, String.append_assoc, String.append_right_inj] at h
  obtain ⟨hnames, hrest⟩ :=
    Span.eq_of_append_mark_eq (by decide) (hover k hk) (hover k' hk') h
  have hempty : k = [] ↔ k' = [] := by
    rw [← Span.intercalate_eq_empty_iff fun n hn => (hk n hn).ne_empty, hnames,
      Span.intercalate_eq_empty_iff fun n hn => (hk' n hn).ne_empty]
  refine ⟨Span.eq_of_intercalate_eq (by decide) hempty ?_ hnames, hrest⟩
  intro a ha b hb v w
  apply Span.eq_of_append_eq_of_continues (P := (· ≠ ',')) (by decide)
    ((hk a ha).over_ne (by decide)) ((hk' b hb).over_ne (by decide))

theorem eq_of_parenthesized_eq (hk : ∀ n ∈ k, Name.IsPlain n) (hk' : ∀ n ∈ k', Name.IsPlain n)
    (h : parenthesized k = parenthesized k') : k = k' :=
  (eq_of_parenthesized_append_eq (x := "") (y := "") hk hk' (by rw [h])).1

end Fragment

/-! ## Clauses -/

namespace IndexShape

/-- Names where names belong; the predicate may be any text. -/
structure IsNamed (shape : IndexShape) : Prop where
  fields_plain : ∀ f ∈ shape.fields, Name.IsPlain f
  method_plain : shape.method.getD "" = "" ∨ Name.IsPlain (shape.method.getD "")

/-- The same index, where an empty method or predicate counts as none. -/
structure Alike (shape other : IndexShape) : Prop where
  unique : shape.unique = other.unique
  method : shape.method.getD "" = other.method.getD ""
  fields : shape.fields = other.fields
  predicate : shape.predicate.getD "" = other.predicate.getD ""

/-- A word and what it introduces, or nothing. -/
def clause (word text : String) : String := if text = "" then "" else word ++ text

variable {shape other : IndexShape} {table : String} {k k' : List String}

theorem statement_eq (shape : IndexShape) (table : String) :
    shape.statement table =
      "CREATE" ++ ((if shape.unique then " UNIQUE" else "") ++ (" INDEX ON " ++ inQuotes table ++
        (clause " USING " (shape.method.getD "") ++ (" " ++ (parenthesized shape.fields ++
          clause " WHERE " (shape.predicate.getD "")))))) := by
  have hon : "ON " ++ inQuotes table ≠ "" := by simp
  have hfields := Fragment.parenthesized_ne_empty shape.fields
  rw [statement, clauses, clause, clause]
  apply String.toList_injective
  by_cases hmethod : shape.method.getD "" = "" <;>
    by_cases hpredicate : shape.predicate.getD "" = "" <;> cases shape.unique <;>
    simp [hon, hfields, hmethod, hpredicate]

/-- Behind the first word of a statement stands another `U` or `I`. -/
theorem unique_eq_of_append_eq {unique unique' : Bool} {x y : String}
    (h : (if unique then " UNIQUE" else "") ++ (" INDEX ON " ++ x) =
      (if unique' then " UNIQUE" else "") ++ (" INDEX ON " ++ y)) : unique = unique' := by
  have hword := congrArg (fun text => (text.toList.drop 1).head?) h
  cases unique <;> cases unique' <;> first | rfl | simp at hword

/-- The access method ends at the blank in front of the fields; without one, these follow the
table at once. -/
theorem method_eq_of_append_eq {m m' x y : String} (hm : m = "" ∨ Name.IsPlain m)
    (hm' : m' = "" ∨ Name.IsPlain m')
    (h : clause " USING " m ++ (" " ++ (parenthesized k ++ x)) =
      clause " USING " m' ++ (" " ++ (parenthesized k' ++ y))) :
    m = m' ∧ parenthesized k ++ x = parenthesized k' ++ y := by
  -- The character behind the blank is a parenthesis or the first letter of the clause.
  have hword := congrArg (fun text => (text.toList.drop 1).head?) h
  rcases hm with rfl | hm
  · rcases hm' with rfl | hm'
    · exact ⟨rfl, by simpa [clause] using h⟩
    · simp [clause, hm'.ne_empty, parenthesized] at hword
  · rcases hm' with rfl | hm'
    · simp [clause, hm.ne_empty, parenthesized] at hword
    · simp only [clause, if_neg hm.ne_empty, if_neg hm'.ne_empty, String.append_assoc,
        String.append_right_inj] at h
      exact Span.eq_of_append_mark_eq (by decide) hm.over hm'.over h

theorem clause_injective {word p p' : String} (h : clause word p = clause word p') : p = p' := by
  unfold clause at h
  split at h <;> split at h <;> simp_all

/-- The statement of an index determines all of its clauses. -/
theorem alike_of_statement_eq (hshape : shape.IsNamed) (hother : other.IsNamed)
    (h : shape.statement table = other.statement table) : shape.Alike other := by
  rw [statement_eq, statement_eq, String.append_right_inj] at h
  have hunique : shape.unique = other.unique := by
    simp only [String.append_assoc] at h
    exact unique_eq_of_append_eq h
  rw [hunique, String.append_right_inj, String.append_right_inj] at h
  obtain ⟨hmethod, hrest⟩ := method_eq_of_append_eq hshape.method_plain hother.method_plain h
  obtain ⟨hfields, hlast⟩ := Fragment.eq_of_parenthesized_append_eq hshape.fields_plain
    hother.fields_plain hrest
  exact ⟨hunique, hmethod, hfields, clause_injective hlast⟩

theorem Alike.statement_eq (h : shape.Alike other) (table : String) :
    shape.statement table = other.statement table := by
  obtain ⟨hunique, hmethod, hfields, hpredicate⟩ := h
  unfold statement clauses
  rw [hunique, hmethod, hfields, hpredicate]

/-- Indexes of one table have the same statement exactly when they are alike. -/
theorem alike_iff (htable : '"' ∉ table.toList) (hshape : shape.IsNamed)
    (hother : other.IsNamed) :
    (∃ text, shape.render table = .ok text ∧ other.render table = .ok text) ↔
      shape.Alike other := by
  have hover : Over (· ≠ '"') table := fun c hc hquote => htable (hquote ▸ hc)
  rw [render_eq_ok _ _ hover, render_eq_ok _ _ hover]
  constructor
  · rintro ⟨text, htext, htext'⟩
    exact alike_of_statement_eq hshape hother (Except.ok.inj (htext.trans htext'.symm))
  · intro h
    exact ⟨_, rfl, by rw [h.statement_eq]⟩

end IndexShape

/-- Fragments are joined by their texts, whatever the delimiter, and described indexes of one
table, which are fragments joined with a blank, have the same text exactly when they are unique
alike and have the same access method, fields and predicate. -/
theorem Fragment.joined_and_read_back (delim table : String) :
    Joins delim ∧ ('"' ∉ table.toList → ∀ shape other : IndexShape, shape.IsNamed →
      other.IsNamed → ((∃ text, shape.render table = .ok text ∧ other.render table = .ok text) ↔
        shape.Alike other)) :=
  ⟨joins delim, fun htable _ _ hshape hother => IndexShape.alike_iff htable hshape hother⟩

namespace IndexShape

/-- An index whose predicate looks like the clauses in front of it. -/
def guised : IndexShape := ⟨["a"], some "", some "USING b (c) WHERE d", true⟩

/-- The index that it looks like. -/
def unguised : IndexShape := ⟨["c"], some "b", some "d", true⟩

end IndexShape

/-- An empty method makes no difference to the text of an index, and the clauses in a predicate
are not taken for those of the index. -/
theorem Fragment.guised_read_back :
    join " " [.text "", .text "a", .led "USING" (.text "")] = join " " [.text "a"] ∧
      '"' ∉ "t".toList ∧ IndexShape.guised.IsNamed ∧ IndexShape.unguised.IsNamed ∧
      (∃ text, IndexShape.guised.render "t" = .ok text ∧
        { IndexShape.guised with method := none }.render "t" = .ok text) ∧
      ¬ ∃ text, IndexShape.guised.render "t" = .ok text ∧
        IndexShape.unguised.render "t" = .ok text := by
  have hquote : '"' ∉ "t".toList := by decide
  have hguised : IndexShape.guised.IsNamed := ⟨by decide, .inl rfl⟩
  have hwithout : { IndexShape.guised with method := none }.IsNamed := ⟨by decide, .inl rfl⟩
  have hunguised : IndexShape.unguised.IsNamed := ⟨by decide, .inr (by decide)⟩
  obtain ⟨hjoins, hread⟩ := joined_and_read_back " " "t"
  refine ⟨hjoins.absent _ _ (by decide), hquote, hguised, hunguised, ?_, ?_⟩
  · exact (hread hquote _ _ hguised hwithout).2 ⟨rfl, rfl, rfl, rfl⟩
  · rw [hread hquote _ _ hguised hunguised]
    intro halike
    exact absurd halike.method (by decide)

end RowSql
