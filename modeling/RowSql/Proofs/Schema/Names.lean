import RowSql.Proofs.Text.Span
import RowSql.Schema

/-!
# Names of a schema

A plain identifier is a span over letters, digits and underscores, so whatever else stands in
a statement marks its end. Every name that a schema carries is plain: its own, that of its
table, those of its columns, and the fields of its key.
-/
namespace RowSql

namespace Name

variable {s : String}

/-- The alphabet of plain identifiers. -/
abbrev IsWordChar (c : Char) : Prop := isFollower c = true

theorem isFollower_of_isLead {c : Char} (h : isLead c = true) : isFollower c = true := by
  simp only [isLead, isFollower, Char.isAlphanum, Bool.or_eq_true] at *
  exact h.imp_right Or.inl

theorem IsPlain.over (h : IsPlain s) : Over IsWordChar s := by
  unfold IsPlain at h
  unfold Over
  cases hs : s.toList with
  | nil => simp
  | cons c rest =>
    simp only [hs, isPlainChars, Bool.and_eq_true, List.all_eq_true] at h
    intro d hd
    rcases List.mem_cons.1 hd with rfl | hd
    · exact isFollower_of_isLead h.1
    · exact h.2 d hd

/-- A character outside the alphabet stands in no plain identifier. -/
theorem IsPlain.over_ne (h : IsPlain s) {x : Char} (hx : isFollower x = false) :
    Over (· ≠ x) s := by
  refine Over.mono ?_ h.over
  rintro c hc rfl
  exact Bool.false_ne_true (hx.symm.trans hc)

end Name

namespace Schema

variable (s : Schema)

theorem table_plain : Name.IsPlain s.table := s.wellFormed.table_plain

theorem plain_of_mem_columnNames {f : String} (h : f ∈ s.columnNames) : Name.IsPlain f := by
  obtain ⟨c, hc, rfl⟩ := List.mem_map.1 h
  exact s.wellFormed.columns_plain c hc

theorem plain_of_mem_key {k : String} (h : k ∈ s.key) : Name.IsPlain k :=
  s.plain_of_mem_columnNames (s.wellFormed.key_declared k h)

/-- Lists of declared fields hold plain identifiers only. -/
theorem plain_of_subset {fields : List String} (h : ∀ f ∈ fields, f ∈ s.columnNames) :
    ∀ f ∈ fields, Name.IsPlain f := fun f hf => s.plain_of_mem_columnNames (h f hf)

/-- A schema with one integer column, which is the key. -/
def single : Schema :=
  let d : Declaration := ⟨"T", [⟨"a", .scalar .int⟩], ["a"], [], .named "here"⟩
  ⟨d, d.fault?_eq_none.1 (by decide)⟩

/-- A schema without a key. -/
def keyless : Schema :=
  let d : Declaration := ⟨"T", [⟨"a", .scalar .int⟩], [], [], .named "here"⟩
  ⟨d, d.fault?_eq_none.1 (by decide)⟩

end Schema
end RowSql
