import Mathlib.Algebra.GroupWithZero.Nat
import Mathlib.Data.List.Forall2
import RowSql.Unpack

/-!
# Rows of a result

The tuples of a result are read one after the other, and the first that does not fit is
reported instead of any rows. A tuple fits a schema when it is not too wide, and then fills a
row from the left. It fits the schemas of a join when it is exactly as wide as all of them, and
then it is dealt out: each schema takes its share, and nothing is left over. Main statements:
`Schema.readsEach_rows` and `Join.readsEach_splitAll`.
-/
namespace RowSql

/-- Where each step succeeds, all of them do, and each result stands for its own item. -/
theorem Except.mapM_of_forall {α β ε : Type} {f : α → Except ε β} {R : α → β → Prop} {l : List α}
    (h : ∀ a ∈ l, ∃ b, f a = .ok b ∧ R a b) : ∃ bs, l.mapM f = .ok bs ∧ List.Forall₂ R l bs := by
  induction l with
  | nil => exact ⟨[], rfl, .nil⟩
  | cons a l ih =>
    obtain ⟨ha, hrest⟩ := List.forall_mem_cons.1 h
    obtain ⟨b, hb, hR⟩ := ha
    obtain ⟨bs, hbs, hall⟩ := ih hrest
    refine ⟨b :: bs, ?_, .cons hR hall⟩
    rw [List.mapM_cons, hb, hbs]
    rfl

namespace Tuples

/-- The first tuple that does not fit. -/
def FirstMisfit (fits : List Value → Prop) (tuples : Tuples) (t : List Value) : Prop :=
  ∃ before after, tuples = before ++ t :: after ∧ (∀ b ∈ before, fits b) ∧ ¬ fits t

/-- Every tuple is read on its own: all of them must fit, and the first misfit is reported. -/
structure ReadsEach {α : Type} (fits : List Value → Prop) (fault : List Value → Fault)
    (Reads : List Value → α → Prop) (read : Tuples → Except Fault (List α)) : Prop where
  ok_iff : ∀ tuples, (∃ out, read tuples = .ok out) ↔ ∀ t ∈ tuples, fits t
  each : ∀ tuples out, read tuples = .ok out → List.Forall₂ Reads tuples out
  error_iff : ∀ tuples e, read tuples = .error e ↔ ∃ t, FirstMisfit fits tuples t ∧ e = fault t

variable {α : Type} {fits : List Value → Prop} {fault : List Value → Fault}
  {Reads : List Value → α → Prop} {f : List Value → Except Fault α} {tuples : Tuples}
  {t : List Value}

theorem FirstMisfit.cons {u : List Value} (hu : fits u) (h : FirstMisfit fits tuples t) :
    FirstMisfit fits (u :: tuples) t := by
  obtain ⟨before, after, rfl, hbefore, ht⟩ := h
  exact ⟨u :: before, after, rfl, List.forall_mem_cons.2 ⟨hu, hbefore⟩, ht⟩

theorem FirstMisfit.exists_of_not_fits (h : ¬ ∀ t ∈ tuples, fits t) :
    ∃ t, FirstMisfit fits tuples t := by
  induction tuples with
  | nil => simp at h
  | cons u tuples ih =>
    by_cases hu : fits u
    · obtain ⟨t, ht⟩ := ih fun hall => h (List.forall_mem_cons.2 ⟨hu, hall⟩)
      exact ⟨t, ht.cons hu⟩
    · exact ⟨u, [], tuples, rfl, by simp, hu⟩

theorem mapM_of_fits (hok : ∀ t, fits t → ∃ a, f t = .ok a ∧ Reads t a)
    (h : ∀ t ∈ tuples, fits t) :
    ∃ out, tuples.mapM f = .ok out ∧ List.Forall₂ Reads tuples out :=
  Except.mapM_of_forall fun t ht => hok t (h t ht)

theorem mapM_of_firstMisfit (hok : ∀ t, fits t → ∃ a, f t = .ok a ∧ Reads t a)
    (herror : ∀ t, ¬ fits t → f t = .error (fault t)) (h : FirstMisfit fits tuples t) :
    tuples.mapM f = .error (fault t) := by
  obtain ⟨before, after, rfl, hbefore, ht⟩ := h
  obtain ⟨out, hout, -⟩ := mapM_of_fits hok hbefore
  rw [List.mapM_append, hout, List.mapM_cons, herror t ht]
  rfl

/-- What reads one tuple reads each of them. -/
theorem readsEach_mapM (hok : ∀ t, fits t → ∃ a, f t = .ok a ∧ Reads t a)
    (herror : ∀ t, ¬ fits t → f t = .error (fault t)) :
    ReadsEach fits fault Reads (List.mapM f) := by
  have hfits : ∀ (tuples : Tuples) out, tuples.mapM f = .ok out → ∀ t ∈ tuples, fits t := by
    intro tuples out hout
    by_contra hnot
    obtain ⟨t, ht⟩ := FirstMisfit.exists_of_not_fits hnot
    cases hout.symm.trans (mapM_of_firstMisfit hok herror ht)
  refine ⟨fun tuples => ⟨?_, ?_⟩, ?_, fun tuples e => ⟨?_, ?_⟩⟩
  · rintro ⟨out, hout⟩
    exact hfits tuples out hout
  · intro hall
    obtain ⟨out, hout, -⟩ := mapM_of_fits hok hall
    exact ⟨out, hout⟩
  · intro tuples out hout
    obtain ⟨out', hout', heach⟩ := mapM_of_fits hok (hfits tuples out hout)
    cases hout.symm.trans hout'
    exact heach
  · intro he
    by_cases hall : ∀ t ∈ tuples, fits t
    · obtain ⟨out, hout, -⟩ := mapM_of_fits hok hall
      cases hout.symm.trans he
    · obtain ⟨t, ht⟩ := FirstMisfit.exists_of_not_fits hall
      cases he.symm.trans (mapM_of_firstMisfit hok herror ht)
      exact ⟨t, ht, rfl⟩
  · rintro ⟨t, ht, rfl⟩
    exact mapM_of_firstMisfit hok herror ht

end Tuples

/-! ## Tuples of one schema -/

namespace Row

/-- The values of a tuple from the left, and nothing supplied beyond them. -/
structure Holds (s : Schema) (t : List Value) (r : Row) : Prop where
  schema_eq : r.schema = s
  cells_eq : r.cells = t.map some ++ List.replicate (s.width - t.length) none

variable {s : Schema} {t : List Value}

theorem ofTuple_of_le (h : t.length ≤ s.width) : ∃ r, ofTuple s t = .ok r ∧ Holds s t r := by
  rw [ofTuple, dif_pos h]
  exact ⟨_, rfl, rfl, rfl⟩

theorem ofTuple_of_not_le (h : ¬ t.length ≤ s.width) :
    ofTuple s t = .error (.tooManyValues s.name t.length s.width) := by
  rw [ofTuple, dif_neg h]

end Row

theorem Schema.readsEach_rows (s : Schema) :
    Tuples.ReadsEach (fun t => t.length ≤ s.width)
      (fun t => .tooManyValues s.name t.length s.width) (Row.Holds s) s.rows :=
  Tuples.readsEach_mapM (fun _ => Row.ofTuple_of_le) fun _ => Row.ofTuple_of_not_le

/-! ## Tuples of a join -/

namespace Join

/-- One row for each schema, in order, with no cell unsupplied; their cells one after the other
are the tuple. -/
structure Dealt (schemas : List Schema) (t : List Value) (rows : List Row) : Prop where
  schemas_eq : rows.map (fun r => r.schema) = schemas
  cells_eq : rows.flatMap (fun r => r.cells) = t.map some

variable {schemas : List Schema} {t : List Value}

theorem totalWidth_eq_sum (schemas : List Schema) :
    totalWidth schemas = (schemas.map Schema.width).sum := by
  induction schemas with
  | nil => rfl
  | cons s schemas ih => rw [totalWidth, ih, List.map_cons, List.sum_cons]

/-- Each schema takes as many values as it has columns, which are never too many for it. -/
theorem cut_eq_ok (h : t.length = totalWidth schemas) :
    ∃ rows, cut schemas t = .ok rows ∧ Dealt schemas t rows := by
  induction schemas generalizing t with
  | nil =>
    have hnil : t = [] := List.length_eq_zero_iff.1 h
    exact ⟨[], rfl, rfl, by rw [hnil]; rfl⟩
  | cons s schemas ih =>
    rw [totalWidth] at h
    have htake : (t.take s.width).length = s.width := by
      rw [List.length_take]
      omega
    have hdrop : (t.drop s.width).length = totalWidth schemas := by
      rw [List.length_drop]
      omega
    obtain ⟨r, hr, hholds⟩ := Row.ofTuple_of_le (Nat.le_of_eq htake)
    obtain ⟨rows, hrows, hdealt⟩ := ih hdrop
    refine ⟨r :: rows, ?_, ?_, ?_⟩
    · rw [cut, hr, hrows]
      rfl
    · rw [List.map_cons, hholds.schema_eq, hdealt.schemas_eq]
    · rw [List.flatMap_cons, hholds.cells_eq, hdealt.cells_eq, htake, Nat.sub_self,
        List.replicate_zero, List.append_nil, ← List.map_append, List.take_append_drop]

/-- Only a tuple that is as wide as the schemas together is dealt out. -/
theorem Dealt.length_eq {rows : List Row} (h : Dealt schemas t rows) :
    t.length = (schemas.map Schema.width).sum := by
  rw [← List.length_map some, ← h.cells_eq, List.length_flatMap, ← h.schemas_eq, List.map_map]
  congr 1
  exact List.map_congr_left fun r _ => r.length_cells

theorem readsEach_splitAll (schemas : List Schema) :
    Tuples.ReadsEach (fun t => t.length = (schemas.map Schema.width).sum)
      (fun t => .misalignedTuple (schemas.map Schema.width).sum t.length) (Dealt schemas)
      (Cursor.splitAll schemas) := by
  rw [← totalWidth_eq_sum]
  refine Tuples.readsEach_mapM (fun t ht => ?_) fun t ht => ?_
  · rw [split, if_pos ht]
    exact cut_eq_ok ht
  · rw [split, if_neg ht]

end Join
end RowSql
