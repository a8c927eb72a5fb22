import RowSql.Proofs.Query.Accepted

/-!
# Reading assignments back

A name is read up to the equals sign behind it, and the mark behind that is known from the
number of assignments before. A list of assignments ends where no separator follows, which
holds of everything that a statement has behind such a list. So the names of a list, and the
text behind the list, can be read off.
-/
namespace RowSql

namespace Bindings

/-- The names are plain identifiers. -/
def KeysPlain (b : Bindings) : Prop := ∀ k ∈ b.keys, Name.IsPlain k

@[simp] theorem keys_cons (p : String × Value) (b : Bindings) : keys (p :: b) = p.1 :: b.keys := rfl

theorem KeysPlain.head {p : String × Value} {b : Bindings} (h : KeysPlain (p :: b)) :
    Name.IsPlain p.1 := h p.1 (by simp)

theorem KeysPlain.tail {p : String × Value} {b : Bindings} (h : KeysPlain (p :: b)) :
    b.KeysPlain := fun k hk => h k (by simp [hk])

end Bindings

/-- The text does not begin with `s`. -/
def Lacks (s x : String) : Prop := ∀ rest, x ≠ s ++ rest

theorem Lacks.empty {s : String} (hs : s ≠ "") : Lacks s "" := fun rest h => by
  simp [hs] at h

namespace Template

variable {separator : String} {m : Marker} {n : Nat} {b c : Bindings} {x y : String}

/-- Assignments behind others. -/
def further (separator : String) (b : Bindings) : Template :=
  b.flatMap fun p => [.text (separator ++ (p.1 ++ "=")), .bind p.2]

theorem sqlFrom_further_cons (k : String) (v : Value) :
    sqlFrom m n (further separator ((k, v) :: b)) =
      separator ++ (k ++ ("=" ++ (m.mark n ++ sqlFrom m (n + 1) (further separator b)))) := by
  simp [further, sqlFrom, String.append_assoc]

theorem sqlFrom_assignments_cons (k : String) (v : Value) :
    sqlFrom m n (assignments separator ((k, v) :: b)) =
      k ++ ("=" ++ (m.mark n ++ sqlFrom m (n + 1) (further separator b))) := by
  induction b generalizing k v n with
  | nil => simp [assignments, further, sqlFrom, String.append_assoc]
  | cons p b ih =>
    simp only [assignments, sqlFrom, ih p.1 p.2, sqlFrom_further_cons p.1 p.2, String.append_assoc]

/-- Assignments are names with their marks, the first of which is the `n`-th. -/
theorem sqlFrom_assignments (separator : String) (m : Marker) (n : Nat) (b : Bindings) :
    sqlFrom m n (assignments separator b) =
      separator.intercalate (b.keys.mapIdx fun i k => k ++ "=" ++ m.mark (n + i)) := by
  induction b generalizing n with
  | nil => rfl
  | cons p b ih =>
    obtain ⟨k, v⟩ := p
    cases b with
    | nil => simp [assignments, sqlFrom, Bindings.keys]
    | cons p' b =>
      have hrest := ih (n + 1)
      simp only [Bindings.keys_cons, List.mapIdx_cons] at hrest ⊢
      rw [String.intercalate_cons_cons]
      simp only [assignments, sqlFrom, hrest, String.append_assoc, Nat.add_zero, Nat.zero_add,
        Nat.add_assoc, Nat.add_comm 1]

/-- The name of one assignment, and what stands behind its mark. -/
theorem assignment_eq {k l : String} (hk : Name.IsPlain k) (hl : Name.IsPlain l)
    (h : k ++ ("=" ++ (m.mark n ++ x)) = l ++ ("=" ++ (m.mark n ++ y))) : k = l ∧ x = y := by
  have hstop : ∀ z, StopsAt Name.IsWordChar ("=" ++ z) :=
    StopsAt.append (by decide) (by decide)
  obtain ⟨hkl, hrest⟩ := Span.eq_of_append_eq hk.over hl.over (hstop _) (hstop _) h
  rw [String.append_right_inj, String.append_right_inj] at hrest
  exact ⟨hkl, hrest⟩

theorem keys_eq_of_further (hb : b.KeysPlain) (hc : c.KeysPlain) (hx : Lacks separator x)
    (hy : Lacks separator y)
    (h : sqlFrom m n (further separator b) ++ x = sqlFrom m n (further separator c) ++ y) :
    b.keys = c.keys ∧ x = y := by
  induction b generalizing c n with
  | nil =>
    cases c with
    | nil => exact ⟨rfl, by simpa [further, sqlFrom] using h⟩
    | cons q c =>
      rw [sqlFrom_further_cons q.1 q.2, String.append_assoc] at h
      exact absurd (by simpa [further, sqlFrom] using h) (hx _)
  | cons p b ih =>
    cases c with
    | nil =>
      rw [sqlFrom_further_cons p.1 p.2, String.append_assoc] at h
      exact absurd (by simpa [further, sqlFrom] using h.symm) (hy _)
    | cons q c =>
      rw [sqlFrom_further_cons p.1 p.2, sqlFrom_further_cons q.1 q.2] at h
      simp only [String.append_assoc, String.append_right_inj] at h
      obtain ⟨hkey, hrest⟩ := assignment_eq hb.head hc.head h
      obtain ⟨hkeys, hxy⟩ := ih hb.tail hc.tail hrest
      exact ⟨by rw [Bindings.keys_cons, Bindings.keys_cons, hkey, hkeys], hxy⟩

theorem keys_eq_of_assignments (hb : b.KeysPlain) (hc : c.KeysPlain) (hb' : b ≠ []) (hc' : c ≠ [])
    (hx : Lacks separator x) (hy : Lacks separator y)
    (h : sqlFrom m n (assignments separator b) ++ x = sqlFrom m n (assignments separator c) ++ y) :
    b.keys = c.keys ∧ x = y := by
  obtain ⟨p, b, rfl⟩ := List.exists_cons_of_ne_nil hb'
  obtain ⟨q, c, rfl⟩ := List.exists_cons_of_ne_nil hc'
  rw [sqlFrom_assignments_cons p.1 p.2, sqlFrom_assignments_cons q.1 q.2] at h
  simp only [String.append_assoc] at h
  obtain ⟨hkey, hrest⟩ := assignment_eq hb.head hc.head h
  obtain ⟨hkeys, hxy⟩ := keys_eq_of_further hb.tail hc.tail hx hy hrest
  exact ⟨by rw [Bindings.keys_cons, Bindings.keys_cons, hkey, hkeys], hxy⟩

theorem sqlFrom_conditions (hb : b ≠ []) :
    sqlFrom m n (conditions b) = " where " ++ sqlFrom m n (assignments " and " b) := by
  obtain ⟨p, b, rfl⟩ := List.exists_cons_of_ne_nil hb
  rfl

/-- Assignments between commas end where conditions begin. -/
theorem lacks_comma_of_conditions : Lacks "," (sqlFrom m n (conditions b)) := by
  intro rest h
  by_cases hb : b = []
  · subst hb
    simp [conditions, sqlFrom] at h
  · rw [sqlFrom_conditions hb] at h
    have hlist := congrArg String.toList h
    simp at hlist

/-- Conditions can be read off unless what stands behind them looks like one of them. -/
theorem keys_eq_of_conditions (hb : b.KeysPlain) (hc : c.KeysPlain)
    (hx : Lacks " where " x ∧ Lacks " and " x) (hy : Lacks " where " y ∧ Lacks " and " y)
    (h : sqlFrom m n (conditions b) ++ x = sqlFrom m n (conditions c) ++ y) :
    b.keys = c.keys ∧ x = y := by
  by_cases hb' : b = []
  · subst hb'
    by_cases hc' : c = []
    · subst hc'
      exact ⟨rfl, by simpa [conditions, sqlFrom] using h⟩
    · rw [sqlFrom_conditions hc', String.append_assoc] at h
      exact absurd (by simpa [conditions, sqlFrom] using h) (hx.1 _)
  · by_cases hc' : c = []
    · subst hc'
      rw [sqlFrom_conditions hb', String.append_assoc] at h
      exact absurd (by simpa [conditions, sqlFrom] using h.symm) (hy.1 _)
    · rw [sqlFrom_conditions hb', sqlFrom_conditions hc'] at h
      simp only [String.append_assoc, String.append_right_inj] at h
      exact keys_eq_of_assignments hb hc hb' hc' hx.2 hy.2 h

theorem keys_eq_of_last_conditions (hb : b.KeysPlain) (hc : c.KeysPlain)
    (h : sqlFrom m n (conditions b) = sqlFrom m n (conditions c)) : b.keys = c.keys := by
  have hnothing : Lacks " where " "" ∧ Lacks " and " "" :=
    ⟨Lacks.empty (by decide), Lacks.empty (by decide)⟩
  have hempty : sqlFrom m n (conditions b) ++ "" = sqlFrom m n (conditions c) ++ "" := by rw [h]
  exact (keys_eq_of_conditions hb hc hnothing hnothing hempty).1

/-- Names stop where conditions begin. -/
theorem stopsAt_conditions (hx : StopsAt Name.IsWordChar x) :
    StopsAt Name.IsWordChar (sqlFrom m n (conditions b) ++ x) := by
  by_cases hb : b = []
  · subst hb
    simpa [conditions, sqlFrom] using hx
  · rw [sqlFrom_conditions hb, String.append_assoc]
    exact StopsAt.append (by decide) (by decide) _

end Template
end RowSql
