import Mathlib.Data.List.Induction
import Mathlib.Data.List.Nodup
import RowSql.Catalog

/-!
# Runs of registrations

What a catalog comes to when schemas are registered one after the other, some of them refused.
A look-up goes through the place of a table, so that it finds what a search of the entries
would find rests on the places that every registration keeps. Main statement: a registration
is refused exactly when an earlier one of its table succeeded, and after a run the catalog
holds the first schema of each table and nothing else.
-/
namespace RowSql

namespace Catalog

variable (c : Catalog) {d : Declared} {table : String}

/-- Reading an entry at its place finds what a search finds. -/
theorem find?_eq_search : c.find? table = c.entries.find? (·.schema.table == table) := by
  rw [find?, place?, c.lookup_places, ← List.find?_eq_bind_findIdx?_getElem?]

theorem contains_eq_isSome_find? : c.contains table = (c.find? table).isSome := by
  cases h : c.place? table with
  | none => simp [contains, find?, h]
  | some place =>
    have inside := c.lt_length_of_place? h
    simp [contains, find?, h, List.getElem?_eq_getElem inside]

theorem mem_entries_of_find? (h : c.find? table = some d) :
    d ∈ c.entries ∧ d.schema.table = table := by
  rw [find?_eq_search] at h
  exact ⟨List.mem_of_find?_eq_some h, by simpa using List.find?_some h⟩

/-- An entry is the one that its table leads to, since no other entry has that table. -/
theorem find?_of_mem_entries (h : d ∈ c.entries) : c.find? d.schema.table = some d := by
  rw [find?_eq_search]
  cases hfound : c.entries.find? (·.schema.table == d.schema.table) with
  | none => simpa using List.find?_eq_none.1 hfound d h
  | some first =>
    have hfirst := List.mem_of_find?_eq_some hfound
    have htable : first.schema.table = d.schema.table := by simpa using List.find?_some hfound
    rw [List.inj_on_of_nodup_map c.tables_distinct hfirst h htable]

theorem holds_iff : c.holds d = true ↔ d ∈ c.entries := by
  rw [holds, beq_iff_eq]
  exact ⟨fun h => (c.mem_entries_of_find? h).1, c.find?_of_mem_entries⟩

/-- The event that reports a registration. -/
def reported (d : Declared) : Event :=
  .registered d.schema.table d.schema.width d.schema.origin.shown

/-- All that a registration can do: it is refused on account of the entry of its table, or it
adds an entry and reports it. -/
theorem register_cases (d : Declared) :
    (∃ first, c.find? d.schema.table = some first ∧
      c.register d = .error (.duplicateTable d.schema.table first.schema.origin.shown)) ∨
    (∃ c' : Catalog, c.find? d.schema.table = none ∧
      c.register d = .ok (c', reported d) ∧ c'.entries = c.entries ++ [d]) := by
  unfold register
  split
  · rename_i place h
    have inside := c.lt_length_of_place? h
    refine Or.inl ⟨c.entries[place], ?_, rfl⟩
    rw [find?, h, Option.bind_some, List.getElem?_eq_getElem inside]
  · rename_i h
    refine Or.inr ⟨_, ?_, rfl, rfl⟩
    rw [find?, h, Option.bind_none]

theorem register_of_taken {first : Declared} (h : c.find? d.schema.table = some first) :
    c.register d = .error (.duplicateTable d.schema.table first.schema.origin.shown) := by
  rcases c.register_cases d with ⟨first', hfirst, herror⟩ | ⟨c', hnone, -⟩
  · rw [h] at hfirst
    cases hfirst
    exact herror
  · rw [h] at hnone
    cases hnone

/-- A registration succeeds exactly when its table is free. -/
theorem registers_iff :
    (∃ c' event, c.register d = .ok (c', event)) ↔ c.find? d.schema.table = none := by
  rcases c.register_cases d with ⟨first, hfirst, herror⟩ | ⟨c', hnone, hok, -⟩
  · simp [herror, hfirst]
  · simp [hok, hnone]

theorem entries_of_register {c' : Catalog} {event : Event} (h : c.register d = .ok (c', event)) :
    c'.entries = c.entries ++ [d] := by
  rcases c.register_cases d with ⟨first, -, herror⟩ | ⟨c'', -, hok, hentries⟩
  · rw [herror] at h
    cases h
  · rw [hok] at h
    cases h
    exact hentries

end Catalog

/-- The first declaration of each table, in order. -/
def registrants : List Declared → List Declared
  | [] => []
  | d :: rest => d :: (registrants rest).filter (·.schema.table ≠ d.schema.table)

namespace Registrants

theorem append_singleton (calls : List Declared) (d : Declared) :
    registrants (calls ++ [d]) =
      if ∃ d' ∈ calls, d'.schema.table = d.schema.table then registrants calls
      else registrants calls ++ [d] := by
  induction calls with
  | nil => simp [registrants]
  | cons first rest ih =>
    rw [List.cons_append, registrants, ih, registrants]
    by_cases hfirst : first.schema.table = d.schema.table
    · by_cases hrest : ∃ d' ∈ rest, d'.schema.table = d.schema.table
      · simp [hfirst, hrest]
      · simp [hfirst, hrest]
    · by_cases hrest : ∃ d' ∈ rest, d'.schema.table = d.schema.table
      · simp [hrest]
      · simp [hfirst, hrest, Ne.symm hfirst]

theorem find?_eq (calls : List Declared) (table : String) :
    (registrants calls).find? (·.schema.table == table) =
      calls.find? (·.schema.table == table) := by
  induction calls with
  | nil => rfl
  | cons first rest ih =>
    rw [registrants, List.find?_cons, List.find?_cons, ← ih, List.find?_filter]
    by_cases hfirst : first.schema.table = table
    · simp [hfirst]
    · simp only [beq_false_of_ne hfirst]
      congr 1
      funext d
      by_cases hd : d.schema.table = table
      · simp [hd, Ne.symm hfirst]
      · simp [hd]

end Registrants

/-- A catalog after some registrations, with all that was reported of them. -/
structure Registrations where
  catalog : Catalog
  log : List Event

namespace Registrations

/-- One more registration. When it is refused, neither the catalog nor the log changes. -/
def call (r : Registrations) (d : Declared) : Registrations :=
  match r.catalog.register d with
  | .ok (c, event) => ⟨c, r.log ++ [event]⟩
  | .error _ => r

/-- One registration after the other, from the empty catalog on. -/
def run (calls : List Declared) : Registrations := calls.foldl call ⟨.empty, []⟩

/-- Among the calls there was one for this declaration, and it succeeded. -/
def Succeeded (calls : List Declared) (d : Declared) : Prop :=
  ∃ front back, calls = front ++ d :: back ∧
    ∃ c event, (run front).catalog.register d = .ok (c, event)

variable {calls : List Declared} {d : Declared}

@[simp] theorem run_append_singleton (calls : List Declared) (d : Declared) :
    run (calls ++ [d]) = (run calls).call d := by
  simp [run]

theorem call_of_error {r : Registrations} {fault : Fault}
    (h : r.catalog.register d = .error fault) : r.call d = r := by
  rw [call, h]

theorem call_of_ok {r : Registrations} {c : Catalog} {event : Event}
    (h : r.catalog.register d = .ok (c, event)) : r.call d = ⟨c, r.log ++ [event]⟩ := by
  rw [call, h]

/-- After a run the catalog holds the first schema of each table, and each was reported. -/
theorem run_eq (calls : List Declared) :
    (run calls).catalog.entries = registrants calls ∧
      (run calls).log = (registrants calls).map Catalog.reported := by
  induction calls using List.reverseRecOn with
  | nil => exact ⟨rfl, rfl⟩
  | append_singleton calls d ih =>
    obtain ⟨hentries, hlog⟩ := ih
    have hfound : (run calls).catalog.find? d.schema.table =
        calls.find? (·.schema.table == d.schema.table) := by
      rw [Catalog.find?_eq_search, hentries, Registrants.find?_eq]
    rw [run_append_singleton, Registrants.append_singleton]
    rcases (run calls).catalog.register_cases d with ⟨first, hfirst, herror⟩ | ⟨c, hnone, hok, hc⟩
    · have htaken : ∃ d' ∈ calls, d'.schema.table = d.schema.table := by
        rw [hfound] at hfirst
        exact ⟨first, List.mem_of_find?_eq_some hfirst, by simpa using List.find?_some hfirst⟩
      rw [call_of_error herror, if_pos htaken]
      exact ⟨hentries, hlog⟩
    · have hfree : ¬ ∃ d' ∈ calls, d'.schema.table = d.schema.table := by
        rw [hfound] at hnone
        simpa using hnone
      rw [call_of_ok hok, if_neg hfree, hc, hentries, hlog]
      simp

theorem find?_run (table : String) :
    (run calls).catalog.find? table = calls.find? (·.schema.table == table) := by
  rw [Catalog.find?_eq_search, (run_eq calls).1, Registrants.find?_eq]

/-- The calls that succeeded are those that a look-up of their table finds. -/
theorem succeeded_iff :
    Succeeded calls d ↔ (run calls).catalog.find? d.schema.table = some d := by
  rw [find?_run, List.find?_eq_some_iff_append]
  constructor
  · rintro ⟨front, back, hcalls, hok⟩
    rw [Catalog.registers_iff, find?_run] at hok
    exact ⟨by simp, front, back, hcalls, by simpa using hok⟩
  · rintro ⟨-, front, back, hcalls, hfront⟩
    refine ⟨front, back, hcalls, ?_⟩
    rw [Catalog.registers_iff, find?_run]
    simpa using hfront

/-- A call is refused on account of the one of its table that succeeded. -/
theorem register_of_succeeded {first : Declared} (h : Succeeded calls first)
    (htable : first.schema.table = d.schema.table) :
    (run calls).catalog.register d =
      .error (.duplicateTable d.schema.table first.schema.origin.shown) := by
  rw [succeeded_iff, htable] at h
  exact (run calls).catalog.register_of_taken h

theorem refused_iff : (∃ fault, (run calls).catalog.register d = .error fault) ↔
    ∃ first, Succeeded calls first ∧ first.schema.table = d.schema.table := by
  constructor
  · rintro ⟨fault, hfault⟩
    rcases (run calls).catalog.register_cases d with ⟨first, hfirst, -⟩ | ⟨c', -, hok, -⟩
    · have htable := ((run calls).catalog.mem_entries_of_find? hfirst).2
      exact ⟨first, succeeded_iff.2 (htable ▸ hfirst), htable⟩
    · rw [hfault] at hok
      cases hok
  · rintro ⟨first, hfirst, htable⟩
    exact ⟨_, register_of_succeeded hfirst htable⟩

/-- A registration is refused exactly when an earlier one of its table succeeded, names that
one's origin, and leaves everything as it was; otherwise it is reported once. After a run the
catalog lists the first schema of each table in order, and look-ups find these and no others. -/
theorem first_of_each_table_stays (calls : List Declared) (d : Declared) :
    ((∃ fault, (run calls).catalog.register d = .error fault) ↔
        ∃ first, Succeeded calls first ∧ first.schema.table = d.schema.table) ∧
      (∀ first, Succeeded calls first → first.schema.table = d.schema.table →
        (run calls).catalog.register d =
          .error (.duplicateTable d.schema.table first.schema.origin.shown)) ∧
      (∀ fault, (run calls).catalog.register d = .error fault →
        run (calls ++ [d]) = run calls) ∧
      (∀ c event, (run calls).catalog.register d = .ok (c, event) →
        run (calls ++ [d]) = ⟨c, (run calls).log ++ [event]⟩) ∧
      (run calls).catalog.entries = registrants calls ∧
      (run calls).log = (registrants calls).map Catalog.reported ∧
      (run calls).catalog.size = (registrants calls).length ∧
      (∀ table, (run calls).catalog.find? table = calls.find? (·.schema.table == table)) ∧
      (∀ table, (run calls).catalog.contains table = false ↔
        (run calls).catalog.find? table = none) ∧
      ∀ e, (run calls).catalog.holds e = true ↔ e ∈ (run calls).catalog.entries := by
  obtain ⟨hentries, hlog⟩ := run_eq calls
  refine ⟨refused_iff, fun _ hfirst htable => register_of_succeeded hfirst htable, ?_, ?_,
    hentries, hlog, congrArg List.length hentries, fun _ => find?_run _, ?_,
    fun _ => (run calls).catalog.holds_iff⟩
  · intro fault hfault
    rw [run_append_singleton, call_of_error hfault]
  · intro c event hok
    rw [run_append_singleton, call_of_ok hok]
  · intro table
    rw [Catalog.contains_eq_isSome_find?, Option.isSome_eq_false_iff, Option.isNone_iff_eq_none]

end Registrations
end RowSql
