import RowSql.Proofs.Query.Accepted
import RowSql.Proofs.Schema.Checks

/-!
# Checks of a query

What is asked of a query is one list of checks, each with the fault that reports it: first that
there is enough to write a statement from, then the names, in the order in which they are given.
Which check is reported depends on that order, and in a join on which schema comes first, since
the others are compared with it alone. Main statement: a query compiles exactly when it is
accepted, and otherwise the fault is that of the first check that is not met; whether it
compiles does not depend on the order of its lists.
-/
namespace RowSql

open Check (firstUnmet? FirstUnmet)

namespace Schema

variable (s : Schema)

/-- A name has to be that of a column. -/
def declares (field : String) : Check := ⟨field ∈ s.columnNames, s.unknown field⟩

/-- The same of an entry of a projection, where a star stands for all columns. -/
def projects (field : String) : Check := ⟨field = "*" ∨ field ∈ s.columnNames, s.unknown field⟩

theorem undeclared?_eq_firstUnmet? (fields : List String) :
    s.undeclared? fields = firstUnmet? (fields.map s.declares) :=
  Declaration.undeclared?_eq_firstUnmet? s.name s.columnNames fields

theorem undeclared?_filter_eq_firstUnmet? (fields : List String) :
    s.undeclared? (fields.filter (· ≠ "*")) = firstUnmet? (fields.map s.projects) := by
  rw [undeclared?_eq_firstUnmet?]
  induction fields with
  | nil => rfl
  | cons f rest ih =>
    by_cases hstar : f = "*"
    · rw [List.filter_cons_of_neg (by simpa using hstar), ih]
      simp [projects, hstar]
    · rw [List.filter_cons_of_pos (by simpa using hstar), List.map_cons, Check.firstUnmet?_cons, ih]
      simp [declares, projects, hstar]

end Schema

namespace Insert

variable (q : Insert)

def checks : List Check :=
  q.written.map fun w => ⟨Name.IsPlain w.1, .invalidIdentifier w.1⟩

theorem fault?_eq_firstUnmet? : q.fault? = firstUnmet? q.checks := by
  simp [fault?, checks, firstUnmet?, Name.fault?, List.findSome?_map, Function.comp_def]

end Insert

namespace Select

variable (q : Select)

def checks : List Check :=
  ⟨q.fields ≠ [], .misuse .emptyProjection⟩ ::
    (q.fields.map q.schema.projects ++ q.conditions.keys.map q.schema.declares)

theorem fault?_eq_firstUnmet? : q.fault? = firstUnmet? q.checks := by
  rw [fault?, Schema.undeclared?_filter_eq_firstUnmet?, Schema.undeclared?_eq_firstUnmet?]
  simp [checks, Option.or_assoc]

end Select

namespace Update

variable (q : Update)

def checks : List Check :=
  ⟨q.assignments ≠ [], .misuse .emptyAssignment⟩ ::
    (q.assignments.keys.map q.schema.declares ++ q.conditions.keys.map q.schema.declares)

theorem fault?_eq_firstUnmet? : q.fault? = firstUnmet? q.checks := by
  simp [fault?, checks, Schema.undeclared?_eq_firstUnmet?, Option.or_assoc]

end Update

namespace Join

variable (q : Join)

/-- The key of another schema has to be that of the first one. -/
def sharesKey (first other : Schema) : Check :=
  ⟨other.key = first.key, .joinKeyMismatch first.name other.name⟩

/-- Some schema has to declare a condition, and the first one is blamed if none does. -/
def findsColumn (first : Schema) (k : String) : Check :=
  ⟨q.schemas.any (·.hasField k), first.unknown k⟩

def checks : List Check :=
  match q.schemas with
  | [] => [⟨false, .misuse .joinOfFewerThanTwo⟩]
  | first :: rest =>
    ⟨rest ≠ [], .misuse .joinOfFewerThanTwo⟩ ::
      ⟨first.key ≠ [], .misuse (.joinWithoutKey first.name)⟩ ::
      (rest.map (sharesKey first) ++ q.conditions.keys.map (q.findsColumn first))

theorem strayCondition?_eq_firstUnmet? (first : Schema) :
    q.strayCondition? first = firstUnmet? (q.conditions.keys.map (q.findsColumn first)) := by
  simp [strayCondition?, findsColumn, firstUnmet?, List.findSome?_map, Function.comp_def]

/-- The schemas behind the first are searched for one with another key. -/
theorem find?_eq_firstUnmet? (first : Schema) (rest : List Schema) :
    ((rest.find? (·.key ≠ first.key)).map fun other => .joinKeyMismatch first.name other.name) =
      firstUnmet? (rest.map (sharesKey first)) := by
  induction rest with
  | nil => rfl
  | cons other rest ih =>
    by_cases hkey : other.key = first.key
    · rw [List.find?_cons_of_neg (by simpa using hkey), ih]
      simp [sharesKey, hkey]
    · rw [List.find?_cons_of_pos (by simpa using hkey)]
      simp [sharesKey, hkey]

theorem fault?_eq_firstUnmet? : q.fault? = firstUnmet? q.checks := by
  match hschemas : q.schemas with
  | [] => simp [fault?, checks, hschemas]
  | [first] => simp [fault?, checks, hschemas]
  | first :: second :: rest =>
    rw [fault?, checks, hschemas]
    dsimp only
    rw [Check.firstUnmet?_cons, Check.firstUnmet?_cons, Check.firstUnmet?_append,
      ← find?_eq_firstUnmet?, ← strayCondition?_eq_firstUnmet?]
    by_cases hkey : first.key = []
    · simp [hkey]
    · cases (second :: rest).find? (·.key ≠ first.key) <;> simp [hkey]

/-- Of the schemas alone, in any order: they have one key in common, and it has fields. -/
theorem sharesKey_iff (hlength : 2 ≤ q.schemas.length) :
    (q.sharedKey ≠ [] ∧ ∀ s ∈ q.schemas, s.key = q.sharedKey) ↔
      ∃ key, key ≠ [] ∧ ∀ s ∈ q.schemas, s.key = key := by
  constructor
  · rintro ⟨hkey, hall⟩
    exact ⟨q.sharedKey, hkey, hall⟩
  · rintro ⟨key, hkey, hall⟩
    match hschemas : q.schemas with
    | [] => simp [hschemas] at hlength
    | first :: rest =>
      have hfirst : q.sharedKey = key := by
        rw [sharedKey, hschemas]
        exact hall first (by simp [hschemas])
      rw [hfirst, ← hschemas]
      exact ⟨hkey, hall⟩

end Join

namespace Query

/-- All that is asked of a query, in order. -/
def checks : Query → List Check
  | insert q => q.checks
  | select q => q.checks
  | update q => q.checks
  | join q => q.checks

/-- What a query has to be like. -/
def Accepted : Query → Prop
  | insert q => ∀ w ∈ q.written, Name.IsPlain w.1
  | select q =>
    q.fields ≠ [] ∧ (∀ f ∈ q.fields, f = "*" ∨ f ∈ q.schema.columnNames) ∧
      ∀ k ∈ q.conditions.keys, k ∈ q.schema.columnNames
  | update q =>
    q.assignments ≠ [] ∧ (∀ k ∈ q.assignments.keys, k ∈ q.schema.columnNames) ∧
      ∀ k ∈ q.conditions.keys, k ∈ q.schema.columnNames
  | join q =>
    2 ≤ q.schemas.length ∧ (∃ key, key ≠ [] ∧ ∀ s ∈ q.schemas, s.key = key) ∧
      ∀ k ∈ q.conditions.keys, ∃ s ∈ q.schemas, k ∈ s.columnNames

/-- The second query is the first with its lists in another order. -/
inductive Reordered : Query → Query → Prop
  | insert {q : Insert} {written : List (String × String)} (hwritten : q.written.Perm written) :
    Reordered (insert q) (insert { q with written })
  | select {q : Select} {fields : List String} {conditions : Bindings}
      (hfields : q.fields.Perm fields) (hconditions : q.conditions.Perm conditions) :
    Reordered (select q) (select { q with fields, conditions })
  | update {q : Update} {assignments conditions : Bindings}
      (hassignments : q.assignments.Perm assignments)
      (hconditions : q.conditions.Perm conditions) :
    Reordered (update q) (update { q with assignments, conditions })
  | join {q : Join} {schemas : List Schema} {conditions : Bindings}
      (hschemas : q.schemas.Perm schemas) (hconditions : q.conditions.Perm conditions) :
    Reordered (join q) (join ⟨schemas, conditions⟩)

variable {q q' : Query}

theorem fault?_eq_firstUnmet? (q : Query) : q.fault? = firstUnmet? q.checks := by
  cases q with
  | insert q => exact q.fault?_eq_firstUnmet?
  | select q => exact q.fault?_eq_firstUnmet?
  | update q => exact q.fault?_eq_firstUnmet?
  | join q => exact q.fault?_eq_firstUnmet?

theorem fault?_eq_none_iff : q.fault? = none ↔ q.Accepted := by
  cases q with
  | insert q => exact Insert.fault?_eq_none_iff
  | select q => exact Select.fault?_eq_none_iff
  | update q => exact Update.fault?_eq_none_iff
  | join q =>
    refine Join.fault?_eq_none_iff.trans (and_congr_right fun hlength => ?_)
    rw [← and_assoc, q.sharesKey_iff hlength]

/-- A query compiles with some markers exactly when it does with any. -/
theorem builds_iff {m : Marker} : (∃ s, q.build m = .ok s) ↔ q.Accepted := by
  rw [← fault?_eq_none_iff]
  constructor
  · rintro ⟨s, hs⟩
    exact (build_eq_ok.1 hs).1
  · intro hq
    exact ⟨_, build_eq_ok.2 ⟨hq, rfl⟩⟩

theorem Reordered.accepted_iff (h : Reordered q q') : q'.Accepted ↔ q.Accepted := by
  cases h with
  | insert hwritten => simp only [Accepted, hwritten.mem_iff]
  | select hfields hconditions =>
    have hkeys := hconditions.map Prod.fst
    simp only [Accepted, Bindings.keys, ne_eq, ← List.isEmpty_iff, hfields.isEmpty_eq,
      hfields.mem_iff, hkeys.mem_iff]
  | update hassignments hconditions =>
    have hset := hassignments.map Prod.fst
    have hkeys := hconditions.map Prod.fst
    simp only [Accepted, Bindings.keys, ne_eq, ← List.isEmpty_iff, hassignments.isEmpty_eq,
      hset.mem_iff, hkeys.mem_iff]
  | join hschemas hconditions =>
    have hkeys := hconditions.map Prod.fst
    simp only [Accepted, Bindings.keys, hschemas.length_eq, hschemas.mem_iff, hkeys.mem_iff]

/-- A query compiles exactly when it is accepted, and is otherwise refused with the fault of
the first check that is not met. With its lists in another order it compiles just as well. -/
theorem accepted_or_first_unmet (q : Query) (m : Marker) :
    ((∃ s, q.build m = .ok s) ↔ q.Accepted) ∧
      (∀ fault, q.build m = .error fault ↔ FirstUnmet q.checks fault) ∧
      ∀ q', Reordered q q' → ((∃ s, q'.build m = .ok s) ↔ ∃ s, q.build m = .ok s) := by
  refine ⟨builds_iff, fun fault => ?_, fun q' hq' => ?_⟩
  · rw [build_eq_error, fault?_eq_firstUnmet?, Check.firstUnmet?_eq_some_iff]
  · rw [builds_iff, builds_iff, hq'.accepted_iff]

/-- In another order the same join is refused for another reason. -/
example : (join ⟨[.single, .keyless], []⟩).fault? = some (.joinKeyMismatch "T" "T") ∧
    (join ⟨[.keyless, .single], []⟩).fault? = some (.misuse (.joinWithoutKey "T")) := by
  decide

end Query
end RowSql
