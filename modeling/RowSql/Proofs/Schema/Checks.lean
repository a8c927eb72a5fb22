import Mathlib.Data.List.Infix
import RowSql.Proofs.Catalog.Registrations
import RowSql.Proofs.Row.Bound

/-!
# Checks of a declaration

What is asked of a declaration is one list of checks, each with the fault that reports it: its
name and its table, then the columns, the key and the indexes from left to right. The search for
a fault keeps the names it has passed; in the list every check knows the entries before its own.
Main statement: a declaration builds exactly when it is well formed, and otherwise the fault is
that of the first check in the list that is not met; a declaration that fails, in its checks or
because its table is taken, leaves the catalog as it was.
-/
namespace RowSql

/-- What is asked of a declaration, and the fault that reports that it is not so. -/
structure Check where
  met : Bool
  fault : Fault

namespace Check

/-- The fault of the first check that is not met. -/
def firstUnmet? (checks : List Check) : Option Fault :=
  checks.findSome? fun k => if k.met then none else some k.fault

/-- All checks before some check are met, that one is not, and `fault` reports it. -/
def FirstUnmet (checks : List Check) (fault : Fault) : Prop :=
  ∃ before k after, checks = before ++ k :: after ∧ (∀ b ∈ before, b.met = true) ∧
    k.met = false ∧ k.fault = fault

/-- The checks of one entry after the other, given the names of the entries before it. -/
def inTurn {α : Type} (name : α → String) (checks : List String → α → List Check)
    (l : List α) : List Check :=
  (l.inits.zip l).flatMap fun e => checks (e.1.map name) e.2

variable {checks : List Check} {fault : Fault}

@[simp] theorem firstUnmet?_nil : firstUnmet? [] = none := rfl

@[simp] theorem firstUnmet?_cons (k : Check) (checks : List Check) :
    firstUnmet? (k :: checks) =
      (if k.met then none else some k.fault).or (firstUnmet? checks) := by
  rw [firstUnmet?, List.findSome?_cons]
  split <;> simp_all [firstUnmet?]

@[simp] theorem firstUnmet?_append (checks later : List Check) :
    firstUnmet? (checks ++ later) = (firstUnmet? checks).or (firstUnmet? later) :=
  List.findSome?_append

theorem firstUnmet?_eq_none_iff : firstUnmet? checks = none ↔ ∀ k ∈ checks, k.met = true := by
  simp [firstUnmet?, List.findSome?_eq_none_iff]

theorem firstUnmet?_eq_some_iff : firstUnmet? checks = some fault ↔ FirstUnmet checks fault := by
  rw [firstUnmet?, List.findSome?_eq_some_iff]
  constructor
  · rintro ⟨before, k, after, hchecks, hk, hbefore⟩
    refine ⟨before, k, after, hchecks, fun b hb => by simpa using hbefore b hb, ?_⟩
    cases hmet : k.met <;> simp_all
  · rintro ⟨before, k, after, hchecks, hbefore, hk, rfl⟩
    exact ⟨before, k, after, hchecks, by simp [hk], fun b hb => by simp [hbefore b hb]⟩

/-- A search through a list that keeps the names it has passed finds the first check that is
not met, when it looks at the checks of each entry. -/
theorem scan_eq_firstUnmet? {α : Type} {name : α → String}
    {checks : List String → α → List Check} {scan : List String → List α → Option Fault}
    (hnil : ∀ passed, scan passed [] = none)
    (hcons : ∀ passed a rest, scan passed (a :: rest) =
      (firstUnmet? (checks passed a)).or (scan (name a :: passed) rest))
    (horder : ∀ passed a, checks passed.reverse a = checks passed a) (l : List α) :
    scan [] l = firstUnmet? (inTurn name checks l) := by
  -- The names that were passed stand behind those of the entries before, both from last to first.
  have hpassed : ∀ passed, scan passed l = firstUnmet? ((l.inits.zip l).flatMap fun e =>
      checks ((e.1.map name).reverse ++ passed) e.2) := by
    induction l with
    | nil => simpa using hnil
    | cons a rest ih =>
      intro passed
      rw [hcons, ih, List.inits_cons, List.zip_cons_cons, List.flatMap_cons, firstUnmet?_append,
        List.zip_map_left, List.flatMap_map]
      simp
  simpa [inTurn, horder] using hpassed []

end Check

namespace Declaration

open Check

def labelChecks (schema field : String) (earlier : List String) (label : String) : List Check :=
  [⟨Label.IsQuotable label, .invalidIdentifier label⟩,
    ⟨label ∉ earlier, .misuse (.repeatedLabel schema field label)⟩]

def typeChecks (schema : String) (c : Column) : List Check :=
  match c.labels? with
  | none => []
  | some labels =>
    ⟨labels ≠ [], .misuse (.enumWithoutLabels schema c.name)⟩ ::
      inTurn id (labelChecks schema c.name) labels

def columnChecks (schema : String) (earlier : List String) (c : Column) : List Check :=
  ⟨Name.IsPlain c.name, .invalidIdentifier c.name⟩ ::
    ⟨c.name ∉ earlier, .duplicateField schema c.name⟩ :: typeChecks schema c

def keyChecks (schema : String) (names earlier : List String) (k : String) : List Check :=
  [⟨k ∈ names, .unknownField schema k⟩, ⟨k ∉ earlier, .duplicateField schema k⟩]

variable (d : Declaration)

/-- All that is asked of a declaration, in the order of its parts. -/
def checks : List Check :=
  [⟨Name.IsPlain d.name, .invalidIdentifier d.name⟩,
      ⟨Name.IsPlain d.table, .invalidIdentifier d.table⟩] ++
    inTurn Column.name (columnChecks d.name) d.columns ++
    inTurn id (keyChecks d.name d.columnNames) d.key ++
    (d.indexes.flatMap Index.fields).map fun f =>
      ⟨f ∈ d.columnNames, .unknownField d.name f⟩

theorem labelFault?_eq_firstUnmet? (schema field : String) (labels : List String) :
    labelFault? schema field [] labels =
      firstUnmet? (inTurn id (labelChecks schema field) labels) := by
  apply scan_eq_firstUnmet?
  · intro passed
    rfl
  · intro passed label rest
    simp [labelFault?, labelChecks, Label.fault?]
  · intro passed label
    simp [labelChecks]

theorem enumFault?_eq_firstUnmet? (schema : String) (c : Column) :
    enumFault? schema c = firstUnmet? (typeChecks schema c) := by
  unfold enumFault? typeChecks
  cases c.labels? with
  | none => rfl
  | some labels =>
    cases labels with
    | nil => rfl
    | cons label rest => simp [labelFault?_eq_firstUnmet?]

theorem columnFault?_eq_firstUnmet? (schema : String) (columns : List Column) :
    columnFault? schema [] columns =
      firstUnmet? (inTurn Column.name (columnChecks schema) columns) := by
  apply scan_eq_firstUnmet?
  · intro passed
    rfl
  · intro passed c rest
    simp [columnFault?, columnChecks, Name.fault?, enumFault?_eq_firstUnmet?, Option.or_assoc]
  · intro passed c
    simp [columnChecks]

theorem keyFault?_eq_firstUnmet? (schema : String) (names key : List String) :
    keyFault? schema names [] key = firstUnmet? (inTurn id (keyChecks schema names) key) := by
  apply scan_eq_firstUnmet?
  · intro passed
    rfl
  · intro passed k rest
    simp [keyFault?, keyChecks]
  · intro passed k
    simp [keyChecks]

theorem undeclared?_eq_firstUnmet? (schema : String) (names fields : List String) :
    undeclared? schema names fields =
      firstUnmet? (fields.map fun f => ⟨f ∈ names, .unknownField schema f⟩) := by
  simp [undeclared?, firstUnmet?, List.findSome?_map, Function.comp_def]

theorem fault?_eq_firstUnmet? : d.fault? = firstUnmet? d.checks := by
  simp [fault?, checks, Name.fault?, columnFault?_eq_firstUnmet?, keyFault?_eq_firstUnmet?,
    undeclared?_eq_firstUnmet?, Option.or_assoc]

/-- Nothing but the well-formedness of a declaration is asked. -/
theorem all_met_iff : (∀ k ∈ d.checks, k.met = true) ↔ d.WellFormed := by
  rw [← firstUnmet?_eq_none_iff, ← fault?_eq_firstUnmet?, fault?_eq_none]

variable {d} {fault : Fault}

theorem build_eq_error_iff : d.build = .error fault ↔ FirstUnmet d.checks fault := by
  rw [build_eq_error, fault?_eq_firstUnmet?, firstUnmet?_eq_some_iff]

theorem build_eq_ok_of_wellFormed (h : d.WellFormed) : d.build = .ok ⟨d, h⟩ :=
  build_eq_ok.2 rfl

theorem builds_iff : (∃ s, d.build = .ok s) ↔ d.WellFormed := by
  constructor
  · rintro ⟨s, hs⟩
    rw [← build_eq_ok.1 hs]
    exact s.wellFormed
  · intro h
    exact ⟨_, build_eq_ok_of_wellFormed h⟩

end Declaration

namespace Catalog

/-- All that a declaration in a catalog can do: it is refused for what it is, refused because
its table is taken, or registered. -/
theorem declare_cases (c : Catalog) (serial : Nat) (d : Declaration) :
    (∃ fault, d.build = .error fault ∧ (declare serial d).run c = (.error fault, c)) ∨
    (∃ first, d.WellFormed ∧ c.find? d.table = some first ∧ (declare serial d).run c =
      (.error (.duplicateTable d.table first.schema.origin.shown), c)) ∨
    (∃ s c', d.build = .ok s ∧ c.find? d.table = none ∧ (declare serial d).run c =
      (.ok (⟨serial, s⟩, reported ⟨serial, s⟩), c') ∧ c'.entries = c.entries ++ [⟨serial, s⟩]) := by
  cases hbuild : d.build with
  | error fault =>
    refine Or.inl ⟨fault, rfl, ?_⟩
    rw [declare, hbuild]
    rfl
  | ok s =>
    obtain rfl := Declaration.build_eq_ok.1 hbuild
    rcases c.register_cases ⟨serial, s⟩ with ⟨first, hfirst, herror⟩ | ⟨c', hnone, hok, hc'⟩
    · refine Or.inr (Or.inl ⟨first, s.wellFormed, hfirst, ?_⟩)
      simp only [declare, hbuild, StateT.run_bind, StateT.run_get, pure_bind, herror]
      rfl
    · refine Or.inr (Or.inr ⟨s, c', rfl, hnone, ?_, hc'⟩)
      simp only [declare, hbuild, StateT.run_bind, StateT.run_get, pure_bind, hok]
      rfl

end Catalog

/-- What comes of a declaration, checked on its own or declared in a catalog. -/
structure Declaration.Decided (d : Declaration) : Prop where
  builds_iff : (∃ s, d.build = .ok s) ↔ d.WellFormed
  /-- The schema has the name, the columns, the key and the indexes of its declaration. -/
  kept : ∀ s, d.build = .ok s → s.toDeclaration = d
  placed : ∀ s, d.build = .ok s → ∀ i c, d.columns[i]? = some c → s.position? c.name = some i
  fault_iff : ∀ fault, d.build = .error fault ↔ Check.FirstUnmet d.checks fault
  all_met_iff : (∀ k ∈ d.checks, k.met = true) ↔ d.WellFormed
  declares_iff : ∀ c serial, (∃ answer c', (Catalog.declare serial d).run c = (.ok answer, c')) ↔
    d.WellFormed ∧ c.find? d.table = none
  declared : ∀ c serial s event c', (Catalog.declare serial d).run c = (.ok (s, event), c') →
    d.build = .ok s.schema ∧ c'.entries = c.entries ++ [s]
  /-- What is refused leaves the catalog as it was. -/
  refused : ∀ c serial fault c', (Catalog.declare serial d).run c = (.error fault, c') →
    c' = c ∧ (Check.FirstUnmet d.checks fault ∨ ∃ first, d.WellFormed ∧
      c.find? d.table = some first ∧
      fault = .duplicateTable d.table first.schema.origin.shown)

namespace Declaration

variable {d : Declaration}

theorem position?_of_build {s : Schema} (h : d.build = .ok s) {i : Nat} {c : Column}
    (hc : d.columns[i]? = some c) : s.position? c.name = some i := by
  rw [← build_eq_ok.1 h] at hc
  rw [Schema.position?_eq_some_iff, columnNames, List.getElem?_map, hc]
  rfl

theorem declares_iff (c : Catalog) (serial : Nat) :
    (∃ answer c', (Catalog.declare serial d).run c = (.ok answer, c')) ↔
      d.WellFormed ∧ c.find? d.table = none := by
  rcases c.declare_cases serial d with ⟨fault, hbuild, hrun⟩ | ⟨first, -, hfirst, hrun⟩ |
    ⟨s, c', hbuild, hnone, hrun, -⟩
  · constructor
    · rintro ⟨answer, c', h⟩
      rw [hrun] at h
      cases h
    · rintro ⟨hd, -⟩
      rw [build_eq_ok_of_wellFormed hd] at hbuild
      cases hbuild
  · constructor
    · rintro ⟨answer, c', h⟩
      rw [hrun] at h
      cases h
    · rintro ⟨-, hnone⟩
      rw [hfirst] at hnone
      cases hnone
  · constructor
    · intro _
      exact ⟨builds_iff.1 ⟨s, hbuild⟩, hnone⟩
    · intro _
      exact ⟨_, _, hrun⟩

/-- A declaration builds exactly when it is well formed, into a schema that has all it says; it
is refused with the fault of the first check that is not met. In a catalog its table must be
free as well, and whatever is refused leaves the catalog as it was. -/
theorem decided (d : Declaration) : d.Decided where
  builds_iff := builds_iff
  kept _ := build_eq_ok.1
  placed _ h _ _ := position?_of_build h
  fault_iff _ := build_eq_error_iff
  all_met_iff := d.all_met_iff
  declares_iff := declares_iff
  declared := by
    intro c serial s event c' h
    rcases c.declare_cases serial d with ⟨fault, -, hrun⟩ | ⟨first, -, -, hrun⟩ |
      ⟨s', c'', hbuild, -, hrun, hentries⟩ <;> rw [hrun] at h <;> cases h
    exact ⟨hbuild, hentries⟩
  refused := by
    intro c serial fault c' h
    rcases c.declare_cases serial d with ⟨fault', hbuild, hrun⟩ | ⟨first, hd, hfirst, hrun⟩ |
      ⟨s', c'', -, -, hrun, -⟩ <;> rw [hrun] at h <;> cases h
    · exact ⟨rfl, Or.inl (build_eq_error_iff.1 hbuild)⟩
    · exact ⟨rfl, Or.inr ⟨first, hd, hfirst, rfl⟩⟩

/-- The labels of a column come before the next column, and all columns before the key. -/
example : (⟨"T", [⟨"a", .enum ["x", "y", "x"]⟩, ⟨"1", .scalar .int⟩], ["b"], [],
    .callSite "models" 7⟩ : Declaration).fault? = some (.misuse (.repeatedLabel "T" "a" "x")) := by
  decide

end Declaration
end RowSql
