import RowSql.Proofs.Row.Writes

/-!
# Making a row

A row is made of positional values first and of named ones then, and each name must be that of
a column which is declared and still free. Whether all of them can be bound does not hang on
their order, but the fault does: it is that of the first name that does not fit. One name is
bound first, then a run of them. Main statement: `Row.binds_each_once`.
-/
namespace RowSql

namespace Bindings

/-- Names that have a value of their own come first, and the rest is looked up. -/
theorem map_lookup_zip_append {names : List String} {values : List Value}
    (hdistinct : names.Nodup) (h : values.length ≤ names.length) (b : Bindings) :
    names.map (fun name => (names.zip values ++ b).lookup name) =
      values.map some ++ (names.drop values.length).map fun name => b.lookup name := by
  induction names generalizing values with
  | nil =>
    have hnil : values = [] := List.length_eq_zero_iff.1 (Nat.le_zero.1 h)
    rw [hnil]
    rfl
  | cons name names ih =>
    cases values with
    | nil => rfl
    | cons v values =>
      obtain ⟨hnew, hdistinct⟩ := List.nodup_cons.1 hdistinct
      have hlater : names.map (fun other => ((name, v) :: (names.zip values ++ b)).lookup other) =
          names.map fun other => (names.zip values ++ b).lookup other := by
        refine List.map_congr_left fun other hother => ?_
        have hne : other ≠ name := fun heq => hnew (heq ▸ hother)
        rw [List.lookup_cons, beq_false_of_ne hne]
      rw [List.zip_cons_cons, List.cons_append, List.map_cons, hlater,
        ih hdistinct (Nat.le_of_succ_le_succ h), List.lookup_cons_self]
      rfl

end Bindings

namespace Row

variable {s : Schema} {r : Row} {taken names : List String} {name : String} {v : Value}
  {positional : List Value} {named : Bindings} {fault : Fault}

/-- Names that can be bound one after the other when the columns `taken` are bound. -/
structure Bindable (s : Schema) (taken names : List String) : Prop where
  declared : ∀ name ∈ names, name ∈ s.columnNames
  distinct : names.Nodup
  free : ∀ name ∈ names, name ∉ taken

/-- Why a name cannot be bound when the columns `taken` are bound. -/
inductive Refused (s : Schema) (taken : List String) (name : String) : Fault → Prop where
  | undeclared (h : name ∉ s.columnNames) : Refused s taken name (.undeclaredField s.name name)
  | repeated {place : Nat} (h : name ∈ taken) (hplace : s.columnNames[place]? = some name) :
      Refused s taken name (.alreadyBound name place)

/-- The fault of the first name that does not fit; the names before it are bound by then. -/
def FirstRefused (s : Schema) (taken names : List String) (fault : Fault) : Prop :=
  ∃ before name after, names = before ++ name :: after ∧ Bindable s taken before ∧
    Refused s (taken ++ before) name fault

theorem bindable_nil : Bindable s taken [] := ⟨by simp, .nil, by simp⟩

theorem bindable_cons : Bindable s taken (name :: names) ↔
    (name ∈ s.columnNames ∧ name ∉ taken) ∧ Bindable s (taken ++ [name]) names := by
  constructor
  · rintro ⟨hdeclared, hdistinct, hfree⟩
    obtain ⟨hname, hdeclared⟩ := List.forall_mem_cons.1 hdeclared
    obtain ⟨hnew, hdistinct⟩ := List.nodup_cons.1 hdistinct
    obtain ⟨hout, hfree⟩ := List.forall_mem_cons.1 hfree
    refine ⟨⟨hname, hout⟩, hdeclared, hdistinct, fun other hother hin => ?_⟩
    rcases List.mem_append.1 hin with hin | hin
    · exact hfree other hother hin
    · exact hnew (List.mem_singleton.1 hin ▸ hother)
  · rintro ⟨⟨hname, hout⟩, hdeclared, hdistinct, hfree⟩
    refine ⟨List.forall_mem_cons.2 ⟨hname, hdeclared⟩, List.nodup_cons.2 ⟨fun hin => ?_, hdistinct⟩,
      List.forall_mem_cons.2 ⟨hout, fun other hother hin => ?_⟩⟩
    · exact hfree name hin (by simp)
    · exact hfree other hother (List.mem_append_left _ hin)

theorem Bindable.perm {names' : List String} (h : Bindable s taken names)
    (hperm : names.Perm names') : Bindable s taken names' :=
  ⟨fun name hname => h.declared name (hperm.mem_iff.2 hname), hperm.nodup_iff.1 h.distinct,
    fun name hname => h.free name (hperm.mem_iff.2 hname)⟩

/-- Where not all names can be bound, there is a first that cannot. -/
theorem exists_firstRefused (h : ¬ Bindable s taken names) :
    ∃ fault, FirstRefused s taken names fault := by
  -- A name that fits is taken for those behind it, so `taken` grows along the names.
  induction names generalizing taken with
  | nil => exact absurd bindable_nil h
  | cons name names ih =>
    by_cases hname : name ∈ s.columnNames
    · by_cases hfree : name ∉ taken
      · obtain ⟨fault, before, other, after, rfl, hbefore, hrefused⟩ :=
          ih fun hrest => h (bindable_cons.2 ⟨⟨hname, hfree⟩, hrest⟩)
        rw [List.append_assoc, List.singleton_append] at hrefused
        exact ⟨fault, name :: before, other, after, rfl,
          bindable_cons.2 ⟨⟨hname, hfree⟩, hbefore⟩, hrefused⟩
      · obtain ⟨place, hplace⟩ := List.getElem?_of_mem hname
        have hrefused := Refused.repeated (s := s) (not_not.1 hfree) hplace
        exact ⟨_, [], name, names, rfl, bindable_nil, by simpa using hrefused⟩
    · exact ⟨_, [], name, names, rfl, bindable_nil, .undeclared hname⟩

/-! ## One name -/

/-- The columns `taken` are those that the row binds. -/
def Takes (r : Row) (taken : List String) : Prop := ∀ name, (r.value? name).isSome ↔ name ∈ taken

theorem Takes.value?_eq_none (htaken : r.Takes taken) (h : name ∉ taken) : r.value? name = none := by
  rwa [← Option.not_isSome_iff_eq_none, htaken]

/-- A name that is refused leaves no row. -/
theorem bind_of_refused (htaken : r.Takes taken)
    (h : Refused r.schema taken name fault) : r.bind name v = .error fault := by
  cases h with
  | undeclared h => simp only [bind, r.schema.position?_eq_none.2 h, undeclared]
  | repeated h hplace =>
    have hposition := r.schema.position?_eq_some_iff.2 hplace
    obtain ⟨w, hw⟩ := Option.isSome_iff_exists.1 ((htaken name).2 h)
    rw [value?_of_position? hposition] at hw
    have hcell := getElem?_cells (r.schema.lt_width_of_position? hposition)
    rw [hw] at hcell
    simp only [bind, hposition, hcell]

/-! ## A run of names -/

/-- The names before the first that is refused are bound, and then that one is refused. -/
theorem foldlM_bind_of_firstRefused (htaken : r.Takes taken)
    (h : FirstRefused r.schema taken named.keys fault) :
    named.foldlM (fun r p => r.bind p.1 p.2) r = .error fault := by
  obtain ⟨before, name, after, hkeys, hbefore, hrefused⟩ := h
  obtain ⟨front, back, rfl, rfl, hback⟩ := List.map_eq_append_iff.1 hkeys
  obtain ⟨p, back, rfl, rfl, rfl⟩ := List.map_eq_cons_iff.1 hback
  have hfree : ∀ k ∈ Bindings.keys front, r.value? k = none :=
    fun k hk => htaken.value?_eq_none (hbefore.free k hk)
  obtain ⟨next, hnext, hschema, hvalue⟩ := foldlM_bind hbefore.declared hbefore.distinct hfree
  have htaken' : next.Takes (taken ++ Bindings.keys front) := by
    intro name
    rw [hvalue, Option.isSome_or, Bool.or_eq_true, Bindings.isSome_lookup_iff, htaken,
      List.mem_append, or_comm]
  rw [List.foldlM_append, hnext]
  have hstop : next.bind p.1 p.2 = .error fault :=
    bind_of_refused htaken' (hschema.symm ▸ hrefused)
  have hrest : (p :: back).foldlM (fun r p => r.bind p.1 p.2) next = .error fault := by
    rw [List.foldlM_cons, hstop]
    rfl
  exact hrest

/-- All names can be bound, or the first that cannot is reported. -/
theorem foldlM_bind_eq_ok_iff (htaken : r.Takes taken) :
    (∃ r', named.foldlM (fun r p => r.bind p.1 p.2) r = .ok r') ↔
      Bindable r.schema taken named.keys := by
  constructor
  · rintro ⟨r', hr'⟩
    by_contra hnot
    obtain ⟨fault, hfault⟩ := exists_firstRefused hnot
    cases hr'.symm.trans (foldlM_bind_of_firstRefused htaken hfault)
  · intro h
    have hfree : ∀ k ∈ named.keys, r.value? k = none :=
      fun k hk => htaken.value?_eq_none (h.free k hk)
    obtain ⟨r', hr', -⟩ := foldlM_bind h.declared h.distinct hfree
    exact ⟨r', hr'⟩

theorem foldlM_bind_eq_error_iff (htaken : r.Takes taken) :
    named.foldlM (fun r p => r.bind p.1 p.2) r = .error fault ↔
      FirstRefused r.schema taken named.keys fault := by
  constructor
  · intro h
    have hnot : ¬ Bindable r.schema taken named.keys := by
      rw [← foldlM_bind_eq_ok_iff htaken]
      rintro ⟨r', hr'⟩
      cases h.symm.trans hr'
    obtain ⟨fault', hfault'⟩ := exists_firstRefused hnot
    cases h.symm.trans (foldlM_bind_of_firstRefused htaken hfault')
    exact hfault'
  · exact foldlM_bind_of_firstRefused htaken

/-! ## From positional values on -/

theorem keys_zip_columnNames (h : positional.length ≤ s.width) :
    Bindings.keys (s.columnNames.zip positional) = s.columnNames.take positional.length := by
  have hwidth : min s.columnNames.length positional.length = positional.length := by
    rw [s.length_columnNames, Nat.min_eq_right h]
  rw [Bindings.keys, List.zip_eq_zip_take_min, hwidth, List.map_fst_zip]
  rw [List.length_take, List.length_take]
  omega

/-- Positional values take the first columns, and naming goes on from there. -/
theorem exists_start (h : positional.length ≤ s.width) :
    ∃ start : Row, ofTuple s positional = .ok start ∧ start.schema = s ∧
      start.Takes (s.columnNames.take positional.length) ∧
      ∀ named : Bindings, construct s positional named =
        named.foldlM (fun r p => r.bind p.1 p.2) start := by
  obtain ⟨start, hstart⟩ : ∃ start, ofTuple s positional = .ok start := ⟨_, dif_pos h⟩
  refine ⟨start, hstart, (cells_of_ofTuple hstart).1, fun name => ?_, fun named => ?_⟩
  · rw [← lookup_bound, Bindings.isSome_lookup_iff, bound_of_ofTuple hstart,
      keys_zip_columnNames h]
  · rw [construct, hstart]
    rfl

theorem construct_of_lt (h : s.width < positional.length) :
    construct s positional named =
      .error (.tooManyValues s.name positional.length s.width) := by
  rw [construct, ofTuple, dif_neg (Nat.not_le.2 h)]
  rfl

/-- Values by position are as good as the same values under the names of the first columns. -/
theorem construct_eq_named (h : positional.length ≤ s.width) :
    construct s positional named = construct s [] (s.columnNames.zip positional ++ named) := by
  obtain ⟨start, hstart, hschema, -, hconstruct⟩ := exists_start h
  obtain ⟨empty, -, -, -, hempty⟩ := @exists_start s [] (Nat.zero_le _)
  have hnamed : (s.columnNames.zip positional).foldlM (fun r p => r.bind p.1 p.2) empty =
      .ok start := by
    rw [← hempty, ← bound_of_ofTuple hstart, ← hschema]
    exact start.ofNamed_bound
  rw [hconstruct, hempty, List.foldlM_append, hnamed]
  rfl

/-- The names with which a row was made differ from each other and from the first columns. -/
theorem nodup_keys_of_bindable (h : positional.length ≤ s.width)
    (hnamed : Bindable s (s.columnNames.take positional.length) named.keys) :
    (Bindings.keys (s.columnNames.zip positional ++ named)).Nodup := by
  have hkeys : Bindings.keys (s.columnNames.zip positional ++ named) =
      s.columnNames.take positional.length ++ named.keys := by
    rw [← keys_zip_columnNames h]
    exact List.map_append
  rw [hkeys, List.nodup_append']
  exact ⟨s.wellFormed.columns_distinct.sublist (List.take_sublist _ _), hnamed.distinct,
    fun name hfirst hname => hnamed.free name hname hfirst⟩

/-! ## Main statement -/

/-- What comes of positional and named values. -/
structure Constructs (s : Schema) (positional : List Value) (named : Bindings) : Prop where
  ok_iff : (∃ r, construct s positional named = .ok r) ↔ positional.length ≤ s.width ∧
    Bindable s (s.columnNames.take positional.length) named.keys
  cells_eq : ∀ r, construct s positional named = .ok r → r.schema = s ∧
    r.cells = positional.map some ++
      (s.columnNames.drop positional.length).map fun name => named.lookup name
  error_iff : ∀ fault, construct s positional named = .error fault ↔
    (s.width < positional.length ∧ fault = .tooManyValues s.name positional.length s.width) ∨
    (positional.length ≤ s.width ∧
      FirstRefused s (s.columnNames.take positional.length) named.keys fault)
  perm : ∀ named' : Bindings, named.Perm named' → ∀ r,
    construct s positional named' = .ok r ↔ construct s positional named = .ok r
  all_named : positional.length ≤ s.width →
    construct s positional named = construct s [] (s.columnNames.zip positional ++ named)

theorem construct_eq_ok_iff : (∃ r, construct s positional named = .ok r) ↔
    positional.length ≤ s.width ∧
      Bindable s (s.columnNames.take positional.length) named.keys := by
  by_cases h : positional.length ≤ s.width
  · obtain ⟨start, -, hschema, htaken, hconstruct⟩ := exists_start h
    rw [hconstruct, foldlM_bind_eq_ok_iff htaken, hschema]
    exact (and_iff_right h).symm
  · rw [construct_of_lt (Nat.not_le.1 h)]
    constructor
    · rintro ⟨r, hr⟩
      cases hr
    · rintro ⟨hwidth, -⟩
      exact absurd hwidth h

theorem construct_eq_error_iff : construct s positional named = .error fault ↔
    (s.width < positional.length ∧ fault = .tooManyValues s.name positional.length s.width) ∨
    (positional.length ≤ s.width ∧
      FirstRefused s (s.columnNames.take positional.length) named.keys fault) := by
  by_cases h : positional.length ≤ s.width
  · obtain ⟨start, -, hschema, htaken, hconstruct⟩ := exists_start h
    rw [hconstruct, foldlM_bind_eq_error_iff htaken, hschema]
    simp [h, Nat.not_lt.2 h]
  · rw [construct_of_lt (Nat.not_le.1 h)]
    simp [h, Nat.not_le.1 h, eq_comm]

theorem cells_of_construct {r : Row} (h : construct s positional named = .ok r) :
    r.cells = positional.map some ++
      (s.columnNames.drop positional.length).map fun name => named.lookup name := by
  obtain ⟨hwidth, hnamed⟩ := construct_eq_ok_iff.1 ⟨r, h⟩
  have hlast : Bindings.last? (s.columnNames.zip positional ++ named) =
      fun name => List.lookup name (s.columnNames.zip positional ++ named) :=
    funext (Bindings.last?_eq_lookup (nodup_keys_of_bindable hwidth hnamed))
  rw [(filled_of_construct h).keepsLast.cells_eq, hlast]
  exact Bindings.map_lookup_zip_append s.wellFormed.columns_distinct
    (by rwa [s.length_columnNames]) named

/-- Names in another order make the same row. -/
theorem construct_of_perm {named' : Bindings} (hperm : named.Perm named') {r : Row}
    (h : construct s positional named = .ok r) : construct s positional named' = .ok r := by
  obtain ⟨hwidth, hnamed⟩ := construct_eq_ok_iff.1 ⟨r, h⟩
  obtain ⟨r', hr'⟩ := construct_eq_ok_iff.2 ⟨hwidth, hnamed.perm (hperm.map Prod.fst)⟩
  have hcells : r'.cells = r.cells := by
    rw [cells_of_construct hr', cells_of_construct h]
    congr 2
    exact funext (Bindings.lookup_eq_of_perm hnamed.distinct hperm)
  have hschema : r'.schema = r.schema :=
    (filled_of_construct hr').schema_eq.trans (filled_of_construct h).schema_eq.symm
  have hsame : r' = r := by
    cases r
    cases r'
    simp_all
  rw [hr', hsame]

/-- A row is made exactly when the positional values find columns and each name is that of a
column which nothing else is bound to. Otherwise the first name that does not fit is reported. -/
theorem binds_each_once (s : Schema) (positional : List Value) (named : Bindings) :
    Constructs s positional named where
  ok_iff := construct_eq_ok_iff
  cells_eq := fun _ h => ⟨(filled_of_construct h).schema_eq, cells_of_construct h⟩
  error_iff := fun _ => construct_eq_error_iff
  perm := fun _ hperm _ => ⟨construct_of_perm hperm.symm, construct_of_perm hperm⟩
  all_named := construct_eq_named

end Row
end RowSql
