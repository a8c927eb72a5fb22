import RowSql.Proofs.Query.Assignments
import RowSql.Proofs.Unpack.Atomic

/-!
# Looking up by key

A look-up by key is a selection with one condition for each field of the key, in the order of
the key. The number of values is all that is checked, and a schema need not have a key: without
one there is no condition, and the look-up asks for the whole table. Main statement:
`Select.lookUps_restricted_iff_keyed`.
-/
namespace RowSql

namespace Select

variable {s : Schema} {values : List Value} {m : Marker}

/-! ## What a look-up compiles to -/

/-- A condition for each field of the key. -/
def keyConditions (s : Schema) (m : Marker) : List String :=
  s.key.mapIdx fun i k => k ++ "=" ++ m.mark (1 + i)

/-- The selection of every row. -/
def everything (s : Schema) : String := "select * from " ++ s.table

def lookUp (s : Schema) (values : List Value) (m : Marker) : Statement where
  sql := if s.key = [] then everything s
    else everything s ++ " where " ++ " and ".intercalate (keyConditions s m)
  parameters := values

/-- A statement that asks of each field of the key to have the value given for it: one condition
for each field, one parameter for each condition, and at least one of them. -/
structure Restricts (s : Schema) (values : List Value) (m : Marker) (st : Statement) : Prop where
  sql_eq : st.sql = everything s ++ " where " ++ " and ".intercalate (keyConditions s m)
  parameters_eq : st.parameters = values
  one_each : st.parameters.length = (keyConditions s m).length
  distinct : s.key.Nodup
  some_condition : keyConditions s m ≠ []

theorem keyConditions_eq_nil_iff : keyConditions s m = [] ↔ s.key = [] :=
  List.mapIdx_eq_nil_iff

theorem byKey_of_length (h : values.length = s.key.length) :
    byKey s values = .ok { schema := s, conditions := s.key.zip values } := by
  rw [byKey, Schema.keyBindings, if_pos h]
  rfl

theorem byKey_of_length_ne (h : values.length ≠ s.key.length) :
    byKey s values = .error (.keyMismatch s.key values) := by
  rw [byKey, Schema.keyBindings, if_neg h]
  rfl

/-- The fields of a key are declared, so all that can be wrong is the number of values. -/
theorem byKey_eq_error_iff {fault : Fault} : byKey s values = .error fault ↔
    values.length ≠ s.key.length ∧ fault = .keyMismatch s.key values := by
  by_cases h : values.length = s.key.length
  · rw [byKey_of_length h]
    simp [h]
  · rw [byKey_of_length_ne h]
    simp [h, eq_comm]

theorem keys_zip_key (h : values.length = s.key.length) :
    Bindings.keys (s.key.zip values) = s.key := List.map_fst_zip (Nat.le_of_eq h.symm)

theorem values_zip_key (h : values.length = s.key.length) :
    Bindings.values (s.key.zip values) = values := List.map_snd_zip (Nat.le_of_eq h)

theorem render_pieces_byKey (h : values.length = s.key.length) (m : Marker) :
    (pieces { schema := s, conditions := s.key.zip values }).render m = lookUp s values m := by
  have hkeys := keys_zip_key h
  have htext : Template.sqlFrom m 1 (pieces { schema := s, conditions := s.key.zip values }) =
      everything s ++ Template.sqlFrom m 1 (Template.conditions (s.key.zip values)) := by
    simp [pieces, Template.sqlFrom, Template.sqlFrom_append, orderText, limitText, lockText,
      everything]
  have hparameters :
      Template.parameters (pieces { schema := s, conditions := s.key.zip values }) = values := by
    simp [pieces, Template.parameters, values_zip_key h]
  rw [Template.render, htext, hparameters, lookUp]
  split
  · -- No condition is left to write, and the clause is left out with them.
    rename_i hkey
    rw [hkey, List.zip_nil_left, Template.conditions, Template.sqlFrom, String.append_empty]
  · rename_i hkey
    have hconditions : s.key.zip values ≠ [] := fun hnil => hkey (by rw [← hkeys, hnil]; rfl)
    rw [Template.sqlFrom_conditions hconditions, Template.sqlFrom_assignments, hkeys,
      ← String.append_assoc]
    rfl

theorem build_byKey (h : values.length = s.key.length) :
    ∃ q, byKey s values = .ok q ∧ ∀ m, (Query.select q).build m = .ok (lookUp s values m) := by
  refine ⟨_, byKey_of_length h, fun m => Query.build_eq_ok.2 ⟨?_, render_pieces_byKey h m⟩⟩
  refine fault?_eq_none_iff.2 ⟨by simp, by simp, ?_⟩
  rw [keys_zip_key h]
  exact s.wellFormed.key_declared

/-! ## When it is restricted -/

theorem restricts_lookUp_iff (h : values.length = s.key.length) :
    Restricts s values m (lookUp s values m) ↔ s.key ≠ [] := by
  constructor
  · intro hrestricts hkey
    exact hrestricts.some_condition (keyConditions_eq_nil_iff.2 hkey)
  · intro hkey
    refine ⟨if_neg hkey, rfl, ?_, s.wellFormed.key_distinct, mt keyConditions_eq_nil_iff.1 hkey⟩
    rw [keyConditions, List.length_mapIdx]
    exact h

theorem sql_lookUp_eq_everything_iff : (lookUp s values m).sql = everything s ↔ s.key = [] := by
  rw [lookUp]
  split
  · rename_i hkey
    exact iff_of_true rfl hkey
  · rename_i hkey
    refine iff_of_false ?_ hkey
    rw [String.append_assoc, String.append_eq_left_iff]
    simp

/-! ## Main statement -/

/-- What becomes of look-ups by the key of a schema, as a query and on a cursor. -/
structure LooksUp (s : Schema) : Prop where
  refused_iff : ∀ values fault, byKey s values = .error fault ↔
    values.length ≠ s.key.length ∧ fault = .keyMismatch s.key values
  built : ∀ values, values.length = s.key.length →
    ∃ q, byKey s values = .ok q ∧ ∀ m, (Query.select q).build m = .ok (lookUp s values m)
  left_alone : ∀ (c : Cursor) values, values.length ≠ s.key.length →
    (c.find s values).result = .error (.keyMismatch s.key values) ∧ (c.find s values).cursor = c
  executed : ∀ (c : Cursor) values, values.length = s.key.length →
    Cursor.Ran c (lookUp s values c.marker) s.rows (c.find s values)
  restricted_iff : ∀ values m, values.length = s.key.length →
    (Restricts s values m (lookUp s values m) ↔ s.key ≠ [])
  everything_iff : ∀ values m, (lookUp s values m).sql = everything s ↔ s.key = []

/-- A look-up that is not refused asks for the rows with the given key when the schema has a key,
and for all rows when it has none. -/
theorem lookUps_restricted_iff_keyed (s : Schema) : LooksUp s where
  refused_iff := fun _ _ => byKey_eq_error_iff
  built := fun _ => build_byKey
  left_alone := by
    intro c values h
    rw [Cursor.find, byKey_of_length_ne h]
    exact ⟨rfl, rfl⟩
  executed := by
    intro c values h
    obtain ⟨q, hq, hbuild⟩ := build_byKey h
    refine (c.atomic_find s values).ran _ ?_
    rw [Cursor.askedOfFind, hq]
    exact hbuild c.marker
  restricted_iff := fun _ _ => restricts_lookUp_iff
  everything_iff := fun _ _ => sql_lookUp_eq_everything_iff

end Select

/-- A cursor over a table with two rows. -/
def Cursor.overTwoRows : Cursor := { tape := { script := [.ok [[.int 1], [.int 2]]] } }

/-- No values are as many as a schema without a key asks for, and they find both rows. -/
theorem Select.keyless_lookUp_finds_all :
    (Cursor.overTwoRows.find Schema.keyless []).cursor.tape.executed =
        [⟨"select * from t", []⟩] ∧
      (∃ rows, (Cursor.overTwoRows.find Schema.keyless []).result = .ok rows ∧ rows.length = 2) ∧
      ¬ Restricts Schema.keyless [] .percent ⟨"select * from t", []⟩ :=
  ⟨by decide, ⟨_, rfl, rfl⟩, fun h => h.some_condition rfl⟩

end RowSql
