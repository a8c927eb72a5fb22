import Mathlib.Data.List.Induction
import RowSql.Wire.Decode
import RowSql.Wire.Encode

/-!
# Numbers, elements and arrays on the wire

What the readers of whole numbers, of elements and of arrays accept, as relations between bytes
and values. What is later said about arrays, read or written, is said about these relations.
Main statements: `intOfBytes_bytesOfInt`, `intOfBytes_bounds`, `readElements_eq_ok_iff` and
`decodeArray_eq_ok_iff`.
-/
namespace RowSql
namespace Wire

/-! ## Whole numbers -/

/-- The numbers of so many bytes with a sign are those from `-signBit` up to `signBit`. -/
def signBit (width : Nat) : Nat := Nat.pow 2 (8 * width - 1)

theorem capacity_eq {width : Nat} (some_bytes : 0 < width) :
    capacity width = 2 * signBit width := by
  obtain ⟨w, rfl⟩ := Nat.exists_eq_add_one_of_ne_zero (Nat.ne_of_gt some_bytes)
  calc capacity (w + 1) = (2 ^ 8) ^ (w + 1) := rfl
    _ = 2 ^ (8 * (w + 1) - 1 + 1) := by rw [← Nat.pow_mul]; congr 1
    _ = 2 * signBit (w + 1) := Nat.pow_succ'

theorem signBit_le {width : Nat} (narrow : width ≤ 8) : signBit width ≤ 0x8000000000000000 :=
  calc signBit width ≤ signBit 8 := Nat.pow_le_pow_right Nat.two_pos (by omega)
    _ = 0x8000000000000000 := by decide

theorem ofBigEndian_lt (bs : Bytes) : ofBigEndian bs < capacity bs.length := by
  induction bs using List.reverseRecOn with
  | nil => decide
  | append_singleton bs b ih =>
    have digit : b.toNat < 256 := b.toNat_lt
    rw [ofBigEndian_append_singleton, List.length_append, List.length_singleton, capacity_succ]
    omega

theorem intOfBytes_bounds {bs : Bytes} (some_bytes : 0 < bs.length) :
    -(signBit bs.length : Int) ≤ intOfBytes bs ∧ intOfBytes bs < signBit bs.length := by
  have below := ofBigEndian_lt bs
  have whole := capacity_eq some_bytes
  simp only [intOfBytes]
  split <;> omega

theorem intOfBytes_bigEndian {width n : Nat} (small : 2 * n < capacity width) :
    intOfBytes (bigEndian width n) = n := by
  have fits : n % capacity width = n := Nat.mod_eq_of_lt (by omega)
  simp [intOfBytes, ofBigEndian_bigEndian, fits, small]

theorem intOfBytes_length {n : Nat} (short : n ≤ maxLength) :
    intOfBytes (bigEndian 4 n) = n :=
  intOfBytes_bigEndian <| by
    have room : 2 * maxLength < capacity 4 := by decide
    omega

theorem intOfBytes_bytesOfInt {width : Nat} {i : Int} (some_bytes : 0 < width)
    (low : -(signBit width : Int) ≤ i) (high : i < signBit width) :
    intOfBytes (bytesOfInt width i) = i := by
  have whole := capacity_eq some_bytes
  simp only [intOfBytes, bytesOfInt, ofBigEndian_bigEndian, length_bigEndian]
  by_cases hneg : i < 0
  · have residue : i % (capacity width : Int) = i + capacity width := by
      rw [← Int.add_emod_right, Int.emod_eq_of_lt] <;> omega
    have natural : (i + capacity width).toNat % capacity width = (i + capacity width).toNat :=
      Nat.mod_eq_of_lt (by omega)
    rw [residue, natural, if_neg (by omega)]
    omega
  · have residue : i % (capacity width : Int) = i := Int.emod_eq_of_lt (by omega) (by omega)
    have natural : i.toNat % capacity width = i.toNat := Nat.mod_eq_of_lt (by omega)
    rw [residue, natural, if_pos (by omega)]
    omega

theorem encodeInt_eq_ok_iff {width : Nat} {i : Int} {bs : Bytes} (some_bytes : 0 < width) :
    encodeInt width i = .ok bs ↔
      (-(signBit width : Int) ≤ i ∧ i < signBit width) ∧ bytesOfInt width i = bs := by
  have half : capacity width / 2 = signBit width := by
    have whole := capacity_eq some_bytes
    omega
  rw [encodeInt, half]
  grind

/-! ## Reading from the front -/

theorem bind_eq_ok_iff {α β : Type} {x : Except WireFault α} {f : α → Except WireFault β} {b : β} :
    (x >>= f) = .ok b ↔ ∃ a, x = .ok a ∧ f a = .ok b := by
  cases x <;> simp [bind, Except.bind]

theorem guarded_eq_ok_iff {α β : Type} {c : Prop} [Decidable c] {fault : WireFault}
    {f : α → Except WireFault β} {x : Except WireFault β} {b : β} :
    (if c then throw fault >>= f else x) = .ok b ↔ ¬ c ∧ x = .ok b := by
  by_cases hc : c <;> simp [hc, throw, throwThe, MonadExceptOf.throw, bind, Except.bind]

theorem front?_eq_some_iff {width : Nat} {bs own rest : Bytes} :
    front? width bs = some (own, rest) ↔ own.length = width ∧ bs = own ++ rest := by
  constructor
  · intro h
    have long : ¬ bs.length < width := by
      rw [← front?_eq_none_iff, h]
      exact Option.some_ne_none _
    simp only [front?, List.length_take] at h
    rw [if_neg (by omega)] at h
    cases h
    exact ⟨by simp; omega, (List.take_append_drop width bs).symm⟩
  · rintro ⟨rfl, rfl⟩
    exact front?_append own rest

theorem readInt_append {width : Nat} {front : Bytes} (wide : front.length = width)
    (rest : Bytes) : readInt width (front ++ rest) = .ok (intOfBytes front, rest) := by
  subst wide
  rw [readInt, takeBytes, front?_append]
  rfl

theorem readInt_eq_ok_iff {width : Nat} {bs rest : Bytes} {i : Int} :
    readInt width bs = .ok (i, rest) ↔
      ∃ front, front.length = width ∧ bs = front ++ rest ∧ intOfBytes front = i := by
  constructor
  · intro h
    rw [readInt, takeBytes] at h
    cases hfront : front? width bs with
    | none => simp [hfront, Except.map] at h
    | some r =>
      obtain ⟨front, later⟩ := r
      obtain ⟨wide, rfl⟩ := front?_eq_some_iff.1 hfront
      rw [hfront] at h
      cases h
      exact ⟨front, wide, rfl, rfl⟩
  · rintro ⟨front, wide, rfl, rfl⟩
    exact readInt_append wide rest

/-! ## Elements -/

/-- The bytes of elements one after the other: each has its length before it, and a length
below zero stands for a null. -/
inductive Framed (element : Bytes → Except WireFault Value) : Bytes → List Value → Prop
  | nil : Framed element [] []
  | null {size rest : Bytes} {items : List Value} (wide : size.length = 4)
      (below : intOfBytes size < 0) (later : Framed element rest items) :
      Framed element (size ++ rest) (.null :: items)
  | held {size own rest : Bytes} {v : Value} {items : List Value} (wide : size.length = 4)
      (sized : intOfBytes size = own.length) (read : element own = .ok v)
      (later : Framed element rest items) :
      Framed element (size ++ (own ++ rest)) (v :: items)

variable {element : Bytes → Except WireFault Value} {bs : Bytes} {items : List Value}

theorem Framed.readElements (h : Framed element bs items) :
    readElements element items.length bs = .ok items := by
  induction h with
  | nil => rfl
  | null wide below later ih =>
    simp [Wire.readElements, readInt_append wide, below, ih, bind, Except.bind, pure, Except.pure]
  | @held size own rest v items wide sized read later ih =>
    have front : front? (intOfBytes size).toNat (own ++ rest) = some (own, rest) := by
      rw [sized]
      exact front?_append own rest
    have nonneg : ¬ intOfBytes size < 0 := by omega
    simp [Wire.readElements, readInt_append wide, nonneg, front, read, ih, bind, Except.bind,
      pure, Except.pure]

theorem framed_of_readElements {count : Nat} (h : readElements element count bs = .ok items) :
    Framed element bs items ∧ items.length = count := by
  induction count generalizing bs items with
  | zero =>
    rw [readElements] at h
    split at h
    · cases h
      subst bs
      exact ⟨.nil, rfl⟩
    · cases h
  | succ count ih =>
    simp only [readElements, bind_eq_ok_iff, Prod.exists, readInt_eq_ok_iff] at h
    obtain ⟨_, rest, ⟨size, wide, rfl, rfl⟩, h⟩ := h
    split at h
    case isTrue below =>
      obtain ⟨later, hlater, h⟩ := bind_eq_ok_iff.1 h
      cases h
      obtain ⟨framed, rfl⟩ := ih hlater
      exact ⟨.null wide below framed, rfl⟩
    case isFalse nonneg =>
      cases hfront : front? (intOfBytes size).toNat rest with
      | none => simp [hfront, throw, throwThe, MonadExceptOf.throw] at h
      | some r =>
        obtain ⟨own, rest⟩ := r
        obtain ⟨sized, rfl⟩ := front?_eq_some_iff.1 hfront
        simp only [hfront] at h
        obtain ⟨v, read, h⟩ := bind_eq_ok_iff.1 h
        obtain ⟨later, hlater, h⟩ := bind_eq_ok_iff.1 h
        cases h
        obtain ⟨framed, rfl⟩ := ih hlater
        exact ⟨.held wide (by omega) read framed, rfl⟩

theorem readElements_eq_ok_iff {count : Nat} :
    readElements element count bs = .ok items ↔ Framed element bs items ∧ items.length = count := by
  constructor
  · exact framed_of_readElements
  · rintro ⟨framed, rfl⟩
    exact framed.readElements

/-! ## Arrays -/

/-- The bytes of an array: a number of dimensions, a flag and the type of the elements, which
are read over, and then either nothing, where there are no dimensions, or the number of elements,
a lower bound, which is read over too, and the elements. -/
inductive Arrayed (element : Bytes → Except WireFault Value) : Bytes → List Value → Prop
  | empty {dimensions flag type : Bytes} (wide : dimensions.length = 4) (wide_flag : flag.length = 4)
      (wide_type : type.length = 4) (none : intOfBytes dimensions = 0) :
      Arrayed element (dimensions ++ (flag ++ type)) []
  | row {dimensions flag type count lower body : Bytes} {items : List Value}
      (wide : dimensions.length = 4) (wide_flag : flag.length = 4) (wide_type : type.length = 4)
      (wide_count : count.length = 4) (wide_lower : lower.length = 4)
      (one : intOfBytes dimensions = 1) (counted : intOfBytes count = items.length)
      (framed : Framed element body items) :
      Arrayed element (dimensions ++ (flag ++ (type ++ (count ++ (lower ++ body))))) items

theorem intOfBytes_le_maxLength {size : Bytes} (wide : size.length = 4) :
    intOfBytes size ≤ maxLength := by
  have some_bytes : 0 < size.length := by omega
  have bound := (intOfBytes_bounds some_bytes).2
  rw [wide] at bound
  have sign : signBit 4 = maxLength + 1 := by decide
  omega

theorem Arrayed.decodeArray (h : Arrayed element bs items) :
    decodeArray element bs = .ok (.array items) := by
  simp only [Wire.decodeArray, bind_eq_ok_iff, guarded_eq_ok_iff, Prod.exists, readInt_eq_ok_iff]
  cases h with
  | @empty dimensions flag type wide wide_flag wide_type none =>
    refine ⟨_, _, ⟨dimensions, wide, rfl, rfl⟩, by omega, _, _, ⟨flag, wide_flag, rfl, rfl⟩, _, [],
      ⟨type, wide_type, by simp, rfl⟩, 1, [], ?_, by omega, [], ?_, rfl⟩
    · rw [none]
      rfl
    · rw [if_pos none]
      rfl
  | @row dimensions flag type count lower body items wide wide_flag wide_type wide_count wide_lower
      one counted framed =>
    refine ⟨_, _, ⟨dimensions, wide, rfl, rfl⟩, by omega, _, _, ⟨flag, wide_flag, rfl, rfl⟩, _, _,
      ⟨type, wide_type, rfl, rfl⟩, items.length, body, ?_, by omega, items, ?_, rfl⟩
    · have few := intOfBytes_le_maxLength wide_count
      simp only [one, Int.toNat_one, readDimensions, bind_eq_ok_iff, guarded_eq_ok_iff, Prod.exists,
        readInt_eq_ok_iff]
      refine ⟨_, _, ⟨count, wide_count, rfl, rfl⟩, by omega, _, _, ⟨lower, wide_lower, rfl, rfl⟩,
        by omega, ?_⟩
      simp [counted]
    · rw [if_neg (by omega)]
      exact readElements_eq_ok_iff.2 ⟨framed, rfl⟩

theorem arrayed_of_decodeArray {v : Value} (h : decodeArray element bs = .ok v) :
    ∃ items, v = .array items ∧ Arrayed element bs items := by
  simp only [decodeArray, bind_eq_ok_iff, guarded_eq_ok_iff, Prod.exists, readInt_eq_ok_iff] at h
  obtain ⟨_, _, ⟨dimensions, wide, rfl, rfl⟩, nonneg, _, _, ⟨flag, wide_flag, rfl, -⟩, _, rest,
    ⟨type, wide_type, rfl, -⟩, count, body, hdimensions, few, items, hitems, hv⟩ := h
  cases hv
  refine ⟨items, rfl, ?_⟩
  obtain none | one : intOfBytes dimensions = 0 ∨ intOfBytes dimensions = 1 := by omega
  · rw [none] at hdimensions
    cases hdimensions
    obtain ⟨framed, hlength⟩ := readElements_eq_ok_iff.1 hitems
    rw [if_pos none, List.length_eq_zero_iff] at hlength
    subst items
    cases framed
    rw [List.append_nil]
    exact .empty wide wide_flag wide_type none
  · simp only [one, Int.toNat_one, readDimensions, bind_eq_ok_iff, guarded_eq_ok_iff, Prod.exists,
      readInt_eq_ok_iff, Except.ok.injEq, Prod.mk.injEq] at hdimensions
    obtain ⟨_, _, ⟨size, wide_count, rfl, rfl⟩, sized, _, _, ⟨lower, wide_lower, rfl, -⟩, -, hcount,
      rfl⟩ := hdimensions
    obtain ⟨framed, hlength⟩ := readElements_eq_ok_iff.1 hitems
    rw [if_neg (by omega)] at hlength
    exact .row wide wide_flag wide_type wide_count wide_lower one (by omega) framed

theorem decodeArray_eq_ok_iff {v : Value} :
    decodeArray element bs = .ok v ↔ ∃ items, v = .array items ∧ Arrayed element bs items := by
  constructor
  · exact arrayed_of_decodeArray
  · rintro ⟨items, rfl, h⟩
    exact h.decodeArray

/-- The elements of an array stand behind its header, which is shorter where there are none. -/
theorem Arrayed.exists_framed (h : Arrayed element bs items) :
    ∃ body, Framed element body items ∧ items.length ≤ maxLength ∧
      (bs.length = body.length + 20 ∨ bs.length = 12 ∧ body.length = 0) := by
  cases h with
  | @empty dimensions flag type wide wide_flag wide_type none =>
    refine ⟨[], .nil, Nat.zero_le _, .inr ⟨?_, rfl⟩⟩
    rw [List.length_append, List.length_append, wide, wide_flag, wide_type]
  | @row dimensions flag type count lower body items wide wide_flag wide_type wide_count wide_lower
      one counted framed =>
    have few := intOfBytes_le_maxLength wide_count
    refine ⟨body, framed, by omega, .inl ?_⟩
    simp only [List.length_append, wide, wide_flag, wide_type, wide_count, wide_lower]
    omega

end Wire
end RowSql
