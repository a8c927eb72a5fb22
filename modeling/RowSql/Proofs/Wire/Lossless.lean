import RowSql.Proofs.Wire.Format

/-!
# The wire loses nothing

Values bound to Booleans, integers, texts and arrays of such types are read back as they were,
and what is read of such a type can be bound to it again. Floating point types are left out, as
they round. Main statement: `Wire.lossless`.
-/
namespace RowSql

open Wire

/-! ## Which values belong to a type -/

namespace Wire.SqlType

/-- How many bytes an integer type has. -/
def width? : SqlType → Option Nat
  | builtin .int2 => some 2
  | builtin .int4 => some 4
  | builtin .int8 => some 8
  | _ => none

/-- Types that keep their values exactly. -/
inductive Exact : SqlType → Prop
  | bool : Exact (builtin .bool)
  | whole {type : SqlType} {width : Nat} (wide : type.width? = some width) : Exact type
  | textual {type : SqlType} (textual : type.isTextual = true) : Exact type
  | array {type member : SqlType} (of : type.member? = some member) (exact : Exact member) :
      Exact type

/-- How deeply arrays are nested. -/
def nesting : SqlType → Nat
  | builtin b => if b.member?.isSome then 1 else 0
  | array _ member => member.nesting + 1
  | _ => 0

end Wire.SqlType

namespace Value

mutual

/-- How many bytes a value takes. An array has a header of five numbers, and a length before
each element. -/
def wireSize (type : SqlType) : Value → Nat
  | null => 0
  | bool _ => 1
  | int _ => type.width?.getD 0
  | float _ => 0
  | text s => (Utf8.bytes s).length
  | array items =>
    match type.member? with
    | none => 0
    | some member => 20 + wireSizeAll member items

def wireSizeAll (member : SqlType) : List Value → Nat
  | [] => 0
  | v :: rest => v.wireSize member + 4 + wireSizeAll member rest

end

mutual

/-- A value belongs to a type. A null belongs to all of them. -/
def Fits (type : SqlType) : Value → Prop
  | null => True
  | bool _ => type = .builtin .bool
  | int i =>
    ∃ width, type.width? = some width ∧ -(signBit width : Int) ≤ i.toInt ∧ i.toInt < signBit width
  | float _ => False
  | text _ => type.isTextual = true
  | array items =>
    ∃ member, type.member? = some member ∧ items.length ≤ maxLength ∧ FitAll member items

/-- Elements also need a length that can be written before them. -/
def FitAll (member : SqlType) : List Value → Prop
  | [] => True
  | v :: rest => (v.Fits member ∧ v.wireSize member ≤ maxLength) ∧ FitAll member rest

end

end Value

namespace Wire

/-! ## One kind of type at a time -/

namespace SqlType

variable {type member : SqlType} {width : Nat}

theorem width?_bounds (wide : type.width? = some width) : 0 < width ∧ width ≤ 8 := by
  unfold width? at wide
  split at wide <;> cases wide <;> decide

theorem member?_of_width (wide : type.width? = some width) : type.member? = none := by
  unfold width? at wide
  split at wide <;> cases wide <;> rfl

theorem member?_of_textual (textual : type.isTextual = true) : type.member? = none := by
  unfold isTextual at textual
  split at textual
  case h_1 b => cases b <;> first | rfl | cases textual
  case h_2 => rfl
  case h_3 => cases textual

/-- Only built-in array types and array types of one's own have members. -/
theorem member?_cases (of : type.member? = some member) :
    (∃ b m, type = .builtin b ∧ member = .builtin m ∧ b.member? = some m) ∨
      ∃ id, type = .array id member := by
  unfold member? at of
  split at of
  case h_1 b =>
    obtain ⟨m, hm, rfl⟩ := Option.map_eq_some_iff.1 of
    exact .inl ⟨b, m, rfl, rfl, hm⟩
  case h_2 id m =>
    cases of
    exact .inr ⟨id, rfl⟩
  case h_3 => cases of

theorem eq_of_builtin? {b : Builtin} (h : type.builtin? = some b) : type = .builtin b := by
  cases type <;> cases h
  rfl

theorem decode_of_width (wide : type.width? = some width) (bs : Bytes) :
    decode type bs = decodeWhole width bs := by
  unfold width? at wide
  split at wide <;> cases wide <;> rfl

theorem decode_of_textual (textual : type.isTextual = true) (bs : Bytes) :
    decode type bs = decodeText bs := by
  unfold isTextual at textual
  split at textual
  case h_1 b => cases b <;> first | rfl | cases textual
  case h_2 => rfl
  case h_3 => cases textual

theorem decode_of_member (of : type.member? = some member) (bs : Bytes) :
    decode type bs = decodeArray (decode member) bs := by
  obtain ⟨b, m, rfl, rfl, hm⟩ | ⟨id, rfl⟩ := member?_cases of
  · have scalar : decode (.builtin m) = decodeScalar m := by
      funext own
      simp [decode, decodeBuiltin, Builtin.member?_member? hm]
    rw [scalar]
    simp [decode, decodeBuiltin, hm]
  · rfl

theorem nesting_of_member (of : type.member? = some member) :
    type.nesting = member.nesting + 1 := by
  obtain ⟨b, m, rfl, rfl, hm⟩ | ⟨id, rfl⟩ := member?_cases of
  · simp [nesting, hm, Builtin.member?_member? hm]
  · rfl

theorem Exact.of_member (exact : type.Exact) (of : type.member? = some member) :
    member.Exact := by
  cases exact with
  | bool => cases of
  | whole wide => simp [member?_of_width wide] at of
  | textual textual => simp [member?_of_textual textual] at of
  | array of' exact =>
    rw [of] at of'
    cases of'
    exact exact

theorem Exact.not_floating {b : Builtin} (exact : (builtin b).Exact) :
    b ≠ .float4 ∧ b ≠ .float8 := by
  constructor <;> rintro rfl <;> cases exact with
  | whole wide => cases wide
  | textual textual => cases textual
  | array of _ => cases of

end SqlType

/-! ## Writing -/

variable {type member : SqlType}

theorem encodeWhole_of_width {width : Nat} (wide : type.width? = some width) (i : Int64) :
    encodeWhole type i = encodeInt width i.toInt := by
  unfold SqlType.width? at wide
  split at wide <;> cases wide <;> rfl

theorem encodeWhole_of_no_width (exact : type.Exact) (narrow : type.width? = none) (i : Int64) :
    encodeWhole type i = .error (unbindable type (.int i)) := by
  cases type with
  | builtin b =>
    obtain ⟨single, double⟩ := exact.not_floating
    cases b <;> first | rfl | contradiction
  | simple id | enum id labels | array id member | domain id base => rfl

theorem encodeFloat_of_exact (exact : type.Exact) (x : Binary64) :
    encodeFloat type x = .error (unbindable type (.float x)) := by
  cases type with
  | builtin b =>
    obtain ⟨single, double⟩ := exact.not_floating
    cases b <;> first | rfl | contradiction
  | simple id | enum id labels | array id member | domain id base => rfl

theorem decodeWhole_eq_ok_iff {width : Nat} {bs : Bytes} {v : Value} :
    decodeWhole width bs = .ok v ↔
      bs.length = width ∧ v = .int (Int64.ofInt (intOfBytes bs)) := by
  by_cases same : bs.length = width
  · simp [decodeWhole, exactly, same, Except.map, eq_comm]
  · obtain short | long := Nat.lt_or_gt_of_ne same
    · simp [decodeWhole, exactly, short, same, Except.map]
    · simp [decodeWhole, exactly, long, Nat.lt_asymm long, same, Except.map]

/-- An element that is not too long is written, and is read back from in front of later ones. -/
theorem encodeElement_framed {written : Option Bytes} {v : Value}
    (short : (written.getD []).length ≤ maxLength) (hread : decode? member written = .ok v) :
    ∃ bs, encodeElement written = .ok bs ∧ bs.length = (written.getD []).length + 4 ∧
      ∀ rest items, Framed (decode member) rest items →
        Framed (decode member) (bs ++ rest) (v :: items) := by
  cases written with
  | none =>
    cases hread
    exact ⟨bytesOfInt 4 (-1), rfl, by simp, fun rest items => .null (by simp) (by decide)⟩
  | some own =>
    refine ⟨bigEndian 4 own.length ++ own, if_pos short, by simp [Nat.add_comm],
      fun rest items later => ?_⟩
    rw [List.append_assoc]
    exact .held (by simp) (intOfBytes_length short) hread later

mutual

theorem encode_of_fits (type : SqlType) (exact : type.Exact) :
    ∀ v : Value, v.Fits type → ∃ written, encode type v = .ok written ∧
      (written.getD []).length = v.wireSize type ∧ decode? type written = .ok v
  | .null, _ => ⟨none, rfl, rfl, rfl⟩
  | .bool b, fits => by
    cases fits
    exact ⟨some [if b then 1 else 0], rfl, rfl, by cases b <;> rfl⟩
  | .int i, fits => by
    obtain ⟨width, wide, low, high⟩ := fits
    obtain ⟨some_bytes, narrow⟩ := SqlType.width?_bounds wide
    refine ⟨some (bytesOfInt width i.toInt), ?_, ?_, ?_⟩
    · rw [encode, encodeWhole_of_width wide, (encodeInt_eq_ok_iff some_bytes).2 ⟨⟨low, high⟩, rfl⟩]
      rfl
    · simp [Value.wireSize, wide]
    · rw [decode?, SqlType.decode_of_width wide, decodeWhole_eq_ok_iff,
        intOfBytes_bytesOfInt some_bytes low high, Int64.ofInt_toInt]
      exact ⟨length_bytesOfInt width _, rfl⟩
  | .float _, fits => fits.elim
  | .text s, fits => by
    have textual : type.isTextual = true := fits
    refine ⟨some (Utf8.bytes s), ?_, rfl, ?_⟩
    · rw [encode, if_pos textual]
    · rw [decode?, SqlType.decode_of_textual textual, decodeText, Utf8.decode_bytes]
  | .array items, fits => by
    obtain ⟨member, of, few, each⟩ := fits
    obtain ⟨body, hbody, hlength, framed⟩ :=
      encodeAll_of_fitAll member (exact.of_member of) items each
    refine ⟨some (arrayHeader type member items.length (items.any Value.isNull) ++ body), ?_, ?_, ?_⟩
    · simp only [encode, of, if_neg (Nat.not_lt.2 few), hbody]
      rfl
    · simp only [Option.getD_some, arrayHeader, List.length_append, length_bigEndian,
        length_bytesOfInt, hlength, Value.wireSize, of]
    · rw [decode?, SqlType.decode_of_member of, decodeArray_eq_ok_iff]
      refine ⟨items, rfl, ?_⟩
      simp only [arrayHeader, List.append_assoc]
      exact .row (by simp) (by simp) (by simp) (by simp) (by simp) (by decide)
        (intOfBytes_length few) framed

theorem encodeAll_of_fitAll (member : SqlType) (exact : member.Exact) :
    ∀ items : List Value, Value.FitAll member items → ∃ body, encodeAll member items = .ok body ∧
      body.length = Value.wireSizeAll member items ∧ Framed (decode member) body items
  | [], _ => ⟨[], rfl, rfl, .nil⟩
  | v :: rest, ⟨⟨fits, short⟩, each⟩ => by
    obtain ⟨written, hwritten, hsize, hread⟩ := encode_of_fits member exact v fits
    obtain ⟨body, hbody, hlength, framed⟩ := encodeAll_of_fitAll member exact rest each
    rw [← hsize] at short
    obtain ⟨bs, helement, hwidth, hframe⟩ := encodeElement_framed short hread
    refine ⟨bs ++ body, ?_, ?_, hframe body rest framed⟩
    · simp only [encodeAll, hwritten, helement, hbody, bind, Except.bind, pure, Except.pure]
    · rw [List.length_append, hwidth, hsize, hlength, Value.wireSizeAll]

end

theorem length_le_of_encodeElement {written : Option Bytes} {bs : Bytes}
    (h : encodeElement written = .ok bs) : (written.getD []).length ≤ maxLength := by
  cases written with
  | none => exact Nat.zero_le _
  | some own =>
    rw [encodeElement] at h
    split at h
    · assumption
    · cases h

mutual

theorem fits_of_encode (type : SqlType) (exact : type.Exact) :
    ∀ (v : Value) (written : Option Bytes), encode type v = .ok written → v.Fits type
  | .null, _, _ => trivial
  | .bool b, written, h => by
    rw [encode] at h
    split at h
    case isTrue same => exact SqlType.eq_of_builtin? same
    case isFalse => cases h
  | .int i, written, h => by
    cases wide : type.width? with
    | none =>
      rw [encode, encodeWhole_of_no_width exact wide] at h
      cases h
    | some width =>
      rw [encode, encodeWhole_of_width wide] at h
      cases hbs : encodeInt width i.toInt with
      | error e => simp [hbs, Except.map] at h
      | ok bs =>
        have range := ((encodeInt_eq_ok_iff (SqlType.width?_bounds wide).1).1 hbs).1
        exact ⟨width, wide, range⟩
  | .float x, written, h => by
    rw [encode, encodeFloat_of_exact exact] at h
    cases h
  | .text s, written, h => by
    rw [encode] at h
    split at h
    case isTrue textual => exact textual
    case isFalse => cases h
  | .array items, written, h => by
    rw [encode] at h
    split at h
    case h_1 => cases h
    case h_2 member of =>
      split at h
      case isTrue => cases h
      case isFalse few =>
        cases hbody : encodeAll member items with
        | error e => simp [hbody, Except.map] at h
        | ok body =>
          have each := fitAll_of_encodeAll member (exact.of_member of) items body hbody
          exact ⟨member, of, Nat.not_lt.1 few, each⟩

theorem fitAll_of_encodeAll (member : SqlType) (exact : member.Exact) :
    ∀ (items : List Value) (body : Bytes), encodeAll member items = .ok body →
      Value.FitAll member items
  | [], _, _ => trivial
  | v :: rest, body, h => by
    simp only [encodeAll, bind_eq_ok_iff] at h
    obtain ⟨written, hwritten, element, helement, later, hlater, -⟩ := h
    have fits := fits_of_encode member exact v written hwritten
    have each := fitAll_of_encodeAll member exact rest later hlater
    -- the element was written, so it is as long as its value takes
    obtain ⟨own, hown, hsize, -⟩ := encode_of_fits member exact v fits
    rw [hwritten] at hown
    cases hown
    have short := length_le_of_encodeElement helement
    rw [hsize] at short
    exact ⟨⟨fits, short⟩, each⟩

end

/-! ## Reading -/

/-- Where elements take no more than in proportion to what they were read from, so do all of them
together. -/
theorem Framed.wireSizeAll_le {element : Bytes → Except WireFault Value} {bs : Bytes}
    {items : List Value} {a b : Nat} (framed : Framed element bs items) (shrinks : b ≤ a)
    (each : ∀ own v, element own = .ok v → b * (v.wireSize member + 4) ≤ a * (own.length + 4)) :
    b * Value.wireSizeAll member items ≤ a * bs.length := by
  induction framed with
  | nil => exact Nat.zero_le _
  | @null size rest items wide below later ih =>
    have null : b * 4 ≤ a * 4 := Nat.mul_le_mul_right 4 shrinks
    simp only [Value.wireSizeAll, Value.wireSize, List.length_append, wide, Nat.mul_add]
    omega
  | @held size own rest v items wide sized read later ih =>
    have first := each own v read
    simp only [Value.wireSizeAll, List.length_append, wide, Nat.mul_add] at first ⊢
    omega

theorem exists_of_decodeBool {bs : Bytes} {v : Value} (h : decodeBool bs = .ok v) :
    ∃ b, v = .bool b ∧ bs.length = 1 := by
  unfold decodeBool at h
  split at h <;> cases h
  exact ⟨_, rfl, rfl⟩

theorem exists_of_decodeText {bs : Bytes} {v : Value} (h : decodeText bs = .ok v) :
    ∃ s, v = .text s ∧ Utf8.bytes s = bs := by
  unfold decodeText at h
  split at h
  case h_1 s hs =>
    cases h
    refine ⟨s, rfl, ?_⟩
    unfold Utf8.decode String.fromUTF8? at hs
    split at hs
    case h_1 r hr =>
      split at hr <;> cases hr
      cases hs
      simp [Utf8.bytes, String.fromUTF8]
    case h_2 => cases hs
  case h_2 => cases h

/-- What is read of a type without members takes as many bytes as it was read from. -/
theorem wireSize_of_decode (exact : type.Exact) (flat : type.member? = none) {raw : Bytes}
    {v : Value} (h : decode type raw = .ok v) : v.wireSize type = raw.length := by
  cases exact with
  | bool =>
    obtain ⟨b, rfl, one⟩ := exists_of_decodeBool h
    exact one.symm
  | whole wide =>
    rw [SqlType.decode_of_width wide] at h
    obtain ⟨hlength, rfl⟩ := decodeWhole_eq_ok_iff.1 h
    simp [Value.wireSize, wide, hlength]
  | textual textual =>
    rw [SqlType.decode_of_textual textual] at h
    obtain ⟨s, rfl, rfl⟩ := exists_of_decodeText h
    rfl
  | array of _ =>
    rw [flat] at of
    cases of

theorem exists_of_decode_array (of : type.member? = some member) {raw : Bytes} {v : Value}
    (h : decode type raw = .ok v) :
    ∃ items body, v = .array items ∧ Framed (decode member) body items ∧
      items.length ≤ maxLength ∧
      (raw.length = body.length + 20 ∨ raw.length = 12 ∧ body.length = 0) := by
  rw [SqlType.decode_of_member of] at h
  obtain ⟨items, rfl, arrayed⟩ := decodeArray_eq_ok_iff.1 h
  obtain ⟨body, framed, few, header⟩ := arrayed.exists_framed
  exact ⟨items, body, rfl, framed, few, header⟩

/-- An array without dimensions is written with one, so it grows from 12 bytes to 20. -/
theorem wireSize_le_of_decode (exact : type.Exact) {raw : Bytes} {v : Value}
    (h : decode type raw = .ok v) : 2 * (v.wireSize type + 4) ≤ 3 * (raw.length + 4) := by
  induction exact generalizing raw v with
  | bool =>
    rw [wireSize_of_decode .bool rfl h]
    omega
  | whole wide =>
    rw [wireSize_of_decode (.whole wide) (SqlType.member?_of_width wide) h]
    omega
  | textual textual =>
    rw [wireSize_of_decode (.textual textual) (SqlType.member?_of_textual textual) h]
    omega
  | array of exact ih =>
    obtain ⟨items, body, rfl, framed, few, header⟩ := exists_of_decode_array of h
    have grown := framed.wireSizeAll_le (by decide) fun own v read => ih read
    simp only [Value.wireSize, of]
    omega

example :
    decode (.builtin .int4Array) [0, 0, 0, 0, 0, 0, 0, 0, 0, 0, 0, 23] = .ok (.array []) ∧
      (Value.array []).wireSize (.builtin .int4Array) = 20 := by
  decide +kernel

/-- A scalar does not grow, and an array of scalars only where it is empty. -/
theorem wireSize_le_max_of_decode (exact : type.Exact) (flat : type.nesting ≤ 1) {raw : Bytes}
    {v : Value} (h : decode type raw = .ok v) : v.wireSize type ≤ max raw.length 20 := by
  cases of : type.member? with
  | none =>
    rw [wireSize_of_decode exact of h]
    exact Nat.le_max_left _ _
  | some member =>
    obtain ⟨items, body, rfl, framed, few, header⟩ := exists_of_decode_array of h
    have bare : member.member? = none := by
      rw [SqlType.nesting_of_member of] at flat
      cases deeper : member.member? with
      | none => rfl
      | some inner =>
        rw [SqlType.nesting_of_member deeper] at flat
        omega
    have same : ∀ own v, decode member own = .ok v →
        1 * (v.wireSize member + 4) ≤ 1 * (own.length + 4) := by
      intro own v read
      exact Nat.le_of_eq (by rw [wireSize_of_decode (exact.of_member of) bare read])
    have kept := framed.wireSizeAll_le (Nat.le_refl 1) same
    simp only [Value.wireSize, of]
    omega

theorem Framed.fitAll {element : Bytes → Except WireFault Value} {bs : Bytes} {items : List Value}
    (framed : Framed element bs items)
    (each : ∀ own v, element own = .ok v → own.length ≤ maxLength → own.length + 4 ≤ bs.length →
      v.Fits member ∧ v.wireSize member ≤ maxLength) : Value.FitAll member items := by
  induction framed with
  | nil => trivial
  | @null size rest items wide below later ih =>
    refine ⟨⟨trivial, Nat.zero_le _⟩, ih fun own v read short inside => each own v read short ?_⟩
    rw [List.length_append]
    omega
  | @held size own rest v items wide sized read later ih =>
    have short : own.length ≤ maxLength := by
      have bound := intOfBytes_le_maxLength wide
      omega
    refine ⟨each own v read short ?_, ih fun own v read short inside => each own v read short ?_⟩
    · simp only [List.length_append]
      omega
    · simp only [List.length_append]
      omega

theorem fits_of_decode (exact : type.Exact) {raw : Bytes} {v : Value}
    (h : decode type raw = .ok v)
    (writable : type.nesting ≤ 2 ∨ 3 * raw.length ≤ 2 * maxLength) : v.Fits type := by
  induction exact generalizing raw v with
  | bool =>
    obtain ⟨b, rfl, -⟩ := exists_of_decodeBool h
    rfl
  | @whole type width wide =>
    rw [SqlType.decode_of_width wide] at h
    obtain ⟨rfl, rfl⟩ := decodeWhole_eq_ok_iff.1 h
    obtain ⟨some_bytes, narrow⟩ := SqlType.width?_bounds wide
    obtain ⟨low, high⟩ := intOfBytes_bounds some_bytes
    have room := signBit_le narrow
    have same : (Int64.ofInt (intOfBytes raw)).toInt = intOfBytes raw :=
      Int64.toInt_ofInt_of_le (by omega) (by omega)
    exact ⟨raw.length, wide, by omega, by omega⟩
  | textual textual =>
    rw [SqlType.decode_of_textual textual] at h
    obtain ⟨s, rfl, -⟩ := exists_of_decodeText h
    exact textual
  | @array type member of exact ih =>
    obtain ⟨items, body, rfl, framed, few, header⟩ := exists_of_decode_array of h
    refine ⟨member, of, few, framed.fitAll fun own v read short inside => ?_⟩
    rw [SqlType.nesting_of_member of] at writable
    obtain shallow | small := writable
    · have size := wireSize_le_max_of_decode exact (by omega) read
      have room : 20 ≤ maxLength := by decide
      exact ⟨ih read (.inl (by omega)), by omega⟩
    · have size := wireSize_le_of_decode exact read
      exact ⟨ih read (.inr (by omega)), by omega⟩

/-! ## Both ways -/

theorem written_and_read_of_fits (exact : type.Exact) {v : Value} (fits : v.Fits type) :
    ∃ written, encode type v = .ok written ∧ decode? type written = .ok v := by
  obtain ⟨written, hwritten, -, hread⟩ := encode_of_fits type exact v fits
  exact ⟨written, hwritten, hread⟩

/-- Of the types a database has, and of arrays of its arrays, all that is read can be written
and is read again. -/
theorem written_back_of_shallow (exact : type.Exact) (shallow : type.nesting ≤ 2) {raw : Bytes}
    {v : Value} (h : decode type raw = .ok v) :
    ∃ written, encode type v = .ok written ∧ decode? type written = .ok v := by
  apply written_and_read_of_fits exact
  exact fits_of_decode exact h (.inl shallow)

/-- What it means that a type loses nothing on the wire: exactly the values that belong to it are
written, what is written is read back, and what is read can be written and is read again.

Whatever the bytes, the last of these holds of scalars and of their arrays, which are all that a
database has, and also of arrays of those. Only a third array around them needs bytes that are no
more than two thirds of what a length can tell, because an inner array that has no dimensions is
written with one, and then the array around it may become too long to be an element. -/
structure Lossless (type : SqlType) : Prop where
  written_iff : ∀ v, (∃ written, encode type v = .ok written) ↔ v.Fits type
  read_back : ∀ v written, encode type v = .ok written → decode? type written = .ok v
  written_back : ∀ raw v, decode type raw = .ok v →
    (type.nesting ≤ 2 ∨ 3 * raw.length ≤ 2 * maxLength) →
    ∃ written, encode type v = .ok written ∧ decode? type written = .ok v

theorem lossless (exact : type.Exact) : Lossless type where
  written_iff v := by
    constructor
    · rintro ⟨written, h⟩
      exact fits_of_encode type exact v written h
    · intro fits
      obtain ⟨written, h, -⟩ := written_and_read_of_fits exact fits
      exact ⟨written, h⟩
  read_back v written h := by
    have fits := fits_of_encode type exact v written h
    obtain ⟨again, hagain, hread⟩ := written_and_read_of_fits exact fits
    rw [h] at hagain
    cases hagain
    exact hread
  written_back raw v h writable :=
    written_and_read_of_fits exact (fits_of_decode exact h writable)

/-- The least of the small integers behind a null, and an array that is read without dimensions. -/
theorem smallints_lossless :
    SqlType.Exact (.builtin .int2Array) ∧
      decode? (.builtin .int2Array)
        (some [0, 0, 0, 1, 0, 0, 0, 1, 0, 0, 0, 21, 0, 0, 0, 2, 0, 0, 0, 1,
          255, 255, 255, 255, 0, 0, 0, 2, 128, 0]) = .ok (.array [.null, .int (-32768)]) ∧
      ∃ written, encode (.builtin .int2Array) (.array []) = .ok written ∧
        decode? (.builtin .int2Array) written = .ok (.array []) := by
  have exact : SqlType.Exact (.builtin .int2Array) := .array rfl (.whole rfl)
  have written : encode (.builtin .int2Array) (.array [.null, .int (-32768)]) =
      .ok (some [0, 0, 0, 1, 0, 0, 0, 1, 0, 0, 0, 21, 0, 0, 0, 2, 0, 0, 0, 1,
        255, 255, 255, 255, 0, 0, 0, 2, 128, 0]) := rfl
  have bare : decode (.builtin .int2Array) [0, 0, 0, 0, 0, 0, 0, 0, 0, 0, 0, 21] =
      .ok (.array []) := by decide +kernel
  have small : SqlType.nesting (.builtin .int2Array) ≤ 2 := by decide
  have both := lossless exact
  exact ⟨exact, both.read_back _ _ written, both.written_back _ _ bare (.inl small)⟩

end Wire
end RowSql
