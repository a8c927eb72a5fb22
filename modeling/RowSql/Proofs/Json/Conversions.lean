import RowSql.Json.Values
import RowSql.Proofs.Json.Scan

/-!
# Two ways from documents to values

A place in a document is a path of positions through arrays. One conversion takes every
document: what stands at a place is converted where it stands, so only outermost objects change
their kind and become text. The other refuses exactly the documents that have an object at some
place, and agrees with the first on the rest. Main statement: `Value.conversions_agree`.
-/
namespace RowSql

namespace Json.Doc

/-- What stands at a place inside nested arrays. -/
def at? : List Nat → Doc → Option Doc
  | [], d => some d
  | i :: path, array items => items[i]?.bind (at? path)
  | _ :: _, _ => none

/-- No object at any place. -/
def IsObjectFree (d : Doc) : Prop := ∀ path fields, d.at? path ≠ some (object fields)

mutual

/-- Each outermost object is replaced by its text. -/
def objectsWritten : Doc → Doc
  | array items => array (allObjectsWritten items)
  | object fields => text (object fields).write
  | d => d

def allObjectsWritten : List Doc → List Doc
  | [] => []
  | d :: rest => d.objectsWritten :: allObjectsWritten rest

end

theorem IsObjectFree.of_mem {items : List Doc} {d : Doc} (h : (array items).IsObjectFree)
    (hd : d ∈ items) : d.IsObjectFree := by
  obtain ⟨i, hi⟩ := List.mem_iff_getElem?.1 hd
  intro path fields hobject
  apply h (i :: path) fields
  rw [at?, hi, Option.bind_some, hobject]

mutual

theorem objectsWritten_eq_self : ∀ d : Doc, d.IsObjectFree → d.objectsWritten = d
  | null, _ | bool _, _ | whole _, _ | float _, _ | text _, _ => rfl
  | array items, h => by
    rw [objectsWritten, allObjectsWritten_eq_self items fun _ hd => h.of_mem hd]
  | object fields, h => absurd rfl (h [] fields)

theorem allObjectsWritten_eq_self :
    ∀ items : List Doc, (∀ d ∈ items, d.IsObjectFree) → allObjectsWritten items = items
  | [], _ => rfl
  | d :: rest, h => by
    obtain ⟨hd, hrest⟩ := List.forall_mem_cons.1 h
    rw [allObjectsWritten, objectsWritten_eq_self d hd, allObjectsWritten_eq_self rest hrest]

end

end Json.Doc

namespace Value

open Json

variable {d : Doc} {items : List Doc} {fields : List (String × Doc)} {path : List Nat} {i : Int}

/-- What stands at a place inside nested arrays. -/
def at? : List Nat → Value → Option Value
  | [], v => some v
  | i :: path, array items => items[i]?.bind (at? path)
  | _ :: _, _ => none

theorem ofDocs_eq_map (items : List Doc) : ofDocs items = items.map ofDoc := by
  induction items with
  | nil => rfl
  | cons d rest ih => rw [ofDocs, ih, List.map_cons]

/-! ## Whole numbers -/

/-- Either conversion tries the integers before the floating point numbers. -/
theorem ofDoc?_whole (i : Int) : ofDoc? (.whole i) = some (ofDoc (.whole i)) := by
  cases h : wholeInt? i <;> simp [ofDoc?, ofDoc, scalarShape?, nullShape?, boolShape?, intShape?,
    floatShape?, h]

theorem ofDoc_whole_of_lt (h : Int64.maxValue.toInt < i) :
    ofDoc (.whole i) = .float (Binary64.ofInt i) := by
  have hnone : wholeInt? i = none := dif_neg fun hrange => by omega
  rw [ofDoc, hnone]

/-! ## Objects -/

mutual

/-- Once the objects are written out, nothing is refused and nothing else has changed. -/
theorem ofDoc?_objectsWritten : ∀ d : Doc, ofDoc? d.objectsWritten = some (ofDoc d)
  | .null | .bool _ | .float _ | .text _ | .object _ => rfl
  | .whole i => ofDoc?_whole i
  | .array items => by
    rw [Doc.objectsWritten, ofDoc?, ofDocs?_allObjectsWritten items]
    rfl

theorem ofDocs?_allObjectsWritten :
    ∀ items : List Doc, ofDocs? (Doc.allObjectsWritten items) = some (ofDocs items)
  | [] => rfl
  | d :: rest => by
    rw [Doc.allObjectsWritten, ofDocs?, ofDoc?_objectsWritten d, ofDocs?_allObjectsWritten rest]
    rfl

end

theorem ofDoc?_eq_some (h : d.IsObjectFree) : ofDoc? d = some (ofDoc d) := by
  have hwritten := ofDoc?_objectsWritten d
  rwa [d.objectsWritten_eq_self h] at hwritten

theorem ofDocs?_eq_none (hd : d ∈ items) (h : ofDoc? d = none) : ofDocs? items = none := by
  induction items with
  | nil => cases hd
  | cons e rest ih =>
    rw [ofDocs?]
    rcases List.mem_cons.1 hd with rfl | hd
    · rw [h, Option.bind_none]
    · simp [ih hd]

/-- An object is refused at whatever place it stands. -/
theorem ofDoc?_eq_none (h : d.at? path = some (.object fields)) : ofDoc? d = none := by
  induction path generalizing d with
  | nil =>
    cases h
    rfl
  | cons i path ih =>
    cases d with
    | array items =>
      obtain ⟨e, hi, he⟩ := Option.bind_eq_some_iff.1 h
      rw [ofDoc?, ofDocs?_eq_none (List.mem_of_getElem? hi) (ih he), Option.map_none]
    | _ => cases h

theorem exists_ofDoc?_iff : (∃ v, ofDoc? d = some v) ↔ d.IsObjectFree := by
  constructor
  · rintro ⟨v, hv⟩ path fields hobject
    rw [ofDoc?_eq_none hobject] at hv
    cases hv
  · exact fun h => ⟨ofDoc d, ofDoc?_eq_some h⟩

/-! ## Places -/

/-- Every place keeps what is there, converted. -/
theorem at?_ofDoc (path : List Nat) (d : Doc) : (ofDoc d).at? path = (d.at? path).map ofDoc := by
  induction path generalizing d with
  | nil => rfl
  | cons i path ih =>
    cases d with
    | array items =>
      rw [ofDoc, at?, Doc.at?, ofDocs_eq_map, List.getElem?_map]
      cases items[i]? with
      | none => rfl
      | some e => exact ih e
    | whole n => cases h : wholeInt? n <;> simp [ofDoc, at?, Doc.at?, h]
    | _ => rfl

/-! ## Numerals beyond the integers -/

/-- The text is a document, and either conversion makes this value of it. -/
def BothRead (s : String) (v : Value) : Prop :=
  ∃ d, Json.read? s = some d ∧ ofDoc? d = some v ∧ ofDoc d = v

theorem bothRead_wholeText (hlow : Int64.maxValue.toInt < i) (hhigh : i ≤ 18446744073709551615) :
    BothRead (wholeText i) (float (Binary64.ofInt i)) := by
  have hfloat := ofDoc_whole_of_lt hlow
  have hmax : Int64.maxValue.toInt = 9223372036854775807 := rfl
  refine ⟨.whole i, Json.read?_atom ?_, ?_, hfloat⟩
  · rw [toList_wholeText]
    exact Json.Token.scannedFrom_wholeChars (by omega) hhigh
  · rw [ofDoc?_whole, hfloat]

/-- A zero with a sign is not written as an integer. -/
theorem bothRead_negativeZero : BothRead "-0" (float (Binary64.zero true)) := by
  have hread : Json.Numeral.read? "-0".toList = some (.float (Binary64.zero true)) :=
    Json.Numeral.unsigned?_toDigits true (Nat.zero_le _)
  have hchars : ∀ x ∈ ['-', '0'], x.isDigit = true ∨ x = '-' := by simp
  refine ⟨.float (Binary64.zero true), Json.read?_atom ?_, rfl, rfl⟩
  exact Json.Token.scannedFrom_numeral hchars hread

/-! ## Agreement -/

/-- How the two conversions of a document stand to each other. -/
structure Agree (d : Doc) : Prop where
  /-- One of them refuses objects, at whatever place, and nothing else. -/
  succeeds_iff : (∃ v, ofDoc? d = some v) ↔ d.IsObjectFree
  /-- Where it succeeds, the other gives the same. -/
  same : ∀ v, ofDoc? d = some v → ofDoc d = v
  /-- The other converts each place where it stands. -/
  places : ∀ path, (ofDoc d).at? path = (d.at? path).map ofDoc
  /-- Arrays keep their lengths. -/
  lengths : ∀ path items, d.at? path = some (.array items) →
    ∃ vs, (ofDoc d).at? path = some (array vs) ∧ vs.length = items.length
  /-- An object becomes its text. -/
  objects : ∀ path fields, d.at? path = some (.object fields) →
    (ofDoc d).at? path = some (text (Doc.object fields).write)
  /-- The other makes no change but this one. -/
  written : ofDoc? d.objectsWritten = some (ofDoc d)
  /-- Whole numbers above the integers become the nearest floating point numbers. -/
  beyond : ∀ path i, Int64.maxValue.toInt < i → d.at? path = some (.whole i) →
    (ofDoc d).at? path = some (float (Binary64.ofInt i))

/-- Both conversions agree on the documents without objects, and the one that takes objects
changes nothing else. -/
theorem conversions_agree :
    (∀ d : Doc, Agree d) ∧
      (∀ i : Int, Int64.maxValue.toInt < i → i ≤ 18446744073709551615 →
        BothRead (wholeText i) (float (Binary64.ofInt i))) ∧
      BothRead "-0" (float (Binary64.zero true)) := by
  refine ⟨fun d => ?_, fun i => bothRead_wholeText, bothRead_negativeZero⟩
  have hplaces : ∀ path, (ofDoc d).at? path = (d.at? path).map ofDoc :=
    fun path => at?_ofDoc path d
  refine ⟨exists_ofDoc?_iff, ?_, hplaces, ?_, ?_, ofDoc?_objectsWritten d, ?_⟩
  · intro v hv
    have hfree := exists_ofDoc?_iff.1 ⟨v, hv⟩
    rw [ofDoc?_eq_some hfree] at hv
    exact Option.some.inj hv
  · intro path items hitems
    refine ⟨ofDocs items, ?_, ?_⟩
    · rw [hplaces, hitems]
      rfl
    · rw [ofDocs_eq_map, List.length_map]
  · intro path fields hfields
    rw [hplaces, hfields]
    rfl
  · intro path i hbeyond hwhole
    rw [hplaces, hwhole, Option.map_some, ofDoc_whole_of_lt hbeyond]

/-- A number above the integers beside an object two arrays deep. -/
def tallyAndOwner : Doc :=
  .array [.whole 9223372036854775808, .array [.array [.object [("id", .whole 2)]]]]

theorem tallyAndOwner_converted :
    (¬ ∃ v, ofDoc? tallyAndOwner = some v) ∧
      ofDoc? tallyAndOwner.objectsWritten = some (ofDoc tallyAndOwner) ∧
      (ofDoc tallyAndOwner).at? [1, 0, 0] = some (text "\x7b\"id\":2\x7d") ∧
      (ofDoc tallyAndOwner).at? [0] = some (float ⟨0x43e0000000000000⟩) ∧
      Int64.maxValue.toInt < 9223372036854775808 ∧
      BothRead (wholeText 9223372036854775808) (float ⟨0x43e0000000000000⟩) := by
  obtain ⟨hagree, hbeyond, -⟩ := conversions_agree
  have hdoc := hagree tallyAndOwner
  have hobject : tallyAndOwner.at? [1, 0, 0] = some (.object [("id", .whole 2)]) := rfl
  have hwhole : tallyAndOwner.at? [0] = some (.whole 9223372036854775808) := rfl
  refine ⟨fun h => ?_, hdoc.written, hdoc.objects _ _ hobject, hdoc.beyond _ _ ?_ hwhole, ?_, ?_⟩
  · exact hdoc.succeeds_iff.1 h _ _ hobject
  · decide
  · decide
  · exact hbeyond 9223372036854775808 (by decide) (by decide)

end Value
end RowSql
