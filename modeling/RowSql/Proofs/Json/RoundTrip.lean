import Mathlib.Data.String.Basic
import RowSql.Proofs.Json.Conversions
import RowSql.Proofs.Row.Bound

/-!
# Reading written values and rows

The machine that reads a document takes the text of a value as one step, from wherever a value
may stand to the stage where its document is complete. This needs a place on the stack for each
array of the value, and no floating point number in it. The text of a row is read as an object
whose fields are the bound columns, put in the order of their names. Main statement:
`Row.values_and_rows_return`.
-/
namespace RowSql

open Json

/-! ## Fields in order -/

namespace Json.Doc

variable {fields : List (String × Doc)} {k : String} {d : Doc}

/-- Fields in the order of their names, where a later one replaces an earlier one. -/
def collect (fields : List (String × Doc)) : List (String × Doc) :=
  fields.foldl (fun done f => insertField f.1 f.2 done) []

theorem mem_insertField {f : String × Doc} (h : f ∈ insertField k d fields) :
    f = (k, d) ∨ f ∈ fields := by
  induction fields with
  | nil => simpa [insertField] using h
  | cons g fields ih =>
    simp only [insertField] at h
    split at h
    · exact (List.mem_cons.1 h).imp_right (List.mem_cons_of_mem _)
    · split at h
      · exact List.mem_cons.1 h
      · rcases List.mem_cons.1 h with rfl | h
        · exact .inr List.mem_cons_self
        · exact (ih h).imp_right (List.mem_cons_of_mem _)

theorem perm_insertField (hnew : k ∉ fields.map Prod.fst) :
    (insertField k d fields).Perm ((k, d) :: fields) := by
  induction fields with
  | nil => exact .refl _
  | cons g fields ih =>
    obtain ⟨hne, hnew⟩ : k ≠ g.1 ∧ k ∉ fields.map Prod.fst := by simpa using hnew
    rw [insertField, if_neg hne]
    split
    · exact .refl _
    · exact ((ih hnew).cons g).trans (.swap _ _ _)

/-- Names grow strictly from field to field. -/
def Ordered (fields : List (String × Doc)) : Prop := fields.Pairwise fun f g => f.1 < g.1

theorem Ordered.insertField (h : Ordered fields) : Ordered (insertField k d fields) := by
  induction fields with
  | nil => exact List.pairwise_singleton _ _
  | cons g fields ih =>
    obtain ⟨hfirst, hrest⟩ := List.pairwise_cons.1 h
    rw [Doc.insertField]
    split
    · rename_i heq
      exact List.pairwise_cons.2 ⟨fun f hf => heq ▸ hfirst f hf, hrest⟩
    · rename_i hne
      split
      · rename_i hlt
        refine List.pairwise_cons.2 ⟨fun f hf => ?_, h⟩
        rcases List.mem_cons.1 hf with rfl | hf
        · exact hlt
        · exact lt_trans hlt (hfirst f hf)
      · rename_i hle
        have hgt : g.1 < k := lt_of_le_of_ne (not_lt.1 hle) (Ne.symm hne)
        refine List.pairwise_cons.2 ⟨fun f hf => ?_, ih hrest⟩
        rcases mem_insertField hf with rfl | hf
        · exact hgt
        · exact hfirst f hf

theorem Ordered.foldl_insertField {done : List (String × Doc)} (h : Ordered done) :
    Ordered (fields.foldl (fun done f => Doc.insertField f.1 f.2 done) done) := by
  induction fields generalizing done with
  | nil => exact h
  | cons f fields ih => exact ih h.insertField

theorem ordered_collect (fields : List (String × Doc)) : Ordered (collect fields) :=
  Ordered.foldl_insertField List.Pairwise.nil

theorem perm_foldl_insertField (done : List (String × Doc))
    (hdistinct : ((done ++ fields).map Prod.fst).Nodup) :
    (done ++ fields).Perm (fields.foldl (fun done f => insertField f.1 f.2 done) done) := by
  induction fields generalizing done with
  | nil => rw [List.append_nil, List.foldl_nil]
  | cons f fields ih =>
    have hnew : f.1 ∉ done.map Prod.fst := by
      rw [List.map_append, List.map_cons] at hdistinct
      exact fun h => (List.nodup_append.1 hdistinct).2.2 _ h _ List.mem_cons_self rfl
    have hinsert : (done ++ f :: fields).Perm (insertField f.1 f.2 done ++ fields) :=
      List.perm_middle.trans ((perm_insertField hnew).symm.append_right fields)
    exact hinsert.trans (ih _ ((hinsert.map Prod.fst).nodup_iff.1 hdistinct))

/-- Nothing is lost where names differ. -/
theorem perm_collect (hdistinct : (fields.map Prod.fst).Nodup) :
    fields.Perm (collect fields) := perm_foldl_insertField [] hdistinct

end Json.Doc

/-! ## From a value to its document and back -/

namespace Value

mutual

/-- No floating point number at any place. -/
def isFloatFree : Value → Bool
  | float _ => false
  | array items => allFloatFree items
  | _ => true

def allFloatFree : List Value → Bool
  | [] => true
  | v :: rest => v.isFloatFree && allFloatFree rest

end

mutual

/-- How many arrays are nested. -/
def depth : Value → Nat
  | array items => depthAll items + 1
  | _ => 0

def depthAll : List Value → Nat
  | [] => 0
  | v :: rest => max v.depth (depthAll rest)

end

theorem wholeInt?_toInt (i : Int64) : wholeInt? i.toInt = some i := by
  have hrange : Int64.minValue.toInt ≤ i.toInt ∧ i.toInt ≤ Int64.maxValue.toInt :=
    ⟨Int64.minValue_le_toInt i, Int64.toInt_le i⟩
  rw [wholeInt?, dif_pos hrange, Int64.ofIntLE_toInt]

mutual

theorem ofDoc_toDoc : ∀ v : Value, ofDoc v.toDoc = v
  | null | bool _ | float _ | text _ => rfl
  | int i => by rw [toDoc, ofDoc, wholeInt?_toInt]
  | array items => by rw [toDoc, ofDoc, ofDocs_toDocs items]

theorem ofDocs_toDocs : ∀ items : List Value, ofDocs (toDocs items) = items
  | [] => rfl
  | v :: rest => by rw [toDocs, ofDocs, ofDoc_toDoc v, ofDocs_toDocs rest]

end

theorem toDocs_eq_map (items : List Value) : toDocs items = items.map toDoc := by
  induction items with
  | nil => rfl
  | cons v rest ih => rw [toDocs, ih, List.map_cons]

theorem at?_toDoc (path : List Nat) (v : Value) : v.toDoc.at? path = (v.at? path).map toDoc := by
  induction path generalizing v with
  | nil => rfl
  | cons i path ih =>
    cases v with
    | array items =>
      rw [toDoc, at?, Doc.at?, toDocs_eq_map, List.getElem?_map]
      cases items[i]? with
      | none => rfl
      | some w => exact ih w
    | _ => rfl

theorem isObjectFree_toDoc (v : Value) : v.toDoc.IsObjectFree := by
  intro path fields hobject
  rw [at?_toDoc] at hobject
  obtain ⟨w, -, hw⟩ := Option.map_eq_some_iff.1 hobject
  cases w <;> cases hw

theorem ofDoc?_toDoc (v : Value) : ofDoc? v.toDoc = some v := by
  rw [ofDoc?_eq_some v.isObjectFree_toDoc, ofDoc_toDoc]

end Value

/-- Each name with the document of its value. -/
def Bindings.documents (b : Bindings) : List (String × Doc) := b.map fun p => (p.1, p.2.toDoc)

/-! ## The machine on written values -/

namespace Json

open Token

/-- Texts with a comma in front of each. -/
def furtherChars (texts : List String) : List Char := texts.flatMap fun t => ',' :: t.toList

theorem toList_listed (s : String) (texts : List String) :
    (",".intercalate (s :: texts)).toList = s.toList ++ furtherChars texts := by
  induction texts generalizing s with
  | nil => simp [furtherChars]
  | cons t texts ih =>
    rw [String.intercalate_cons_cons, String.toList_append, String.toList_append, ih]
    simp [furtherChars]

/-- What comes after an item or a field is a comma or the closing mark. -/
theorem stops_further {c : Char} {t : Token} (h : mark? c = some t) (texts : List String)
    (rest : List Char) : Stops (furtherChars texts ++ c :: rest) := by
  cases texts with
  | nil => exact stops_cons h
  | cons s texts => exact stops_cons (t := .comma) rfl

namespace Stage

variable {stage : Stage} {stack : List Frame} {rest : List Char}

/-- A value may begin here, inside these containers. -/
def Awaits (stage : Stage) (stack : List Frame) : Prop :=
  ∀ t, t ≠ .endArray → stage.step? t = start? stack t

theorem awaits_value (stack : List Frame) : (value stack).Awaits stack := fun _ _ => rfl

theorem awaits_firstItem (stack : List Frame) :
    (firstItem stack).Awaits (.array [] :: stack) := by
  intro t ht
  cases t with
  | endArray => exact absurd rfl ht
  | _ => rfl

theorem Awaits.beginArray (h : stage.Awaits stack) (hopen : stack.length < depthLimit) :
    stage.step? .beginArray = some (firstItem stack) := by
  rw [h .beginArray nofun, start?, if_pos hopen]

theorem read?_scalar {t : Token} {d : Doc} {front : List Char} (hstage : stage.Awaits stack)
    (hstart : start? stack t = some (complete stack d)) (h : t.ScannedFrom front)
    (hrest : Stops rest) : stage.read? (front ++ rest) = (complete stack d).read? rest := by
  have ht : t ≠ .endArray := by
    rintro rfl
    cases hstart
  rw [read?_of_scannedFrom h hrest, hstage t ht, hstart, Option.bind_some]

mutual

/-- From where a value may begin, its text leads to where its document is complete. -/
theorem read?_json : ∀ v : Value, v.isFloatFree = true →
    ∀ {stage : Stage} {stack : List Frame} {rest : List Char},
    stage.Awaits stack → stack.length + v.depth ≤ depthLimit → Stops rest →
    stage.read? (v.json.toList ++ rest) = (complete stack v.toDoc).read? rest
  | .null, _, _, _, _, hstage, _, hrest =>
    read?_scalar hstage rfl (scannedFrom_word rfl rfl) hrest
  | .bool false, _, _, _, _, hstage, _, hrest
  | .bool true, _, _, _, _, hstage, _, hrest =>
    read?_scalar hstage rfl (scannedFrom_word rfl rfl) hrest
  | .int i, _, _, _, _, hstage, _, hrest => by
    have hlow := Int64.minValue_le_toInt i
    have hhigh := Int64.toInt_le i
    have hmin : Int64.minValue.toInt = -9223372036854775808 := rfl
    have hmax : Int64.maxValue.toInt = 9223372036854775807 := rfl
    have hwhole : ScannedFrom (.atom (.whole i.toInt)) (Value.int i).json.toList := by
      rw [Value.json, Value.toDoc, Doc.write, toList_wholeText]
      exact scannedFrom_wholeChars (by omega) (by omega)
    exact read?_scalar hstage rfl hwhole hrest
  | .text s, _, _, _, _, hstage, _, hrest =>
    read?_scalar (t := .text s) hstage rfl (scannedFrom_escape s) hrest
  | .array [], _, stage, stack, rest, hstage, hdepth, _ => by
    have hopen : stack.length < depthLimit := by
      simp only [Value.depth] at hdepth
      omega
    show stage.read? ('[' :: ']' :: rest) = _
    rw [read?_mark (t := .beginArray) rfl, hstage.beginArray hopen, Option.bind_some,
      read?_mark (t := .endArray) rfl]
    rfl
  | .array (v :: items), hfree, stage, stack, rest, hstage, hdepth, hrest => by
    obtain ⟨hv, hitems⟩ := Bool.and_eq_true_iff.1 hfree
    -- The array that is opened here takes the place on the stack that its own level pays for.
    have hmax : stack.length + (max v.depth (Value.depthAll items) + 1) ≤ depthLimit := hdepth
    have hopen : stack.length < depthLimit := by omega
    have htext : (Value.array (v :: items)).json.toList ++ rest = '[' :: (v.json.toList ++
        (furtherChars (Doc.writeAll (Value.toDocs items)) ++ ']' :: rest)) := by
      simp only [Value.json, Value.toDoc, Value.toDocs, Doc.write, Doc.writeAll,
        String.toList_append, toList_listed, List.append_assoc]
      rfl
    rw [htext, read?_mark (t := .beginArray) rfl, hstage.beginArray hopen, Option.bind_some,
      read?_json v hv (awaits_firstItem stack) (by rw [List.length_cons]; omega)
        (stops_further (t := .endArray) rfl _ _),
      read?_items items hitems (by omega)]
    rfl

/-- After a complete item, the text of the further items leads to the end of the array. -/
theorem read?_items : ∀ items : List Value, Value.allFloatFree items = true →
    ∀ {done : List Doc} {d : Doc} {stack : List Frame} {rest : List Char},
    stack.length + 1 + Value.depthAll items ≤ depthLimit →
    (complete (.array done :: stack) d).read?
        (furtherChars (Doc.writeAll (Value.toDocs items)) ++ ']' :: rest) =
      (complete stack (.array ((d :: done).reverse ++ Value.toDocs items))).read? rest
  | [], _, done, d, stack, rest, _ => by
    rw [Value.toDocs, List.append_nil]
    exact read?_mark (t := .endArray) rfl rest
  | v :: items, hfree, done, d, stack, rest, hdepth => by
    obtain ⟨hv, hitems⟩ := Bool.and_eq_true_iff.1 hfree
    have hmax : stack.length + 1 + max v.depth (Value.depthAll items) ≤ depthLimit := hdepth
    have htext : furtherChars (Doc.writeAll (Value.toDocs (v :: items))) ++ ']' :: rest =
        ',' :: (v.json.toList ++
          (furtherChars (Doc.writeAll (Value.toDocs items)) ++ ']' :: rest)) := by
      simp [Value.json, Value.toDocs, Doc.writeAll, furtherChars]
    rw [htext, read?_mark (t := .comma) rfl, step?, Option.bind_some,
      read?_json v hv (awaits_value _) (by rw [List.length_cons]; omega)
        (stops_further (t := .endArray) rfl _ _), read?_items items hitems (by omega)]
    simp [Value.toDocs]

end

variable {k : String} {v : Value} {fields : List (String × Doc)} {d : Doc}

/-- From where the name of a field may stand, a field leads to where its value is complete. -/
theorem read?_field (hstage : stage.step? (.text k) = some (colon stack fields k))
    (hv : v.isFloatFree = true) (hdepth : stack.length + 1 + v.depth ≤ depthLimit)
    (hrest : Stops rest) :
    stage.read? ((Doc.writeField (k, v.toDoc)).toList ++ rest) =
      (complete (.object fields k :: stack) v.toDoc).read? rest := by
  have htext : (Doc.writeField (k, v.toDoc)).toList ++ rest =
      (escape k).toList ++ ':' :: (v.json.toList ++ rest) := by
    simp [Doc.writeField, Value.json]
  rw [htext, read?_of_scannedFrom (scannedFrom_escape k) (stops_cons (t := .colon) rfl), hstage,
    Option.bind_some, read?_mark (t := .colon) rfl, step?, Option.bind_some,
    read?_json v hv (awaits_value _) (by rw [List.length_cons]; omega) hrest]

/-- After a complete field, the text of the further fields leads to the end of the object. -/
theorem read?_fields (b : Bindings)
    (hb : ∀ p ∈ b, p.2.isFloatFree = true ∧ stack.length + 1 + p.2.depth ≤ depthLimit) :
    (complete (.object fields k :: stack) d).read?
        (furtherChars (Doc.writeFields b.documents) ++ '\x7d' :: rest) =
      (complete stack (.object (b.documents.foldl (fun done f => Doc.insertField f.1 f.2 done)
        (Doc.insertField k d fields)))).read? rest := by
  induction b generalizing fields k d with
  | nil => exact read?_mark (t := .endObject) rfl rest
  | cons p b ih =>
    obtain ⟨⟨hv, hdepth⟩, hlater⟩ := List.forall_mem_cons.1 hb
    have htext : furtherChars (Doc.writeFields (Bindings.documents (p :: b))) ++ '\x7d' :: rest =
        ',' :: ((Doc.writeField (p.1, p.2.toDoc)).toList ++
          (furtherChars (Doc.writeFields (Bindings.documents b)) ++ '\x7d' :: rest)) := by
      simp [Bindings.documents, Doc.writeFields, furtherChars]
    rw [htext, read?_mark (t := .comma) rfl, step?, Option.bind_some,
      read?_field rfl hv hdepth (stops_further (t := .endObject) rfl _ _), ih hlater]
    rfl

/-- The text of an object leads to its fields in the order of their names. -/
theorem read?_object (b : Bindings)
    (hb : ∀ p ∈ b, p.2.isFloatFree = true ∧ p.2.depth < depthLimit) :
    (value []).read? (Doc.object b.documents).write.toList =
      some (complete [] (.object (Doc.collect b.documents))) := by
  have hopen : (value []).step? .beginObject = some (firstField []) := rfl
  cases b with
  | nil =>
    show (value []).read? ['\x7b', '\x7d'] = _
    rw [read?_mark (t := .beginObject) rfl, hopen, Option.bind_some,
      read?_mark (t := .endObject) rfl, step?, Option.bind_some, read?_nil]
    rfl
  | cons p b =>
    have hfits : ∀ q ∈ p :: b, q.2.isFloatFree = true ∧
        ([] : List Frame).length + 1 + q.2.depth ≤ depthLimit := by
      intro q hq
      obtain ⟨hfree, hdepth⟩ := hb q hq
      exact ⟨hfree, by rw [List.length_nil]; omega⟩
    obtain ⟨⟨hv, hdepth⟩, hlater⟩ := List.forall_mem_cons.1 hfits
    have hfield : (firstField []).step? (.text p.1) = some (colon [] [] p.1) := rfl
    have htext : (Doc.object (Bindings.documents (p :: b))).write.toList =
        '\x7b' :: ((Doc.writeField (p.1, p.2.toDoc)).toList ++
          (furtherChars (Doc.writeFields (Bindings.documents b)) ++ ['\x7d'])) := by
      have hbegin : "\x7b".toList = ['\x7b'] := rfl
      have hend : "\x7d".toList = ['\x7d'] := rfl
      simp only [Bindings.documents, List.map_cons, Doc.write, Doc.writeFields,
        String.toList_append, toList_listed, hbegin, hend, List.cons_append, List.nil_append,
        List.append_assoc]
    rw [htext, read?_mark (t := .beginObject) rfl, hopen, Option.bind_some,
      read?_field hfield hv hdepth (stops_further (t := .endObject) rfl _ _),
      read?_fields b hlater, read?_nil]
    rfl

end Stage

/-- The text of a value is read as its document. -/
theorem read?_value {v : Value} (hfree : v.isFloatFree = true)
    (hdepth : v.depth ≤ Stage.depthLimit) : read? v.json = some v.toDoc := by
  apply read?_of_complete
  have hread := Stage.read?_json v hfree (Stage.awaits_value [])
    (by rw [List.length_nil]; omega) stops_nil
  rwa [List.append_nil, Stage.read?_nil] at hread

end Json

/-! ## Values and rows -/

namespace Bindings

theorem map_fst_documents (b : Bindings) : b.documents.map Prod.fst = b.keys := by
  simp [documents, keys]

theorem map_ofDoc_documents (b : Bindings) :
    b.documents.map (fun f => (f.1, Value.ofDoc f.2)) = b := by
  have hsame : ((fun f : String × Doc => (f.1, Value.ofDoc f.2)) ∘
      fun p : String × Value => (p.1, p.2.toDoc)) = id := by
    funext p
    simp [Value.ofDoc_toDoc]
  rw [documents, List.map_map, hsame, List.map_id]

end Bindings

namespace Row

theorem read?_json {r : Row}
    (hbound : ∀ p ∈ r.bound, p.2.isFloatFree = true ∧ p.2.depth < Stage.depthLimit) :
    Json.read? r.json = some (.object (Doc.collect r.bound.documents)) :=
  read?_of_complete (Stage.read?_object r.bound hbound)

/-- The fields that are read make the row by name again. -/
theorem ofNamed_collect (r : Row) : ofNamed r.schema
    ((Doc.collect r.bound.documents).map fun f => (f.1, Value.ofDoc f.2)) = .ok r := by
  have hdistinct : (r.bound.documents.map Prod.fst).Nodup := by
    rw [Bindings.map_fst_documents]
    exact r.nodup_keys_bound
  have hperm := (Doc.perm_collect hdistinct).map fun f => (f.1, Value.ofDoc f.2)
  rw [Bindings.map_ofDoc_documents] at hperm
  exact r.ofNamed_of_perm hperm

/-- Values without floating point numbers return from their texts by either conversion, and the
rows that hold such values return by name from the ordered fields of their texts. -/
theorem values_and_rows_return (v : Value) (r : Row) :
    (v.isFloatFree = true → v.depth ≤ 127 →
      ∃ d, Json.read? v.json = some d ∧ Value.ofDoc d = v ∧ Value.ofDoc? d = some v) ∧
    ((∀ p ∈ r.bound, p.2.isFloatFree = true ∧ p.2.depth ≤ 126) →
      ∃ fields, Json.read? r.json = some (.object fields) ∧ Doc.Ordered fields ∧
        ofNamed r.schema (fields.map fun f => (f.1, Value.ofDoc f.2)) = .ok r) := by
  constructor
  · intro hfree hdepth
    exact ⟨v.toDoc, read?_value hfree hdepth, v.ofDoc_toDoc, v.ofDoc?_toDoc⟩
  · intro hbound
    have hfits : ∀ p ∈ r.bound, p.2.isFloatFree = true ∧ p.2.depth < Stage.depthLimit := by
      intro p hp
      obtain ⟨hfree, hdepth⟩ := hbound p hp
      exact ⟨hfree, Nat.lt_succ_of_le hdepth⟩
    exact ⟨Doc.collect r.bound.documents, read?_json hfits, Doc.ordered_collect _,
      r.ofNamed_collect⟩

/-- Places with their marks. -/
def places : Schema :=
  let d : Declaration :=
    ⟨"Place", [⟨"marks", .scalar .text⟩, ⟨"code", .scalar .int⟩, ⟨"area", .scalar .int⟩],
      ["code"], [], .named "here"⟩
  ⟨d, d.fault?_eq_none.1 (by decide)⟩

def marks : Value := .array [.array [.int Int64.minValue, .null], .text "\"\\\n\x01é", .array []]

/-- A place with an area that is null and without a code. -/
def place : Row := ⟨places, [some marks, none, some .null], rfl⟩

theorem place_returns :
    marks.json = "[[-9223372036854775808,null],\"\\\"\\\\\\n\\u0001é\",[]]" ∧
      (marks.isFloatFree = true ∧ marks.depth ≤ 127 ∧
        ∃ d, Json.read? marks.json = some d ∧ Value.ofDoc d = marks ∧
          Value.ofDoc? d = some marks) ∧
      place.bound = [("marks", marks), ("area", .null)] ∧
      (∀ p ∈ place.bound, p.2.isFloatFree = true ∧ p.2.depth ≤ 126) ∧
      ∃ fields, Json.read? place.json = some (.object fields) ∧ Doc.Ordered fields ∧
        ofNamed places (fields.map fun f => (f.1, Value.ofDoc f.2)) = .ok place := by
  have hfree : marks.isFloatFree = true := rfl
  have hdepth : marks.depth ≤ 127 := by decide
  have hbound : ∀ p ∈ place.bound, p.2.isFloatFree = true ∧ p.2.depth ≤ 126 := by decide
  obtain ⟨hvalue, hrow⟩ := values_and_rows_return marks place
  exact ⟨by decide, ⟨hfree, hdepth, hvalue hfree hdepth⟩, rfl, hbound, hrow hbound⟩

end Row
end RowSql
