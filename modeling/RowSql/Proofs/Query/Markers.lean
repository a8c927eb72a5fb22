import RowSql.Proofs.Query.Names

/-!
# Markers and parameters

A query that compiles is cut by its bound values into chunks of text. Main statement: for
every query, either all queries of its shape are refused with the same fault, whatever the
markers, or the statement is the chunks with one mark for each parameter. The chunks belong to
the shape of the query, each mark stands where its value belongs, and no chunk has a
character of a mark in it unless it was supplied verbatim.
-/
namespace RowSql

/-- A character that begins no mark. -/
def IsMarkFree (c : Char) : Prop := c ≠ '%' ∧ c ≠ '?' ∧ c ≠ '$'

instance : DecidablePred IsMarkFree := fun _ => inferInstanceAs (Decidable (_ ∧ _ ∧ _))

namespace Query

/-- The text between the bound values. -/
def chunks (q : Query) : List String := q.pieces.chunks

def parameters (q : Query) : List Value := q.pieces.parameters

/-- The same query but for its bound values: the same names are bound, to whatever. -/
def SameShape : Query → Query → Prop
  | insert q, insert r => q.row.schema = r.row.schema ∧
      q.row.cells.map Option.isSome = r.row.cells.map Option.isSome ∧
      q.returning = r.returning ∧ q.written = r.written
  | select q, select r => { q with conditions := r.conditions } = r ∧
      q.conditions.keys = r.conditions.keys
  | update q, update r => q.schema = r.schema ∧
      q.assignments.keys = r.assignments.keys ∧ q.conditions.keys = r.conditions.keys
  | join q, join r => q.schemas = r.schemas ∧ q.conditions.keys = r.conditions.keys
  | _, _ => False

/-- What goes into the text without a check of its characters. -/
def verbatim (q : Query) : List String := q.expressions ++ q.returning

/-- Each mark stands where its parameter belongs. In an insertion that is the slot of a
column that the row binds; elsewhere it follows the name that the parameter is for, and
assignments go before conditions. -/
def Placed : Query → Prop
  | insert q => q.pieces.parameters = q.kept.values ∧ q.columns.Nodup ∧ ∀ m,
      (q.slots m).length = q.columns.length ∧
      (q.pieces.render m).sql = "insert into " ++ q.row.schema.table ++
        (if q.columns = [] then " default values"
          else " (" ++ ",".intercalate q.columns ++ ") values (" ++
            ",".intercalate (q.slots m) ++ ")") ++ q.returningText ∧
      ∀ k p, q.kept[k]? = some p →
        ∃ i : Nat, q.columns[i]? = some p.1 ∧ (q.slots m)[i]? = some (m.mark (k + 1))
  | select q => q.pieces.parameters = q.conditions.values ∧
      Template.Introduced q.pieces.chunks q.conditions
  | update q => q.pieces.parameters = Bindings.values (q.assignments ++ q.conditions) ∧
      Template.Introduced q.pieces.chunks (q.assignments ++ q.conditions)
  | join q => q.pieces.parameters = q.conditions.values ∧
      Template.Introduced q.pieces.chunks q.conditions

/-- How the text of a query that compiles corresponds to its parameters. -/
structure Corresponds (q : Query) : Prop where
  count : q.chunks.length = q.parameters.length + 1
  woven : ∀ r, SameShape q r → r.chunks = q.chunks ∧
    r.parameters.length = q.parameters.length ∧
    ∀ m, r.build m = .ok ⟨Template.weave m 1 q.chunks, r.parameters⟩
  placed : q.Placed
  unmarked : (∀ text ∈ q.verbatim, Over IsMarkFree text) → ∀ c ∈ q.chunks, Over IsMarkFree c

end Query

/-! ## Queries of one shape -/

/-- What a slot holds whatever the values are. -/
def Entry.expression? : Entry → Option String
  | .bound _ => none
  | .written sql => some sql

namespace Insert

variable {q r : Insert}

/-- Columns with their expressions, bound ones without. -/
def outline (es : List (String × Entry)) : List (String × Option String) :=
  es.map fun e => (e.1, Entry.expression? e.2)

theorem map_fst_outline (es : List (String × Entry)) :
    (outline es).map Prod.fst = es.map Prod.fst := by
  simp [outline]

theorem outline_addWritten {es fs : List (String × Entry)} (h : outline es = outline fs)
    (w : String × String) : outline (addWritten es w) = outline (addWritten fs w) := by
  have hreplace : ∀ es : List (String × Entry),
      outline (es.map fun e => if e.1 = w.1 then (e.1, .written w.2) else e) =
        (outline es).map fun o => if o.1 = w.1 then (o.1, some w.2) else o := by
    intro es
    simp only [outline, List.map_map]
    apply List.map_congr_left
    intro e he
    by_cases hw : e.1 = w.1 <;> simp [hw, Entry.expression?]
  have hnames : es.map Prod.fst = fs.map Prod.fst := by
    rw [← map_fst_outline, h, map_fst_outline]
  unfold addWritten
  rw [hnames]
  split
  · rw [hreplace, hreplace, h]
  · unfold outline at h ⊢
    rw [List.map_append, List.map_append, h]

theorem outline_entries (hbound : q.row.bound.keys = r.row.bound.keys)
    (hwritten : q.written = r.written) : outline q.entries = outline r.entries := by
  have hfold : ∀ (written : List (String × String)) (es fs : List (String × Entry)),
      outline es = outline fs →
        outline (written.foldl addWritten es) = outline (written.foldl addWritten fs) := by
    intro written
    induction written with
    | nil => exact fun es fs h => h
    | cons w written ih => exact fun es fs h => ih _ _ (outline_addWritten h w)
  have hstart : ∀ b : Bindings, outline (b.map fun p => (p.1, Entry.bound p.2)) =
      b.keys.map fun k => (k, none) := by
    intro b
    simp [outline, Bindings.keys, Entry.expression?]
  unfold entries
  rw [hwritten]
  apply hfold
  rw [hstart, hstart, hbound]

theorem shape_entryPieces (es : List (String × Entry)) :
    Template.shape ((es.map fun e => entryPiece e.2).intersperse (.text ",")) =
      ((outline es).map Prod.snd).intersperse (some ",") := by
  induction es with
  | nil => rfl
  | cons e es ih =>
    obtain ⟨c, entry⟩ := e
    cases es with
    | nil => cases entry <;> rfl
    | cons e' es => cases entry <;> simpa [outline, entryPiece, Entry.expression?] using ih

theorem shape_valuesPieces {es fs : List (String × Entry)} (h : outline es = outline fs) :
    Template.shape (valuesPieces es) = Template.shape (valuesPieces fs) := by
  have hnames : es.map Prod.fst = fs.map Prod.fst := by
    rw [← map_fst_outline, h, map_fst_outline]
  have hnil : es = [] ↔ fs = [] := by
    rw [← List.map_eq_nil_iff (f := Prod.fst), hnames, List.map_eq_nil_iff]
  unfold valuesPieces
  by_cases hes : es = []
  · rw [if_pos hes, if_pos (hnil.1 hes)]
  · rw [if_neg hes, if_neg (fun hfs => hes (hnil.2 hfs)), hnames]
    simp only [Template.shape_cons_text, Template.shape_append, shape_entryPieces, h]

theorem shape_pieces (hschema : q.row.schema = r.row.schema)
    (hbound : q.row.bound.keys = r.row.bound.keys) (hreturning : q.returning = r.returning)
    (hwritten : q.written = r.written) : Template.shape q.pieces = Template.shape r.pieces := by
  simp only [pieces, Template.shape_cons_text, Template.shape_append, hschema, hreturning,
    shape_valuesPieces (outline_entries hbound hwritten)]

end Insert

namespace Query

variable {q r : Query}

theorem length_parameters_of_shape {t u : Template} (h : t.shape = u.shape) :
    t.parameters.length = u.parameters.length := by
  have hchunks := congrArg List.length (Template.chunksFrom_eq_of_shape h "")
  simpa using hchunks

theorem SameShape.shape_pieces (h : SameShape q r) : q.pieces.shape = r.pieces.shape := by
  cases q <;> cases r <;> try exact h.elim
  case insert q r =>
    obtain ⟨hschema, hcells, hreturning, hwritten⟩ := h
    refine Insert.shape_pieces hschema ?_ hreturning hwritten
    rw [Row.keys_bound, Row.keys_bound, hschema, hcells]
  case select q r =>
    obtain ⟨hr, hkeys⟩ := h
    rw [← hr] at hkeys ⊢
    simp [pieces, Select.pieces, Template.shape_conditions hkeys, Select.orderText,
      Select.limitText, Select.lockText]
  case update q r =>
    obtain ⟨hschema, hset, hwhere⟩ := h
    simp [pieces, Update.pieces, hschema, Template.shape_assignments hset,
      Template.shape_conditions hwhere]
  case join q r =>
    obtain ⟨hschemas, hkeys⟩ := h
    simp [pieces, Join.pieces, Join.stars, hschemas, Template.shape_conditions hkeys]

/-- Values play no part in what a query is refused for. -/
theorem SameShape.fault?_eq (h : SameShape q r) : q.fault? = r.fault? := by
  cases q <;> cases r <;> try exact h.elim
  case insert q r => simp [fault?, Insert.fault?, h.2.2.2]
  case select q r =>
    obtain ⟨hr, hkeys⟩ := h
    rw [← hr] at hkeys ⊢
    simp [fault?, Select.fault?, hkeys]
  case update q r =>
    obtain ⟨hschema, hset, hwhere⟩ := h
    have hnil : q.assignments = [] ↔ r.assignments = [] := by
      rw [← List.map_eq_nil_iff (f := Prod.fst), ← List.map_eq_nil_iff (f := Prod.fst)]
      exact iff_of_eq (congrArg (· = []) hset)
    simp [fault?, Update.fault?, hschema, hset, hwhere, hnil]
  case join q r =>
    obtain ⟨hschemas, hkeys⟩ := h
    simp [fault?, Join.fault?, Join.strayCondition?, hschemas, hkeys]

/-! ## Places of the marks -/

theorem placed (q : Query) : q.Placed := by
  cases q with
  | insert q =>
    refine ⟨q.parameters_pieces, q.nodup_columns, fun m => ⟨?_, q.sql_pieces m, ?_⟩⟩
    · simp [Insert.slots, Insert.columns]
    · intro k p hp
      rw [← Insert.boundOf_entries] at hp
      simpa [Insert.columns, Insert.slots, Nat.add_comm] using
        Insert.slot_of_boundOf m 1 k q.entries hp
  | select q =>
    refine ⟨by simp [Select.pieces, Template.parameters], ?_⟩
    have h := Template.introduced_conditions q.conditions
      (Template.introduced_text (q.orderText ++ q.limitText ++ q.lockText))
      ("" ++ ("select " ++ ",".intercalate q.fields ++ " from " ++ q.schema.table))
    rwa [List.append_nil] at h
  | update q =>
    refine ⟨by simp [Update.pieces, Template.parameters, Bindings.values], ?_⟩
    have hwhere := Template.introduced_conditions q.conditions Template.introduced_nil
    simp only [List.append_nil] at hwhere
    exact Template.introduced_assignments "," q.assignments hwhere
      ("" ++ ("update " ++ q.schema.table ++ " set "))
  | join q =>
    refine ⟨by simp [Join.pieces, Template.parameters], ?_⟩
    have h := Template.introduced_conditions q.conditions Template.introduced_nil
      ("" ++ ("select " ++ q.stars ++ " from " ++ Join.tables q.schemas))
    rw [List.append_nil, List.append_nil] at h
    exact h

/-! ## Characters of the marks -/

theorem isMarkFree_of_isWordChar {c : Char} (h : Name.IsWordChar c) : IsMarkFree c := by
  refine ⟨?_, ?_, ?_⟩
  all_goals
    rintro rfl
    exact absurd h (by decide)

theorem markFree_of_star_or_plain {s : String} (h : s = "*" ∨ Name.IsPlain s) :
    Over IsMarkFree s := by
  rcases h with rfl | h
  · decide
  · exact h.over.mono fun _ => isMarkFree_of_isWordChar

theorem markFree_vocabulary : ∀ text ∈ Token.vocabulary, Over IsMarkFree text := by decide

theorem markFree_digits (n : Nat) : Over IsMarkFree (String.ofList (Nat.toDigits 10 n)) := by
  refine (Over.digits n).mono fun c hc => isMarkFree_of_isWordChar ?_
  simp [Name.IsWordChar, Name.isFollower, Char.isAlphanum, hc]

/-- What an admissible token writes, if it has no text that came in unchecked. -/
theorem markFree_of_admissible {expressions returning : List String} {t : Token}
    (ht : t.Admissible expressions returning)
    (h : ∀ text ∈ expressions ++ returning, Over IsMarkFree text) {s : String}
    (hs : t.piece = .text s) : Over IsMarkFree s := by
  cases t with
  | bound v => cases hs
  | fixed text =>
    cases hs
    exact markFree_vocabulary s ht
  | verbatim text =>
    cases hs
    exact h s (List.mem_append_left _ ht)
  | number n =>
    cases hs
    exact markFree_digits n
  | name part text =>
    cases hs
    by_cases hpart : part = .returning
    · subst hpart
      exact h s (List.mem_append_right _ ht)
    · exact markFree_of_star_or_plain (Part.star_or_plain (ht.admits hpart))

theorem markFree_chunks {q : Query} (hq : q.fault? = none)
    (h : ∀ text ∈ q.verbatim, Over IsMarkFree text) : ∀ c ∈ q.chunks, Over IsMarkFree c := by
  have htokens : Template.TextOver IsMarkFree (Token.template q.tokens) := by
    intro s hs
    obtain ⟨t, ht, hpiece⟩ := List.mem_map.1 hs
    exact markFree_of_admissible (admissible_tokens hq t ht) h hpiece
  have hchunks : q.chunks = (Token.template q.tokens).chunks := (q.alike_tokens.chunks "").symm
  rw [hchunks]
  exact Template.over_of_mem_chunksFrom htokens Over.empty

end Query
end RowSql
