import Mathlib.Data.List.Forall2
import Mathlib.Data.List.Infix
import RowSql.Proofs.Cursor.Transparent

/-!
# Statements as they are shown

A statement that is too long is cut at a place that is found by going back from the limit byte
by byte. A character takes four bytes at most, so a boundary between characters is never more
than three bytes away, and the beginning of the text is one. Main statement: what a trace logs
of a statement is its whole text if that fits or there is no limit, and otherwise the longest
front of whole characters that fits, with three dots behind it; the search takes three steps at
most, and the text is cut where it ends. In the log of a whole session the same holds of every
statement.
-/
namespace RowSql

def Event.isExecuting : Event → Bool
  | executing .. => true
  | _ => false

namespace Trace

/-- A place, counted in bytes, with whole characters on both of its sides. -/
def IsBoundary (sql : String) (place : Nat) : Prop :=
  ∃ front rest, sql = front ++ rest ∧ front.utf8ByteSize = place

/-- A search that goes back from one place to another in so many steps of one byte. It steps
back from inside a character only, and could not from the beginning of the text. -/
inductive Back (sql : String) : Nat → Nat → Nat → Prop
  | here {place : Nat} (hplace : IsBoundary sql place) : Back sql place 0 place
  | step {place steps found : Nat} (hinside : ¬ IsBoundary sql (place + 1))
      (hback : Back sql place steps found) : Back sql (place + 1) (steps + 1) found

/-- A front of whole characters that fits, and no other that fits has more of them. -/
structure IsLongestFront (sql : String) (limit : Nat) (front : String) : Prop where
  leads : ∃ rest, sql = front ++ rest
  fits : front.utf8ByteSize ≤ limit
  longest : ∀ other rest, sql = other ++ rest → other.utf8ByteSize ≤ limit →
    other.length ≤ front.length

/-- What is shown of a statement under a limit, or without one. -/
structure ShownWithin (limit : Option Nat) (sql text : String) : Prop where
  whole : (∀ bytes ∈ limit, sql.utf8ByteSize ≤ bytes) → text = sql
  cut : ∀ bytes ∈ limit, bytes < sql.utf8ByteSize →
    ∃ front, IsLongestFront sql bytes front ∧ text = front ++ "..."

variable {sql : String} {place steps found : Nat}

theorem isValid_iff_isBoundary :
    String.Pos.Raw.IsValid sql ⟨place⟩ ↔ IsBoundary sql place := by
  rw [String.Pos.Raw.isValid_iff_exists_append, IsBoundary]
  simp only [String.Pos.Raw.ext_iff, String.byteIdx_rawEndPos, eq_comm]

theorem isBoundary_zero (sql : String) : IsBoundary sql 0 := ⟨"", sql, by simp, rfl⟩

/-- A boundary of a text is one of a longer text as well. -/
theorem IsBoundary.append_left (h : IsBoundary sql place) (front : String) :
    IsBoundary (front ++ sql) (front.utf8ByteSize + place) := by
  obtain ⟨before, rest, rfl, rfl⟩ := h
  exact ⟨front ++ before, rest, by rw [String.append_assoc], by simp⟩

/-- Within four bytes there is a boundary, since no character takes more. -/
theorem exists_isBoundary_near (h : place < sql.utf8ByteSize) :
    ∃ near, near ≤ place ∧ place ≤ near + 3 ∧ IsBoundary sql near := by
  obtain ⟨cs, rfl⟩ : ∃ cs, sql = String.ofList cs := ⟨sql.toList, by simp⟩
  induction cs generalizing place with
  | nil => simp at h
  | cons c cs ih =>
    rw [String.ofList_cons] at h ⊢
    have hc : (String.singleton c).utf8ByteSize ≤ 4 := by
      simpa using c.utf8Size_le_four
    -- The beginning of the first character is near inside it; else the rest has a boundary near.
    by_cases hplace : place < (String.singleton c).utf8ByteSize
    · exact ⟨0, Nat.zero_le _, by omega, isBoundary_zero _⟩
    · rw [String.utf8ByteSize_append] at h
      have hrest : place - (String.singleton c).utf8ByteSize < (String.ofList cs).utf8ByteSize := by
        omega
      obtain ⟨near, hle, hnear, hboundary⟩ := ih hrest
      exact ⟨_, by omega, by omega, hboundary.append_left _⟩

namespace Back

variable {p : Nat}

/-- Each step goes back by one byte. -/
theorem found_add_steps (h : Back sql place steps found) : found + steps = place := by
  induction h with
  | here hplace => rfl
  | step hinside hback ih => rw [← ih, Nat.add_assoc]

/-- No boundary is passed over. -/
theorem le_found (h : Back sql place steps found) (hp : IsBoundary sql p) (hle : p ≤ place) :
    p ≤ found := by
  induction h with
  | here hplace => exact hle
  | step hinside hback ih =>
    apply ih
    rcases Nat.lt_or_eq_of_le hle with hlt | rfl
    · exact Nat.le_of_lt_succ hlt
    · exact absurd hp hinside

/-- From inside a text the search is short. -/
theorem steps_le (h : Back sql place steps found) (hplace : place < sql.utf8ByteSize) :
    steps ≤ 3 := by
  obtain ⟨near, hle, hnear, hboundary⟩ := exists_isBoundary_near hplace
  have hfound := h.le_found hboundary hle
  have hsteps := h.found_add_steps
  omega

end Back

/-- The boundary before a place is what the search from there finds. -/
theorem back_boundary (sql : String) (place : Nat) :
    ∃ steps, Back sql place steps (boundary sql place).offset.byteIdx := by
  induction place with
  | zero => exact ⟨0, .here (isBoundary_zero sql)⟩
  | succ place ih =>
    rw [boundary]
    split
    · rename_i hvalid
      exact ⟨0, .here (isValid_iff_isBoundary.1 hvalid)⟩
    · rename_i hvalid
      obtain ⟨steps, hback⟩ := ih
      exact ⟨steps + 1, .step (mt isValid_iff_isBoundary.2 hvalid) hback⟩

/-- Of two fronts of a text, one that takes no more bytes has no more characters. -/
theorem length_le_of_utf8ByteSize_le {front other rest rest' : String}
    (h : front ++ rest = other ++ rest') (hsize : other.utf8ByteSize ≤ front.utf8ByteSize) :
    other.length ≤ front.length := by
  have hlist := congrArg String.toList h
  simp only [String.toList_append] at hlist
  rw [← String.length_toList, ← String.length_toList]
  rcases List.prefix_or_prefix_of_prefix (List.prefix_append other.toList rest'.toList)
    ⟨rest.toList, hlist⟩ with hother | ⟨more, hmore⟩
  · exact hother.length_le
  · obtain rfl : other = front ++ String.ofList more :=
      String.toList_injective (by simpa using hmore.symm)
    -- No bytes are left for more characters.
    rw [String.utf8ByteSize_append] at hsize
    have hempty : String.ofList more = "" := String.utf8ByteSize_eq_zero_iff.1 (by omega)
    simp [hempty]

theorem cut_of_lt {limit : Nat} (h : limit < sql.utf8ByteSize) :
    cut sql limit = (sql.sliceTo (boundary sql limit)).copy := if_neg (Nat.not_le.2 h)

/-- A text that is too long is cut where the search ends. -/
theorem splits_cut {limit : Nat} (h : limit < sql.utf8ByteSize) :
    (∃ rest, sql = cut sql limit ++ rest) ∧
      (boundary sql limit).offset.byteIdx = (cut sql limit).utf8ByteSize := by
  have hsplits := (boundary sql limit).splits
  rw [← cut_of_lt h] at hsplits
  exact ⟨⟨_, hsplits.eq_append⟩, congrArg String.Pos.Raw.byteIdx hsplits.offset_eq_rawEndPos⟩

theorem isLongestFront_cut {limit : Nat} (h : limit < sql.utf8ByteSize) :
    IsLongestFront sql limit (cut sql limit) := by
  obtain ⟨⟨rest, hrest⟩, hfound⟩ := splits_cut h
  obtain ⟨steps, hback⟩ := back_boundary sql limit
  rw [hfound] at hback
  have hsteps := hback.found_add_steps
  refine ⟨⟨rest, hrest⟩, by omega, fun other rest' hother hfits => ?_⟩
  exact length_le_of_utf8ByteSize_le (hrest.symm.trans hother)
    (hback.le_found ⟨other, rest', hother, rfl⟩ hfits)

section

variable {t : Trace} {limit : Nat}

theorem shown_of_none (h : t.limit = none) : t.shown sql = sql := by
  rw [shown, h]

theorem shown_of_le (h : t.limit = some limit) (hfits : sql.utf8ByteSize ≤ limit) :
    t.shown sql = sql := by
  rw [shown, h]
  exact if_pos hfits

theorem shown_of_lt (h : t.limit = some limit) (hlong : limit < sql.utf8ByteSize) :
    t.shown sql = cut sql limit ++ "..." := by
  rw [shown, h]
  exact if_neg (Nat.not_le.2 hlong)

end

/-- A trace logs a statement as a whole if it fits or there is no limit, and otherwise its
longest front of whole characters that fits, with three dots behind. The place to cut is found
by going back from the limit, in at most three steps that each leave the inside of a character,
and no step leads back from the beginning. -/
theorem logged_whole_or_cut (t : Trace) (tape : Tape) (s : Statement) :
    ∃ text, (Cursor.execute ⟨tape, some t⟩ s).log.head? =
        some (.executing t.level s.parameters.length text) ∧
      (t.limit = none → text = s.sql) ∧
      ∀ limit, t.limit = some limit →
        (s.sql.utf8ByteSize ≤ limit → text = s.sql) ∧
        (limit < s.sql.utf8ByteSize →
          text = cut s.sql limit ++ "..." ∧ IsLongestFront s.sql limit (cut s.sql limit) ∧
          (boundary s.sql limit).offset.byteIdx = (cut s.sql limit).utf8ByteSize ∧
          ∃ steps, steps ≤ 3 ∧ Back s.sql limit steps (boundary s.sql limit).offset.byteIdx) := by
  refine ⟨t.shown s.sql, by rw [log_execute, List.head?_cons], shown_of_none, ?_⟩
  intro limit hlimit
  refine ⟨shown_of_le hlimit, fun hlong => ?_⟩
  obtain ⟨steps, hback⟩ := back_boundary s.sql limit
  exact ⟨shown_of_lt hlimit hlong, isLongestFront_cut hlong, (splits_cut hlong).2, steps,
    hback.steps_le hlong, hback⟩

/-- Three steps back, to the beginning of a character of four bytes. -/
example : shown { limit := some 6 } "aé😀" = "aé..." := by decide +kernel

/-! ## Sessions -/

theorem shownWithin_shown (t : Trace) (sql : String) : ShownWithin t.limit sql (t.shown sql) where
  whole h := by
    cases hlimit : t.limit with
    | none => exact shown_of_none hlimit
    | some bytes => exact shown_of_le hlimit (h bytes hlimit)
  cut bytes hlimit hlong := ⟨_, isLongestFront_cut hlong, shown_of_lt hlimit hlong⟩

/-- One execution is told of a request that has the cursor execute, and none of the others. -/
theorem executions_told (t : Trace) (request : Request) (reply : Reply) :
    (t.told request reply).filter Event.isExecuting =
      (request.statement?.map fun s =>
        .executing t.level s.parameters.length (t.shown s.sql)).toList := by
  unfold told
  cases request.statement? with
  | none => rfl
  | some s => cases reply.fault? <;> rfl

theorem executions_session (trace : Trace) (t : Tape) (requests : List Request) :
    (Session.ofRequests Cursor.answer ⟨t, some trace⟩ requests).log.filter Event.isExecuting =
      (requests.filterMap Request.statement?).map fun s =>
        .executing trace.level s.parameters.length (trace.shown s.sql) := by
  induction requests generalizing t with
  | nil => rfl
  | cons request rest ih =>
    rw [Session.ofRequests, answer_traced, List.filter_append, executions_told, ih,
      List.filterMap_cons]
    cases request.statement? <;> rfl

/-- Under any settings, the executions in the log of a session are those of its statements, in
their order, and each statement is shown within the last limit that was set. -/
theorem executions_shownWithin (t : Tape) (settings : List TraceSetting)
    (requests : List Request) :
    let trace := ofSettings settings
    let limit := (settings.reverse.findSome? TraceSetting.limit?).getD (some 200)
    let traced := Session.ofRequests Cursor.answer ⟨t, some trace⟩ requests
    List.Forall₂ (fun s event => ∃ text, event = .executing trace.level s.parameters.length text ∧
        ShownWithin limit s.sql text)
      (requests.filterMap Request.statement?) (traced.log.filter Event.isExecuting) := by
  intro trace limit traced
  have hlimit : trace.limit = limit := limit_foldl_adjust {} settings
  rw [executions_session, List.forall₂_map_right_iff, List.forall₂_same]
  intro s _
  exact ⟨_, rfl, hlimit ▸ trace.shownWithin_shown s.sql⟩

end Trace
end RowSql
