import RowSql.Cursor

/-!
# Tracing is transparent

A traced cursor answers every request as its tape does, and leaves the tape as it would be
without the trace. What the trace adds is a log, and the log can be told from the requests and
their replies. Main statement: this holds of any run of requests, from any tape and under any
settings of the trace.
-/
namespace RowSql

/-! ## Settings -/

namespace TraceSetting

def level? : TraceSetting → Option Level
  | level l => some l
  | _ => none

def limit? : TraceSetting → Option (Option Nat)
  | level _ => none
  | limit bytes => some (some bytes)
  | whole => some none

end TraceSetting

namespace Trace

theorem level_foldl_adjust (t : Trace) (settings : List TraceSetting) :
    (settings.foldl adjust t).level =
      (settings.reverse.findSome? TraceSetting.level?).getD t.level := by
  induction settings generalizing t with
  | nil => rfl
  | cons setting rest ih =>
    rw [List.foldl_cons, ih, List.reverse_cons, List.findSome?_append]
    cases setting <;> cases rest.reverse.findSome? TraceSetting.level? <;> rfl

theorem limit_foldl_adjust (t : Trace) (settings : List TraceSetting) :
    (settings.foldl adjust t).limit =
      (settings.reverse.findSome? TraceSetting.limit?).getD t.limit := by
  induction settings generalizing t with
  | nil => rfl
  | cons setting rest ih =>
    rw [List.foldl_cons, ih, List.reverse_cons, List.findSome?_append]
    cases setting <;> cases rest.reverse.findSome? TraceSetting.limit? <;> rfl

end Trace

/-! ## Requests -/

/-- What a cursor can be asked. -/
inductive Request where
  | execute (sql : String) (parameters : List Value)
  | run (s : Statement)
  | fetchAll
  | marker

/-- What it replies. -/
inductive Reply where
  | executed (result : Except Fault Unit)
  | fetched (tuples : Tuples)
  | marker (m : Marker)

namespace Request

/-- The statement that a request has the cursor execute. -/
def statement? : Request → Option Statement
  | execute sql parameters => some ⟨sql, parameters⟩
  | run s => some s
  | _ => none

end Request

namespace Reply

def fault? : Reply → Option Fault
  | executed (.error fault) => some fault
  | _ => none

end Reply

/-- One answer: the state after it, the reply, and what is reported. -/
structure Answer (σ : Type) where
  state : σ
  reply : Reply
  log : List Event

/-- A tape reports nothing. -/
def Tape.answer (t : Tape) : Request → Answer Tape
  | .execute sql parameters =>
    let (result, tape) := t.execute ⟨sql, parameters⟩
    ⟨tape, .executed result, []⟩
  | .run s =>
    let (result, tape) := t.execute s
    ⟨tape, .executed result, []⟩
  | .fetchAll =>
    let (tuples, tape) := t.fetchAll
    ⟨tape, .fetched tuples, []⟩
  | .marker => ⟨t, .marker t.marker, []⟩

def Cursor.answer (c : Cursor) : Request → Answer Cursor
  | .execute sql parameters =>
    let o := c.execute ⟨sql, parameters⟩
    ⟨o.cursor, .executed o.result, o.log⟩
  | .run s =>
    let o := c.execute s
    ⟨o.cursor, .executed o.result, o.log⟩
  | .fetchAll =>
    let (tuples, rest) := c.fetchAll
    ⟨rest, .fetched tuples, []⟩
  | .marker => ⟨c, .marker c.marker, []⟩

/-- A run of requests: the last state, the replies in order, and all that was reported. -/
structure Session (σ : Type) where
  state : σ
  replies : List Reply := []
  log : List Event := []

namespace Session

variable {σ : Type}

def ofRequests (answer : σ → Request → Answer σ) : σ → List Request → Session σ
  | state, [] => { state }
  | state, request :: rest =>
    let first := answer state request
    let later := ofRequests answer first.state rest
    ⟨later.state, first.reply :: later.replies, first.log ++ later.log⟩

theorem length_replies (answer : σ → Request → Answer σ) (state : σ) (requests : List Request) :
    (ofRequests answer state requests).replies.length = requests.length := by
  induction requests generalizing state with
  | nil => rfl
  | cons request rest ih => rw [ofRequests, List.length_cons, ih, List.length_cons]

end Session

namespace Trace

/-- What a trace tells of a request and its reply: the statement before it runs, and then the
reason if it failed. -/
def told (t : Trace) (request : Request) (reply : Reply) : List Event :=
  match request.statement? with
  | none => []
  | some s =>
    .executing t.level s.parameters.length (t.shown s.sql) ::
      (reply.fault?.map fun fault => .failed fault.message).toList

/-- An execution is reported as its result says. -/
theorem log_execute (trace : Trace) (t : Tape) (s : Statement) :
    (Cursor.execute ⟨t, some trace⟩ s).log =
      .executing trace.level s.parameters.length (trace.shown s.sql) ::
        ((Reply.executed (t.execute s).1).fault?.map fun fault =>
          .failed fault.message).toList := by
  have hreport : (Cursor.execute ⟨t, some trace⟩ s).log =
      Cursor.report trace s (t.execute s).1 := rfl
  rw [hreport]
  cases (t.execute s).1 <;> rfl

/-- One request: the same reply, the same tape, and what the trace tells of them. -/
theorem answer_traced (trace : Trace) (t : Tape) (request : Request) :
    Cursor.answer ⟨t, some trace⟩ request =
      ⟨⟨(t.answer request).state, some trace⟩, (t.answer request).reply,
        trace.told request (t.answer request).reply⟩ := by
  cases request with
  | execute sql parameters =>
    have hlog := log_execute trace t ⟨sql, parameters⟩
    simp only [Cursor.answer, hlog]
    rfl
  | run s =>
    have hlog := log_execute trace t s
    simp only [Cursor.answer, hlog]
    rfl
  | fetchAll => rfl
  | marker => rfl

/-- A tape that answers any requests reports nothing. -/
theorem log_untraced (t : Tape) (requests : List Request) :
    (Session.ofRequests Tape.answer t requests).log = [] := by
  induction requests generalizing t with
  | nil => rfl
  | cons request rest ih =>
    have hfirst : (t.answer request).log = [] := by cases request <;> rfl
    rw [Session.ofRequests, hfirst, ih, List.append_nil]

/-- The same of a run of requests, one after the other. -/
theorem session_traced (trace : Trace) (t : Tape) (requests : List Request) :
    let bare := Session.ofRequests Tape.answer t requests
    Session.ofRequests Cursor.answer ⟨t, some trace⟩ requests =
      ⟨⟨bare.state, some trace⟩, bare.replies,
        (requests.zip bare.replies).flatMap fun p => trace.told p.1 p.2⟩ := by
  induction requests generalizing t with
  | nil => rfl
  | cons request rest ih =>
    have hlater := ih (t.answer request).state
    simp only [Session.ofRequests, answer_traced, hlater, List.zip_cons_cons,
      List.flatMap_cons]

/-- Under any settings, the last of each kind in force, a traced tape gives the replies of the
bare tape and ends as it does. The bare tape reports nothing. The trace reports each statement
once before it runs, at its level and with the text that its limit leaves, and behind it the
reason at the level of warnings if that statement fails; of other requests it tells nothing. -/
theorem tracing_transparent (t : Tape) (settings : List TraceSetting) (requests : List Request) :
    let trace := ofSettings settings
    let bare := Session.ofRequests Tape.answer t requests
    let traced := Session.ofRequests Cursor.answer ⟨t, some trace⟩ requests
    traced.replies = bare.replies ∧ bare.replies.length = requests.length ∧
      traced.state.tape = bare.state ∧ traced.state.trace = some trace ∧ bare.log = [] ∧
      traced.log = (requests.zip bare.replies).flatMap (fun p => trace.told p.1 p.2) ∧
      trace.level = (settings.reverse.findSome? TraceSetting.level?).getD .debug ∧
      trace.limit = (settings.reverse.findSome? TraceSetting.limit?).getD (some 200) ∧
      ∀ fault : Fault, (Event.failed fault.message).level = .warn := by
  intro trace bare traced
  have hsession : traced = ⟨⟨bare.state, some trace⟩, bare.replies, _⟩ :=
    session_traced trace t requests
  refine ⟨?_, Session.length_replies _ _ _, ?_, ?_, log_untraced t requests, ?_,
    level_foldl_adjust {} settings, limit_foldl_adjust {} settings, fun _ => rfl⟩
  all_goals rw [hsession]

end Trace
end RowSql
