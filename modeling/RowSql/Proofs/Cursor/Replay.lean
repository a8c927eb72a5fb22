import Mathlib.Data.List.Induction
import RowSql.Proofs.Cursor.Transparent

/-!
# Replaying a script

A tape is used: it is asked something, or rows are put on it by hand. Every reply can be told
from the script and from what was done with the tape before. Executions end as the entries of
the script say, one after the other, and a fetch takes what the last execution or the last hand
left there, once. Main statement: `Tape.replays_script`.
-/
namespace RowSql

/-- The results that executions meet, in order. -/
abbrev Script := List (Except String Tuples)

namespace Script

variable (script : Script)

/-- How the execution after `n` others ends: well, unless its entry is a failure. -/
def result (n : Nat) : Except Fault Unit :=
  match script[n]? with
  | some (.error reason) => .error (.cursor reason)
  | _ => .ok ()

/-- The rows that this execution leaves: those of its entry, if it has one with rows. -/
def rows (n : Nat) : Tuples :=
  match script[n]? with
  | some (.ok rows) => rows
  | _ => []

end Script

/-- What can be done with a tape. -/
inductive Use where
  | ask (request : Request)
  | prime (rows : Tuples)

namespace Use

/-- The statement that a use has the tape execute. -/
def statement? : Use → Option Statement
  | ask request => request.statement?
  | prime _ => none

/-- The rows that a use after `n` executions leaves to be fetched, whatever waited before. -/
def left? (script : Script) (n : Nat) : Use → Option Tuples
  | ask request => request.statement?.map fun _ => script.rows n
  | prime rows => some rows

variable {u : Use} {s : Statement} {script : Script}

theorem left?_of_statement (h : u.statement? = some s) (n : Nat) :
    u.left? script n = some (script.rows n) := by
  cases u with
  | ask request =>
    have hrequest : request.statement? = some s := h
    rw [left?, hrequest, Option.map_some]
  | prime rows => cases h

end Use

/-- The statements that uses have a tape execute, in order. -/
def statements (uses : List Use) : List Statement := uses.filterMap Use.statement?

@[simp] theorem statements_append (uses later : List Use) :
    statements (uses ++ later) = statements uses ++ statements later :=
  List.filterMap_append

theorem statements_singleton (u : Use) : statements [u] = u.statement?.toList := by
  cases h : u.statement? <;> simp [statements, h]

namespace Tape

variable {t t' : Tape} {u : Use} {s : Statement} {script : Script} {m : Marker}
  {uses before quiet : List Use} {rows : Tuples} {n : Nat}

/-- One use: the tape after it, and the reply if something was asked. -/
def use (t : Tape) : Use → Tape × Option Reply
  | .ask request =>
    let answer := t.answer request
    (answer.state, some answer.reply)
  | .prime rows => (t.prime rows, none)

/-- One use after the other. -/
def play : Tape → List Use → Tape × List (Option Reply)
  | t, [] => (t, [])
  | t, u :: rest =>
    let (next, reply) := t.use u
    let (last, replies) := next.play rest
    (last, reply :: replies)

theorem play_append (t : Tape) (uses later : List Use) :
    t.play (uses ++ later) = (((t.play uses).1.play later).1,
      (t.play uses).2 ++ ((t.play uses).1.play later).2) := by
  induction uses generalizing t with
  | nil => rfl
  | cons u uses ih => simp only [List.cons_append, play, ih]

theorem length_play (t : Tape) (uses : List Use) : (t.play uses).2.length = uses.length := by
  induction uses generalizing t with
  | nil => rfl
  | cons u uses ih => simp only [play, List.length_cons, ih]

/-- The replies from some use on are those of the tape that the uses before it leave. -/
theorem drop_play (t : Tape) (before after : List Use) :
    (t.play (before ++ after)).2.drop before.length = ((t.play before).1.play after).2 := by
  rw [play_append, List.drop_left' (t.length_play before)]

theorem reply_play (t : Tape) (before after : List Use) (u : Use) :
    (t.play (before ++ u :: after)).2[before.length]? = some ((t.play before).1.use u).2 := by
  rw [← List.head?_drop, drop_play]
  rfl

/-! ## Executions -/

/-- Executing is all that a use with a statement does, and the result is its reply. -/
theorem use_of_statement (h : u.statement? = some s) :
    t.use u = ((t.execute s).2, some (.executed (t.execute s).1)) := by
  cases u with
  | ask request => cases request <;> cases h <;> rfl
  | prime rows => cases h

/-- An execution meets the first entry that is left of the script. -/
theorem execute_eq (h : t.script = script.drop n) (s : Statement) :
    t.execute s = (script.result n,
      { t with
        executed := t.executed ++ [s]
        script := script.drop (n + 1)
        pending := script.rows n }) := by
  have hentry : t.script.head? = script[n]? := by rw [h, List.head?_drop]
  have hlater : t.script.tail = script.drop (n + 1) := by rw [h, List.tail_drop]
  unfold execute Script.result Script.rows
  rw [← hentry, ← hlater]
  cases t.script with
  | nil => rfl
  | cons entry rest => cases entry <;> rfl

/-- Neither the records nor the rows that waited before bear on an execution. -/
theorem execute_congr (hmarker : t'.marker = t.marker) (hscript : t'.script = t.script)
    (s : Statement) : t'.execute s =
      ((t.execute s).1, { (t.execute s).2 with executed := t'.executed ++ [s] }) := by
  have hdrop : t.script = t.script.drop 0 := rfl
  rw [execute_eq hdrop, execute_eq (hscript.trans hdrop), hmarker]

/-- The records do not show in what a use replies and leaves. -/
theorem use_recorded (t : Tape) (executed : List Statement) (u : Use) :
    ∃ recorded, use { t with executed } u =
      ({ (t.use u).1 with executed := recorded }, (t.use u).2) := by
  cases hu : u.statement? with
  | some s =>
    have hsame : ({ t with executed } : Tape).execute s =
        ((t.execute s).1, { (t.execute s).2 with executed := executed ++ [s] }) := by
      apply execute_congr <;> rfl
    refine ⟨executed ++ [s], ?_⟩
    rw [use_of_statement hu, use_of_statement hu, hsame]
  | none =>
    refine ⟨executed, ?_⟩
    cases u with
    | ask request =>
      cases request with
      | execute => cases hu
      | run => cases hu
      | fetchAll => rfl
      | marker => rfl
    | prime rows => rfl

theorem replies_recorded (t : Tape) (executed : List Statement) (uses : List Use) :
    (play { t with executed } uses).2 = (t.play uses).2 := by
  induction uses generalizing t executed with
  | nil => rfl
  | cons u uses ih =>
    obtain ⟨recorded, huse⟩ := t.use_recorded executed u
    simp only [play, huse, ih]

/-- What an execution and all later uses reply does not depend on the rows that waited before. -/
theorem replies_of_statement (hmarker : t'.marker = t.marker) (hscript : t'.script = t.script)
    (hu : u.statement? = some s) (later : List Use) :
    (t'.play (u :: later)).2 = (t.play (u :: later)).2 := by
  simp only [play, use_of_statement hu, execute_congr hmarker hscript, replies_recorded]

/-! ## What waits to be fetched -/

/-- A use that neither leaves rows nor takes any. -/
def IsQuiet (u : Use) : Prop := u = .ask .marker

/-- What waits after some uses. The last one that is not quiet decides: it left rows, or it was
a fetch and took them. Before any such use nothing waits. -/
inductive Waits (script : Script) : List Use → Tuples → Prop where
  | left {before quiet : List Use} {u : Use} {rows : Tuples}
      (hleft : u.left? script (statements before).length = some rows)
      (hquiet : ∀ q ∈ quiet, IsQuiet q) : Waits script (before ++ u :: quiet) rows
  | taken {before quiet : List Use} (hquiet : ∀ q ∈ quiet, IsQuiet q) :
      Waits script (before ++ .ask .fetchAll :: quiet) []
  | untouched {quiet : List Use} (hquiet : ∀ q ∈ quiet, IsQuiet q) : Waits script quiet []

theorem Waits.append_marker (h : Waits script uses rows) :
    Waits script (uses ++ [.ask .marker]) rows := by
  have hmore : ∀ quiet : List Use, (∀ q ∈ quiet, IsQuiet q) →
      ∀ q ∈ quiet ++ [.ask .marker], IsQuiet q := by
    intro quiet hquiet q hq
    exact (List.mem_append.1 hq).elim (hquiet q) List.mem_singleton.1
  cases h with
  | left hleft hquiet =>
    rw [List.append_assoc]
    exact .left hleft (hmore _ hquiet)
  | taken hquiet =>
    rw [List.append_assoc]
    exact .taken (hmore _ hquiet)
  | untouched hquiet => exact .untouched (hmore _ hquiet)

/-- A tape that held a script and nothing else, after some uses. -/
structure Reached (m : Marker) (script : Script) (uses : List Use) (t : Tape) : Prop where
  marker : t.marker = m
  executed : t.executed = statements uses
  remaining : t.script = script.drop (statements uses).length
  waits : Waits script uses t.pending

/-- A use without a statement neither records anything nor uses up the script. -/
theorem Reached.of_no_statement (h : Reached m script uses t) (hu : u.statement? = none)
    (hwaits : Waits script (uses ++ [u]) rows) :
    Reached m script (uses ++ [u]) { t with pending := rows } := by
  have hstatements : statements (uses ++ [u]) = statements uses := by
    rw [statements_append, statements_singleton, hu, Option.toList_none, List.append_nil]
  refine ⟨h.marker, ?_, ?_, hwaits⟩
  · rw [hstatements]
    exact h.executed
  · rw [hstatements]
    exact h.remaining

theorem Reached.of_statement (h : Reached m script uses t) (hu : u.statement? = some s) :
    Reached m script (uses ++ [u]) (t.execute s).2 := by
  have hstatements : statements (uses ++ [u]) = statements uses ++ [s] := by
    rw [statements_append, statements_singleton, hu, Option.toList_some]
  rw [execute_eq h.remaining]
  refine ⟨h.marker, ?_, ?_, .left (Use.left?_of_statement hu _) (by simp)⟩
  · rw [hstatements, ← h.executed]
  · rw [hstatements, List.length_append, List.length_singleton]

theorem Reached.use (h : Reached m script uses t) (u : Use) :
    Reached m script (uses ++ [u]) (t.use u).1 := by
  cases hu : u.statement? with
  | some s =>
    rw [use_of_statement hu]
    exact h.of_statement hu
  | none =>
    cases u with
    | ask request =>
      cases request with
      | execute => cases hu
      | run => cases hu
      | fetchAll => exact h.of_no_statement hu (.taken (by simp))
      | marker => exact h.of_no_statement hu h.waits.append_marker
    | prime rows => exact h.of_no_statement hu (.left rfl (by simp))

/-- From a script and nothing else, uses lead to where they should. -/
theorem reached_play (m : Marker) (script : Script) (uses : List Use) :
    Reached m script uses (play { marker := m, script } uses).1 := by
  induction uses using List.reverseRecOn with
  | nil => exact ⟨rfl, rfl, rfl, .untouched (by simp)⟩
  | append_singleton uses u ih =>
    rw [play_append]
    exact ih.use u

theorem play_quiet (t : Tape) (hquiet : ∀ q ∈ quiet, IsQuiet q) : (t.play quiet).1 = t := by
  induction quiet generalizing t with
  | nil => rfl
  | cons q quiet ih =>
    obtain ⟨hq, hrest⟩ := List.forall_mem_cons.1 hquiet
    subst hq
    exact ih t hrest

theorem pending_use_of_left (hscript : t.script = script.drop n)
    (hleft : u.left? script n = some rows) : (t.use u).1.pending = rows := by
  cases hu : u.statement? with
  | some s =>
    rw [Use.left?_of_statement hu] at hleft
    rw [use_of_statement hu, execute_eq hscript]
    exact Option.some.inj hleft
  | none =>
    cases u with
    | ask request =>
      have hrequest : request.statement? = none := hu
      rw [Use.left?, hrequest] at hleft
      cases hleft
    | prime rows' => exact Option.some.inj hleft

/-- What waits is told by what has happened. -/
theorem waits_iff : Waits script uses rows ↔
    (play { marker := m, script } uses).1.pending = rows := by
  constructor
  · intro h
    cases h with
    | @left before quiet u _ hleft hquiet =>
      have hbefore := (reached_play m script before).remaining
      have hpending := pending_use_of_left hbefore hleft
      rw [play_append]
      simp only [play, play_quiet _ hquiet, hpending]
    | taken hquiet =>
      rw [play_append]
      simp only [play, play_quiet _ hquiet]
      rfl
    | untouched hquiet => rw [play_quiet _ hquiet]
  · rintro rfl
    exact (reached_play m script uses).waits

/-! ## What is handed out -/

/-- The rows that replies hand out, in order. -/
def delivered (replies : List (Option Reply)) : Tuples :=
  replies.flatMap fun
    | some (.fetched rows) => rows
    | _ => []

/-- The rows that uses after `n` executions leave to be fetched, in order. -/
def leftFrom (script : Script) : Nat → List Use → Tuples
  | _, [] => []
  | n, u :: rest =>
    (u.left? script n).getD [] ++ leftFrom script (n + (statements [u]).length) rest

/-- Rows are handed out in the order in which they were left, and none of them twice. -/
theorem delivered_sublist (uses : List Use) (hscript : t.script = script.drop n) :
    (delivered (t.play uses).2).Sublist (t.pending ++ leftFrom script n uses) := by
  -- Rows that wait stand in front of those still to be left: a fetch hands them out before any
  -- other, and an execution or a priming drops them.
  induction uses generalizing t n with
  | nil => exact List.nil_sublist _
  | cons u uses ih =>
    cases hu : u.statement? with
    | some s =>
      have hone : n + (statements [u]).length = n + 1 := by rw [statements_singleton, hu]; rfl
      have hlater := ih (t := (t.use u).1) (n := n + 1) (by
        rw [use_of_statement hu, execute_eq hscript])
      rw [pending_use_of_left hscript (Use.left?_of_statement hu n)] at hlater
      rw [leftFrom, Use.left?_of_statement hu, Option.getD_some, hone]
      simp only [play, use_of_statement hu] at hlater ⊢
      exact hlater.trans (List.sublist_append_right _ _)
    | none =>
      have hnone : n + (statements [u]).length = n := by rw [statements_singleton, hu]; rfl
      rw [leftFrom, hnone]
      cases u with
      | ask request =>
        cases request with
        | execute => cases hu
        | run => cases hu
        | fetchAll =>
          have hlater := ih (t := { t with pending := [] }) hscript
          exact hlater.append_left t.pending
        | marker => exact ih hscript
      | prime rows =>
        have hlater := ih (t := t.prime rows) hscript
        exact hlater.trans (List.sublist_append_right _ _)

/-! ## Main statement -/

/-- What a tape has recorded and replied, told from its script and its uses. -/
structure Replays (m : Marker) (script : Script) (uses : List Use)
    (played : Tape × List (Option Reply)) : Prop where
  length_eq : played.2.length = uses.length
  executed_eq : played.1.executed = statements uses
  /-- An execution ends as its entry says. -/
  result_eq : ∀ before u after s, uses = before ++ u :: after → u.statement? = some s →
    played.2[before.length]? = some (some (.executed (script.result (statements before).length)))
  /-- A fetch takes what waits. -/
  fetched_eq : ∀ before after, uses = before ++ .ask .fetchAll :: after →
    ∃ rows, played.2[before.length]? = some (some (.fetched rows)) ∧
      ∀ waiting, Waits script before waiting ↔ waiting = rows
  /-- No row is handed out twice. -/
  delivered_once : (delivered played.2).Sublist (leftFrom script 0 uses)
  /-- From an execution on, all is as if the rest of the script were played from the start: no
  earlier row turns up again. -/
  afresh : ∀ before u after s, uses = before ++ u :: after → u.statement? = some s →
    played.2.drop before.length =
      (play { marker := m, script := script.drop (statements before).length } (u :: after)).2

/-- A tape replays its script whatever is done with it. -/
theorem replays_script (m : Marker) (script : Script) (uses : List Use) :
    Replays m script uses (play { marker := m, script } uses) where
  length_eq := length_play _ uses
  executed_eq := (reached_play m script uses).executed
  result_eq := by
    rintro before u after s rfl hu
    have hbefore := reached_play m script before
    rw [reply_play, use_of_statement hu, execute_eq hbefore.remaining]
  fetched_eq := by
    rintro before after rfl
    refine ⟨_, reply_play _ before after _, fun waiting => ?_⟩
    rw [waits_iff (m := m)]
    exact eq_comm
  delivered_once := delivered_sublist uses rfl
  afresh := by
    rintro before u after s rfl hu
    have hbefore := reached_play m script before
    rw [drop_play]
    exact replies_of_statement hbefore.marker hbefore.remaining hu after

end Tape
end RowSql
