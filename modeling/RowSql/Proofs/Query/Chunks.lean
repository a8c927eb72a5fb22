import Mathlib.Data.List.Forall2
import RowSql.Proofs.Text.Span
import RowSql.Query.Template

/-!
# Chunks of a template

Between its bound values a template is plain text. Cutting it there gives its chunks: one
before the first value, one between each two neighbours and one after the last. A statement
is its chunks with marks woven in, so the style of the marks and the values behind them have
no part in the chunks.
-/
namespace RowSql
namespace Template

/-- The chunks of a template, `lead` being text that stands before it. -/
def chunksFrom (lead : String) : Template → List String
  | [] => [lead]
  | .text s :: rest => chunksFrom (lead ++ s) rest
  | .bind _ :: rest => lead :: chunksFrom "" rest

def chunks (t : Template) : List String := chunksFrom "" t

/-- Chunks with marks between them, the first of which is the `n`-th. -/
def weave (m : Marker) : Nat → List String → String
  | _, [] => ""
  | _, [c] => c
  | n, c :: d :: rest => c ++ m.mark n ++ weave m (n + 1) (d :: rest)

/-- The same text and the same places of bound values, whatever the values. -/
def shape (t : Template) : List (Option String) :=
  t.map fun
    | .text s => some s
    | .bind _ => none

variable {t u : Template} {lead : String}

theorem chunksFrom_ne_nil (t : Template) (lead : String) : chunksFrom lead t ≠ [] := by
  fun_induction chunksFrom lead t <;> simp_all

@[simp] theorem length_chunksFrom (t : Template) (lead : String) :
    (chunksFrom lead t).length = t.parameters.length + 1 := by
  fun_induction chunksFrom lead t <;> simp_all [parameters]

@[simp] theorem length_chunks (t : Template) : t.chunks.length = t.parameters.length + 1 :=
  length_chunksFrom t ""

/-- What follows a template goes on with the last chunk of it. -/
theorem chunksFrom_append (t u : Template) (lead : String) : chunksFrom lead (t ++ u) =
    (chunksFrom lead t).dropLast ++ chunksFrom ((chunksFrom lead t).getLastD "") u := by
  induction t generalizing lead with
  | nil => rfl
  | cons p t ih =>
    cases p with
    | text s => exact ih (lead ++ s)
    | bind v =>
      obtain ⟨c, cs, hcs⟩ := List.exists_cons_of_ne_nil (chunksFrom_ne_nil t "")
      have hrest := ih ""
      rw [hcs] at hrest
      rw [List.cons_append, chunksFrom, chunksFrom, hrest, hcs]
      rfl

theorem weave_cons (m : Marker) (n : Nat) (c : String) {rest : List String} (h : rest ≠ []) :
    weave m n (c :: rest) = c ++ m.mark n ++ weave m (n + 1) rest := by
  obtain ⟨d, rest, rfl⟩ := List.exists_cons_of_ne_nil h
  rfl

theorem weave_chunksFrom (m : Marker) (n : Nat) (t : Template) (lead : String) :
    weave m n (chunksFrom lead t) = lead ++ sqlFrom m n t := by
  induction t generalizing n lead with
  | nil => simp [chunksFrom, weave, sqlFrom]
  | cons p t ih =>
    cases p with
    | text s => rw [chunksFrom, sqlFrom, ih, String.append_assoc]
    | bind v =>
      rw [chunksFrom, sqlFrom, weave_cons m n lead (chunksFrom_ne_nil t ""), ih,
        String.empty_append, String.append_assoc]

/-- A rendered template is its chunks with the marks woven in. -/
theorem render_eq_weave (m : Marker) (t : Template) :
    t.render m = ⟨weave m 1 t.chunks, t.parameters⟩ := by
  rw [render, chunks, weave_chunksFrom, String.empty_append]

/-- The chunks depend on the shape only. -/
theorem chunksFrom_eq_of_shape (h : t.shape = u.shape) (lead : String) :
    chunksFrom lead t = chunksFrom lead u := by
  induction t generalizing u lead with
  | nil =>
    cases u with
    | nil => rfl
    | cons q u => simp [shape] at h
  | cons p t ih =>
    cases u with
    | nil => simp [shape] at h
    | cons q u =>
      obtain ⟨hpq, htu⟩ := List.cons.inj h
      cases p <;> cases q <;> simp only [reduceCtorEq, Option.some.injEq] at hpq
      · rw [hpq, chunksFrom, chunksFrom, ih htu]
      · rw [chunksFrom, chunksFrom, ih htu]

@[simp] theorem shape_append (t u : Template) : (t ++ u).shape = t.shape ++ u.shape := by
  simp [shape]

@[simp] theorem shape_cons_text (s : String) (t : Template) :
    shape (.text s :: t) = some s :: t.shape := rfl

@[simp] theorem shape_cons_bind (v : Value) (t : Template) :
    shape (.bind v :: t) = none :: t.shape := rfl

theorem shape_assignments {b c : Bindings} (h : b.keys = c.keys) (separator : String) :
    shape (assignments separator b) = shape (assignments separator c) := by
  induction b generalizing c with
  | nil =>
    cases c with
    | nil => rfl
    | cons q c => simp [Bindings.keys] at h
  | cons p b ih =>
    cases c with
    | nil => simp [Bindings.keys] at h
    | cons q c =>
      simp only [Bindings.keys, List.map_cons, List.cons.injEq] at h
      obtain ⟨hk, hrest⟩ := h
      cases b with
      | nil =>
        cases c with
        | nil => simp [assignments, hk, shape]
        | cons r c => simp at hrest
      | cons r b =>
        cases c with
        | nil => simp at hrest
        | cons r' c => simp [assignments, hk, ih hrest]

theorem shape_conditions {b c : Bindings} (h : b.keys = c.keys) :
    shape (conditions b) = shape (conditions c) := by
  cases b with
  | nil =>
    cases c with
    | nil => rfl
    | cons q c => simp [Bindings.keys] at h
  | cons p b =>
    cases c with
    | nil => simp [Bindings.keys] at h
    | cons q c => simp [conditions, shape_assignments h]

/-! ## What stands before a mark -/

/-- The chunk before a mark ends with the name that the value is for and an equals sign. -/
def Introduces (chunk : String) (p : String × Value) : Prop :=
  ∃ before, chunk = before ++ p.1 ++ "="

/-- Each chunk but the last introduces the binding at its place. -/
def Introduced (chunks : List String) (b : Bindings) : Prop :=
  List.Forall₂ Introduces chunks.dropLast b

theorem introduced_cons_bind (hlead : Introduces lead p) (h : Introduced (chunksFrom "" t) b)
    (v : Value) : Introduced (chunksFrom lead (.bind v :: t)) (p :: b) := by
  rw [Introduced, chunksFrom, List.dropLast_cons_of_ne_nil (chunksFrom_ne_nil t "")]
  exact .cons hlead h

/-- Assignments introduce their bindings, and what follows them introduces its own. -/
theorem introduced_assignments (separator : String) (b : Bindings) {c : Bindings}
    (h : ∀ lead, Introduced (chunksFrom lead t) c) (lead : String) :
    Introduced (chunksFrom lead (assignments separator b ++ t)) (b ++ c) := by
  induction b generalizing lead with
  | nil => exact h lead
  | cons p b ih =>
    obtain ⟨k, v⟩ := p
    have hk : Introduces (lead ++ (k ++ "=")) (k, v) := ⟨lead, (String.append_assoc ..).symm⟩
    cases b with
    | nil => exact introduced_cons_bind hk (h "") v
    | cons q b =>
      have hrest := ih ("" ++ separator)
      exact introduced_cons_bind (t := .text separator :: (assignments separator (q :: b) ++ t))
        hk hrest v

theorem introduced_conditions (b : Bindings) {c : Bindings}
    (h : ∀ lead, Introduced (chunksFrom lead t) c) (lead : String) :
    Introduced (chunksFrom lead (conditions b ++ t)) (b ++ c) := by
  cases b with
  | nil => exact h lead
  | cons p b => exact introduced_assignments " and " (p :: b) h (lead ++ " where ")

theorem introduced_text (s lead : String) : Introduced (chunksFrom lead [.text s]) [] := .nil

theorem introduced_nil (lead : String) : Introduced (chunksFrom lead []) [] := .nil

/-! ## The alphabet of the chunks -/

variable {P : Char → Prop}

/-- The text pieces of a template, all over one alphabet. -/
def TextOver (P : Char → Prop) (t : Template) : Prop := ∀ s, .text s ∈ t → Over P s

@[simp] theorem textOver_cons_text {s : String} :
    TextOver P (.text s :: t) ↔ Over P s ∧ TextOver P t := by simp [TextOver]

@[simp] theorem textOver_cons_bind {v : Value} : TextOver P (.bind v :: t) ↔ TextOver P t := by
  simp [TextOver]

theorem over_of_mem_chunksFrom (ht : TextOver P t) (hlead : Over P lead) :
    ∀ c ∈ chunksFrom lead t, Over P c := by
  induction t generalizing lead with
  | nil => simpa [chunksFrom] using hlead
  | cons p t ih =>
    cases p with
    | text s =>
      rw [textOver_cons_text] at ht
      exact ih ht.2 (Over.append_iff.2 ⟨hlead, ht.1⟩)
    | bind v =>
      intro c hc
      rcases List.mem_cons.1 hc with rfl | hc
      · exact hlead
      · exact ih (textOver_cons_bind.1 ht) Over.empty c hc

end Template
end RowSql
