/-!
# Spans of text

A span is a stretch of text over an alphabet, followed by nothing or by a character outside
the alphabet. Where a text is known to begin with a span, the span and what follows it can
be read off. The same holds of a list of joined texts when each of them can be read off in
front of the joint.
-/
namespace RowSql

/-- All characters of the text belong to the alphabet `P`. -/
def Over (P : Char → Prop) (s : String) : Prop := ∀ c ∈ s.toList, P c

/-- The text is empty, or its first character lies outside the alphabet `P`. -/
def StopsAt (P : Char → Prop) (s : String) : Prop := ∀ c ∈ s.toList.head?, ¬ P c

/-- What can stand behind an entry of a joined list: nothing, or the joint and more. -/
def Continues (joint s : String) : Prop := s = "" ∨ ∃ rest, s = joint ++ rest

namespace Over

variable {P Q : Char → Prop} {s t : String}

instance [DecidablePred P] : Decidable (Over P s) := List.decidableBAll P s.toList

theorem mono (h : ∀ c, P c → Q c) (hs : Over P s) : Over Q s := fun c hc => h c (hs c hc)

@[simp] theorem empty : Over P "" := by simp [Over]

@[simp] theorem append_iff : Over P (s ++ t) ↔ Over P s ∧ Over P t := by
  simp only [Over, String.toList_append, List.mem_append]
  constructor
  · intro h
    exact ⟨fun c hc => h c (Or.inl hc), fun c hc => h c (Or.inr hc)⟩
  · rintro ⟨hs, ht⟩ c (hc | hc)
    · exact hs c hc
    · exact ht c hc

theorem intercalate {l : List String} (hsep : Over P s) (hl : ∀ t ∈ l, Over P t) :
    Over P (s.intercalate l) := by
  induction l with
  | nil => simp
  | cons t l ih =>
    by_cases h : l = []
    · simpa [h] using hl t (by simp)
    · rw [String.intercalate_cons_of_ne_nil h]
      have hrest := ih fun u hu => hl u (by simp [hu])
      simp [hl t (by simp), hsep, hrest]

/-- Decimal digits and nothing else. -/
theorem digits (n : Nat) :
    Over (fun c => c.isDigit = true) (String.ofList (Nat.toDigits 10 n)) := by
  intro c hc
  rw [String.toList_ofList] at hc
  exact Nat.isDigit_of_mem_toDigits (by omega) (by omega) hc

end Over

namespace StopsAt

variable {P : Char → Prop} {s : String}

instance [DecidablePred P] : Decidable (StopsAt P s) := Option.decidableForallMem s.toList.head?

@[simp] theorem empty : StopsAt P "" := by simp [StopsAt]

/-- What stands behind the first character does not matter. -/
theorem append (h : StopsAt P s) (hs : s ≠ "") (t : String) : StopsAt P (s ++ t) := by
  obtain ⟨c, rest, hchars⟩ := List.exists_cons_of_ne_nil (l := s.toList) (by simpa using hs)
  intro d hd
  apply h d
  simpa [hchars] using hd

end StopsAt

theorem Continues.stopsAt {P : Char → Prop} {joint s : String}
    (hjoint : joint ≠ "" ∧ StopsAt P joint) (h : Continues joint s) : StopsAt P s := by
  rcases h with rfl | ⟨rest, rfl⟩
  · exact StopsAt.empty
  · exact hjoint.2.append hjoint.1 rest

namespace Span

variable {P : Char → Prop}

theorem eq_of_append_eq_list {α : Type} {P : α → Prop} {a b x y : List α}
    (ha : ∀ c ∈ a, P c) (hb : ∀ c ∈ b, P c) (hx : ∀ c ∈ x.head?, ¬ P c)
    (hy : ∀ c ∈ y.head?, ¬ P c) (h : a ++ x = b ++ y) : a = b ∧ x = y := by
  induction a generalizing b with
  | nil =>
    cases b with
    | nil => exact ⟨rfl, h⟩
    | cons d b => exact absurd (hb d (by simp)) (hx d (by simp at h; simp [h]))
  | cons c a ih =>
    cases b with
    | nil => exact absurd (ha c (by simp)) (hy c (by simp at h; simp [← h]))
    | cons d b =>
      obtain ⟨rfl, hrest⟩ := List.cons.inj h
      obtain ⟨rfl, rfl⟩ := ih (fun e he => ha e (by simp [he]))
        (fun e he => hb e (by simp [he])) hrest
      exact ⟨rfl, rfl⟩

/-- Two texts that begin with a span over the same alphabet begin with the same one. -/
theorem eq_of_append_eq {a b x y : String} (ha : Over P a) (hb : Over P b) (hx : StopsAt P x)
    (hy : StopsAt P y) (h : a ++ x = b ++ y) : a = b ∧ x = y := by
  have hlist := congrArg String.toList h
  simp only [String.toList_append] at hlist
  obtain ⟨hab, hxy⟩ := eq_of_append_eq_list ha hb hx hy hlist
  exact ⟨String.toList_injective hab, String.toList_injective hxy⟩

/-- A span is read up to a mark that it cannot hold, and what follows the mark is left. -/
theorem eq_of_append_mark_eq {mark a b x y : String} (hmark : mark ≠ "" ∧ StopsAt P mark)
    (ha : Over P a) (hb : Over P b) (h : a ++ (mark ++ x) = b ++ (mark ++ y)) :
    a = b ∧ x = y := by
  obtain ⟨hne, hstop⟩ := hmark
  obtain ⟨hspan, hrest⟩ := eq_of_append_eq ha hb (hstop.append hne x) (hstop.append hne y) h
  exact ⟨hspan, (String.append_right_inj mark).1 hrest⟩

theorem mem_intersperse {α : Type} {x separator : α} {l : List α}
    (h : x ∈ l.intersperse separator) : x = separator ∨ x ∈ l := by
  induction l with
  | nil => simp at h
  | cons y l ih =>
    cases l with
    | nil => exact Or.inr h
    | cons z l =>
      rw [List.intersperse_cons_cons, List.mem_cons, List.mem_cons] at h
      rcases h with rfl | rfl | h
      · exact Or.inr (by simp)
      · exact Or.inl rfl
      · exact (ih h).imp_right (List.mem_cons_of_mem _)

theorem mem_intersperse_of_mem {α : Type} {x separator : α} {l : List α} (h : x ∈ l) :
    x ∈ l.intersperse separator := by
  induction l with
  | nil => simp at h
  | cons y l ih =>
    cases l with
    | nil => exact h
    | cons z l =>
      rw [List.intersperse_cons_cons]
      rcases List.mem_cons.1 h with rfl | h
      · exact List.mem_cons_self
      · exact List.mem_cons_of_mem _ (List.mem_cons_of_mem _ (ih h))

/-- What stands behind an entry of a joined list, `l` being the entries after it. -/
def behind (joint : String) (l : List String) : String :=
  if l = [] then "" else joint ++ joint.intercalate l

theorem intercalate_cons (joint a : String) (l : List String) :
    joint.intercalate (a :: l) = a ++ behind joint l := by
  unfold behind
  split
  · rename_i hl
    simp [hl]
  · rename_i hl
    rw [String.intercalate_cons_of_ne_nil hl, String.append_assoc]

theorem continues_behind (joint : String) (l : List String) : Continues joint (behind joint l) := by
  unfold behind
  split
  · exact Or.inl rfl
  · exact Or.inr ⟨_, rfl⟩

theorem behind_eq_empty_iff {joint : String} (hjoint : joint ≠ "") {l : List String} :
    behind joint l = "" ↔ l = [] := by
  unfold behind
  split
  · simp_all
  · rename_i hl
    simp [hl, hjoint]

/-- Joined entries that are not empty come to nothing only when there are none. -/
theorem intercalate_eq_empty_iff {joint : String} {l : List String} (h : ∀ s ∈ l, s ≠ "") :
    joint.intercalate l = "" ↔ l = [] := by
  cases l with
  | nil => simp
  | cons a l => simp [intercalate_cons, h a]

/-- A joined list can be cut apart again where each entry can be read off in front of the
joint. -/
theorem eq_of_intercalate_eq {joint : String} {l m : List String} (hjoint : joint ≠ "")
    (hempty : l = [] ↔ m = [])
    (hread : ∀ a ∈ l, ∀ b ∈ m, ∀ x y, Continues joint x → Continues joint y →
      a ++ x = b ++ y → a = b ∧ x = y)
    (h : joint.intercalate l = joint.intercalate m) : l = m := by
  induction l generalizing m with
  | nil => exact (hempty.1 rfl).symm
  | cons a l ih =>
    cases m with
    | nil => exact hempty.2 rfl
    | cons b m =>
      rw [intercalate_cons, intercalate_cons] at h
      obtain ⟨rfl, hbehind⟩ := hread a (by simp) b (by simp) _ _ (continues_behind joint l)
        (continues_behind joint m) h
      have hends : l = [] ↔ m = [] := by
        rw [← behind_eq_empty_iff hjoint, hbehind, behind_eq_empty_iff hjoint]
      by_cases hl : l = []
      · rw [hl, hends.1 hl]
      · rw [behind, behind, if_neg hl, if_neg (mt hends.2 hl), String.append_right_inj] at hbehind
        rw [ih hends (fun c hc d hd => hread c (by simp [hc]) d (by simp [hd])) hbehind]

/-- Entries over an alphabet that the joint is not over can be read off in front of it. -/
theorem eq_of_append_eq_of_continues {joint a b x y : String}
    (hjoint : joint ≠ "" ∧ StopsAt P joint) (ha : Over P a) (hb : Over P b)
    (hx : Continues joint x) (hy : Continues joint y) (h : a ++ x = b ++ y) : a = b ∧ x = y :=
  eq_of_append_eq ha hb (hx.stopsAt hjoint) (hy.stopsAt hjoint) h

/-- The same where a list between commas stands at the head of a text. -/
theorem eq_of_listed_append_eq {l m : List String} {x y : String} (hcomma : ¬ P ',')
    (hl : l ≠ []) (hm : m ≠ []) (hlP : ∀ s ∈ l, Over P s) (hmP : ∀ s ∈ m, Over P s)
    (hx : StopsAt (fun c => P c ∨ c = ',') x) (hy : StopsAt (fun c => P c ∨ c = ',') y)
    (h : ",".intercalate l ++ x = ",".intercalate m ++ y) : l = m ∧ x = y := by
  have hover : ∀ k : List String, (∀ s ∈ k, Over P s) →
      Over (fun c => P c ∨ c = ',') (",".intercalate k) :=
    fun k hk => Over.intercalate (by simp [Over]) fun s hs => (hk s hs).mono fun _ => Or.inl
  obtain ⟨hlists, hrest⟩ := eq_of_append_eq (hover l hlP) (hover m hmP) hx hy h
  refine ⟨eq_of_intercalate_eq (by decide) (by simp [hl, hm]) ?_ hlists, hrest⟩
  intro a ha b hb v w
  exact eq_of_append_eq_of_continues ⟨by decide, by simpa [StopsAt] using hcomma⟩ (hlP a ha)
    (hmP b hb)

end Span
end RowSql
