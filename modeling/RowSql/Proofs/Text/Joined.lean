import RowSql.Fragment
import RowSql.Proofs.Text.Span

/-!
# Joined fragments

Fragments are joined in one pass, which looks at what has been written so far to tell whether a
delimiter is due. That text is empty only as long as every fragment was absent, so the pass
comes to the texts that are not empty with the delimiter between them, and absent fragments make
no difference wherever they stand. Main statement: `Fragment.joins`.
-/
namespace RowSql
namespace Fragment

/-- Each of some fragments can be rendered, to the text in its place. -/
def Rendered (fragments : List Fragment) (texts : List String) : Prop :=
  fragments.map render = texts.map .ok

/-- All fragments before some fragment can be rendered, and that one fails. -/
def FirstFailing (fragments : List Fragment) (fault : Fault) : Prop :=
  ∃ before f after, fragments = before ++ f :: after ∧ (∃ texts, Rendered before texts) ∧
    f.render = .error fault

def isAbsent (f : Fragment) : Bool :=
  match f.render with
  | .ok s => s = ""
  | .error _ => false

/-- The texts that are not empty, with a delimiter between them. -/
def spaced (delim : String) (texts : List String) : String :=
  delim.intercalate (texts.filter (· ≠ ""))

/-- How fragments are joined with a delimiter. -/
structure Joins (delim : String) : Prop where
  ok_iff : ∀ fragments text, join delim fragments = .ok text ↔
    ∃ texts, Rendered fragments texts ∧ text = spaced delim texts
  error_iff : ∀ fragments fault, join delim fragments = .error fault ↔ FirstFailing fragments fault
  /-- Lists that differ in absent fragments only. -/
  absent : ∀ fragments others : List Fragment,
    fragments.filter (!·.isAbsent) = others.filter (!·.isAbsent) →
      join delim fragments = join delim others
  /-- A list in two parts that are joined on their own. -/
  parts : ∀ front back, join delim (front ++ back) = do
    let left ← join delim front
    let right ← join delim back
    join delim [.text left, .text right]

variable {delim text : String} {fragments : List Fragment} {texts : List String} {f : Fragment}
  {fault : Fault}

/-! ## Texts with a delimiter -/

theorem spaced_eq_empty_iff : spaced delim texts = "" ↔ texts.filter (· ≠ "") = [] :=
  Span.intercalate_eq_empty_iff fun s hs => by simpa using (List.mem_filter.1 hs).2

theorem spaced_singleton (delim text : String) : spaced delim [text] = text := by
  by_cases h : text = "" <;> simp [spaced, h]

/-- Two lists are written one behind the other, with the delimiter where both come to some
text. -/
theorem spaced_append (delim : String) (l m : List String) :
    spaced delim (l ++ m) =
      if spaced delim m = "" then spaced delim l
      else if spaced delim l = "" then spaced delim m
      else spaced delim l ++ delim ++ spaced delim m := by
  split
  · rename_i hm
    rw [spaced, List.filter_append, spaced_eq_empty_iff.1 hm, List.append_nil, spaced]
  · rename_i hm
    split
    · rename_i hl
      rw [spaced, List.filter_append, spaced_eq_empty_iff.1 hl, List.nil_append, spaced]
    · rename_i hl
      rw [spaced, List.filter_append, String.intercalate_append_of_ne_nil
        (mt spaced_eq_empty_iff.2 hl) (mt spaced_eq_empty_iff.2 hm), spaced, spaced]

/-! ## One pass -/

theorem Rendered.cons (hf : f.render = .ok text) (h : Rendered fragments texts) :
    Rendered (f :: fragments) (text :: texts) := by
  simp_all [Rendered]

theorem Rendered.append {others : List Fragment} {texts' : List String}
    (h : Rendered fragments texts) (h' : Rendered others texts') :
    Rendered (fragments ++ others) (texts ++ texts') := by
  simp_all [Rendered]

/-- One step adds the text of the fragment to those written so far. -/
theorem extend_of_render (h : f.render = .ok text) (delim : String) (written : List String) :
    extend delim (spaced delim written) f = .ok (spaced delim (written ++ [text])) := by
  rw [spaced_append, spaced_singleton, extend, h]
  rfl

/-- What the pass has written is at each place the texts up to it. -/
theorem foldlM_extend (h : Rendered fragments texts) (delim : String) (written : List String) :
    fragments.foldlM (extend delim) (spaced delim written) =
      .ok (spaced delim (written ++ texts)) := by
  -- The texts written so far stay open, since each step adds one to them.
  induction fragments generalizing texts written with
  | nil =>
    cases texts with
    | nil =>
      rw [List.append_nil]
      rfl
    | cons text texts => simp [Rendered] at h
  | cons f fragments ih =>
    cases texts with
    | nil => simp [Rendered] at h
    | cons text texts =>
      obtain ⟨hf, hrest⟩ := List.cons.inj h
      have hlater := ih hrest (written ++ [text])
      rw [List.append_assoc] at hlater
      rw [List.foldlM_cons, extend_of_render hf]
      exact hlater

theorem join_of_rendered (h : Rendered fragments texts) (delim : String) :
    join delim fragments = .ok (spaced delim texts) := foldlM_extend h delim []

theorem join_of_firstFailing (h : FirstFailing fragments fault) (delim : String) :
    join delim fragments = .error fault := by
  obtain ⟨before, f, after, rfl, ⟨texts, htexts⟩, hf⟩ := h
  rw [join, List.foldlM_append, ← join, join_of_rendered htexts]
  simp only [bind, Except.bind, List.foldlM_cons, extend, hf]

theorem FirstFailing.append_left (h : FirstFailing fragments fault) {front : List Fragment}
    (hfront : Rendered front texts) : FirstFailing (front ++ fragments) fault := by
  obtain ⟨before, f, after, rfl, ⟨texts', hbefore⟩, hf⟩ := h
  exact ⟨front ++ before, f, after, by simp, ⟨_, hfront.append hbefore⟩, hf⟩

theorem FirstFailing.append_right (h : FirstFailing fragments fault) (back : List Fragment) :
    FirstFailing (fragments ++ back) fault := by
  obtain ⟨before, f, after, rfl, hbefore, hf⟩ := h
  exact ⟨before, f, after ++ back, by simp, hbefore, hf⟩

theorem rendered_or_firstFailing (fragments : List Fragment) :
    (∃ texts, Rendered fragments texts) ∨ ∃ fault, FirstFailing fragments fault := by
  induction fragments with
  | nil => exact Or.inl ⟨[], rfl⟩
  | cons f fragments ih =>
    cases hf : f.render with
    | error fault => exact Or.inr ⟨fault, [], f, fragments, rfl, ⟨[], rfl⟩, hf⟩
    | ok text =>
      rcases ih with ⟨texts, htexts⟩ | ⟨fault, before, g, after, rfl, ⟨texts, htexts⟩, hg⟩
      · exact Or.inl ⟨text :: texts, htexts.cons hf⟩
      · exact Or.inr ⟨fault, f :: before, g, after, rfl, ⟨text :: texts, htexts.cons hf⟩, hg⟩

theorem join_eq_ok_iff : join delim fragments = .ok text ↔
    ∃ texts, Rendered fragments texts ∧ text = spaced delim texts := by
  constructor
  · intro h
    rcases rendered_or_firstFailing fragments with ⟨texts, htexts⟩ | ⟨fault, hfault⟩
    · exact ⟨texts, htexts, Except.ok.inj (h.symm.trans (join_of_rendered htexts delim))⟩
    · cases h.symm.trans (join_of_firstFailing hfault delim)
  · rintro ⟨texts, htexts, rfl⟩
    exact join_of_rendered htexts delim

theorem join_eq_error_iff : join delim fragments = .error fault ↔ FirstFailing fragments fault := by
  constructor
  · intro h
    rcases rendered_or_firstFailing fragments with ⟨texts, htexts⟩ | ⟨fault', hfault⟩
    · cases h.symm.trans (join_of_rendered htexts delim)
    · cases h.symm.trans (join_of_firstFailing hfault delim)
      exact hfault
  · intro h
    exact join_of_firstFailing h delim

/-! ## Absent fragments, and parts -/

theorem extend_of_isAbsent (h : f.isAbsent = true) (delim out : String) :
    extend delim out f = .ok out := by
  unfold isAbsent at h
  split at h
  · rename_i text hrender
    rw [extend, hrender]
    simp_all [bind, Except.bind, pure, Except.pure]
  · cases h

theorem join_filter (delim : String) (fragments : List Fragment) :
    join delim (fragments.filter (!·.isAbsent)) = join delim fragments := by
  unfold join
  generalize "" = out
  induction fragments generalizing out with
  | nil => rfl
  | cons f fragments ih =>
    cases hf : f.isAbsent with
    | true =>
      rw [List.filter_cons_of_neg (by simp [hf]), List.foldlM_cons, extend_of_isAbsent hf, ih]
      rfl
    | false =>
      rw [List.filter_cons_of_pos (by simp [hf]), List.foldlM_cons, List.foldlM_cons]
      simp only [ih]

/-- Two texts with a delimiter, as they come of two lists. -/
theorem join_texts (delim : String) (l m : List String) :
    join delim [.text (spaced delim l), .text (spaced delim m)] =
      .ok (spaced delim (l ++ m)) := by
  have hrendered : Rendered [.text (spaced delim l), .text (spaced delim m)]
      [spaced delim l, spaced delim m] := rfl
  rw [join_of_rendered hrendered, ← List.singleton_append, spaced_append, spaced_singleton,
    spaced_singleton, spaced_append]

theorem join_append (delim : String) (front back : List Fragment) :
    join delim (front ++ back) = (do
      let left ← join delim front
      let right ← join delim back
      join delim [.text left, .text right]) := by
  rcases rendered_or_firstFailing front with ⟨texts, htexts⟩ | ⟨fault, hfault⟩
  · rw [join_of_rendered htexts]
    rcases rendered_or_firstFailing back with ⟨texts', htexts'⟩ | ⟨fault, hfault⟩
    · rw [join_of_rendered htexts', join_of_rendered (htexts.append htexts')]
      exact (join_texts delim texts texts').symm
    · rw [join_of_firstFailing hfault, join_of_firstFailing (hfault.append_left htexts)]
      rfl
  · rw [join_of_firstFailing hfault, join_of_firstFailing (hfault.append_right back)]
    rfl

/-- Fragments are joined by their texts: the first that fails is reported, absent ones make no
difference, and parts may be joined first. -/
theorem joins (delim : String) : Joins delim where
  ok_iff _ _ := join_eq_ok_iff
  error_iff _ _ := join_eq_error_iff
  absent fragments others h := by rw [← join_filter, h, join_filter]
  parts := join_append delim

example : join " " [absent, .text "a", .onlyIf false "b", .led "c" absent, .text "d", absent] =
    .ok "a d" := rfl

end Fragment
end RowSql
