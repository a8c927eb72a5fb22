import Mathlib.Data.List.Chain
import RowSql.Proofs.Name.Words
import RowSql.Proofs.Schema.Names

/-!
# Spelling of a table name

A table name is spelled from the letters and digits of a schema's name and from underscores. The
places of the kept characters tell where the underscores are: in front of a capital, and where
something was left out. From that it follows what the name looks like, when it is an identifier,
and that it is its own table name.
-/
namespace RowSql

namespace TableName

variable {c : Char} {cs rest word : List Char} {ws : List (List Char)} {l : List (Char × Nat)}

/-! ## Spelling -/

/-- The letters and digits of a text with their places, the first of which is `n`. -/
def keptFrom (n : Nat) (cs : List Char) : List (Char × Nat) :=
  (cs.zipIdx n).filter fun p => p.1.isAlphanum

/-- An underscore parts two kept characters, one of which follows the other, when the later one
is a capital or when something else lies between them. -/
def Parted (earlier later : Char × Nat) : Prop :=
  later.1.isUpper = true ∨ earlier.2 + 1 < later.2

instance : DecidableRel Parted := fun _ _ => inferInstanceAs (Decidable (_ ∨ _))

/-- Kept characters in lower case, parted by underscores. -/
def spelled : List (Char × Nat) → List Char
  | [] => []
  | [p] => [p.1.toLower]
  | p :: q :: rest =>
    p.1.toLower :: (if Parted p q then '_' :: spelled (q :: rest) else spelled (q :: rest))

/-- Words in lower case with underscores between them. -/
def joined (ws : List (List Char)) : List Char :=
  ['_'].intercalate (ws.map (·.map Char.toLower))

theorem toList_tableName (s : String) : (tableName s).toList = joined (words s.toList) := by
  simp [tableName, joined, String.toList_intercalate, Function.comp_def]

theorem joined_cons : joined (word :: ws) =
    word.map Char.toLower ++ if ws = [] then [] else '_' :: joined ws := by
  cases ws <;> simp [joined]

theorem keptFrom_cons_of_isAlphanum {n : Nat} (h : c.isAlphanum = true) :
    keptFrom n (c :: rest) = (c, n) :: keptFrom (n + 1) rest := by
  simp [keptFrom, List.zipIdx_cons, h]

theorem keptFrom_cons_of_not_isAlphanum {n : Nat} (h : c.isAlphanum = false) :
    keptFrom n (c :: rest) = keptFrom (n + 1) rest := by
  simp [keptFrom, List.zipIdx_cons, h]

theorem isAlphanum_of_mem_keptFrom {n : Nat} {p : Char × Nat} (h : p ∈ keptFrom n cs) :
    p.1.isAlphanum = true := (List.mem_filter.1 h).2

theorem map_fst_keptFrom (n : Nat) (cs : List Char) :
    (keptFrom n cs).map Prod.fst = cs.filter Char.isAlphanum := by
  induction cs generalizing n with
  | nil => rfl
  | cons c rest ih =>
    cases hc : c.isAlphanum with
    | true => rw [keptFrom_cons_of_isAlphanum hc, List.map_cons, ih, List.filter_cons_of_pos hc]
    | false =>
      rw [keptFrom_cons_of_not_isAlphanum hc, ih, List.filter_cons_of_neg (by simp [hc])]

theorem words_eq_nil_iff : words cs = [] ↔ cs.filter Char.isAlphanum = [] := by
  induction cs with
  | nil => simp [words, split]
  | cons c rest ih =>
    cases hc : c.isAlphanum with
    | true => simp [words_cons_of_isAlphanum hc, hc]
    | false =>
      rw [words_cons_of_not_isAlphanum hc, ih, List.filter_cons_of_neg (by simp [hc])]

theorem keptFrom_eq_nil_iff {n : Nat} : keptFrom n cs = [] ↔ words cs = [] := by
  rw [words_eq_nil_iff, ← map_fst_keptFrom n, List.map_eq_nil_iff]

/-- The first kept character stands at the first place, or something lies before it. -/
theorem head?_keptFrom_cases {n : Nat} {q : Char × Nat} (h : (keptFrom n cs).head? = some q) :
    (q.2 = n ∧ cs.head? = some q.1) ∨ n < q.2 := by
  induction cs generalizing n with
  | nil => simp [keptFrom] at h
  | cons c rest ih =>
    cases hc : c.isAlphanum with
    | true =>
      rw [keptFrom_cons_of_isAlphanum hc, List.head?_cons, Option.some.injEq] at h
      subst h
      exact Or.inl ⟨rfl, rfl⟩
    | false =>
      rw [keptFrom_cons_of_not_isAlphanum hc] at h
      rcases ih h with ⟨hplace, -⟩ | hlater <;> omega

theorem spelled_cons {p : Char × Nat} {l : List (Char × Nat)} :
    spelled (p :: l) =
      p.1.toLower :: (if ∃ q ∈ l.head?, Parted p q then '_' :: spelled l else spelled l) := by
  cases l with
  | nil => simp [spelled]
  | cons q rest => simp [spelled]

theorem fst_split_eq_nil_iff : (split cs).1 = [] ↔ ∀ t ∈ cs.head?, isTail t = false := by
  cases cs with
  | nil => simp [split]
  | cons c rest =>
    by_cases htail : isTail c = true
    · simp [split, htail]
    · by_cases hupper : c.isUpper = true
      · simp [split, htail, hupper]
      · simp [split, htail, hupper]

/-- The next kept character is parted from one before it when it begins a word. -/
theorem exists_parted_iff {n : Nat} :
    (∃ q ∈ (keptFrom (n + 1) rest).head?, Parted (c, n) q) ↔
      words rest ≠ [] ∧ (split rest).1 = [] := by
  rw [fst_split_eq_nil_iff, ne_eq, ← keptFrom_eq_nil_iff (n := n + 1)]
  constructor
  · rintro ⟨q, hq, hparted⟩
    refine ⟨fun hnil => by simp [hnil] at hq, fun t ht => ?_⟩
    rw [Bool.eq_false_iff]
    intro htail
    obtain ⟨more, rfl⟩ : ∃ more, rest = t :: more := List.head?_eq_some_iff.1 ht
    rw [keptFrom_cons_of_isAlphanum (isAlphanum_iff.2 (Or.inr htail)), List.head?_cons,
      Option.mem_some] at hq
    subst hq
    rcases hparted with hupper | hplace
    · simp [isUpper_of_isTail htail] at hupper
    · exact Nat.lt_irrefl _ hplace
  · rintro ⟨hne, hstop⟩
    obtain ⟨q, l, hq⟩ := List.exists_cons_of_ne_nil hne
    have hhead : (keptFrom (n + 1) rest).head? = some q := by rw [hq, List.head?_cons]
    refine ⟨q, hhead, ?_⟩
    rcases head?_keptFrom_cases hhead with ⟨-, hfirst⟩ | hlater
    · -- A kept character that is no tail is a capital.
      have hkept : q.1.isAlphanum = true := isAlphanum_of_mem_keptFrom (hq ▸ List.mem_cons_self)
      rcases isAlphanum_iff.1 hkept with hupper | htail
      · exact Or.inl hupper
      · rw [hstop q.1 hfirst] at htail
        exact absurd htail Bool.false_ne_true
    · exact Or.inr hlater

/-- The words of a text spell what is kept of it. -/
theorem spelled_keptFrom (n : Nat) (cs : List Char) :
    spelled (keptFrom n cs) = joined (words cs) := by
  induction cs generalizing n with
  | nil => rfl
  | cons c rest ih =>
    cases hc : c.isAlphanum with
    | false => rw [keptFrom_cons_of_not_isAlphanum hc, ih, words_cons_of_not_isAlphanum hc]
    | true =>
      have hwords : words rest = if (split rest).1 = [] then (split rest).2 else
          (split rest).1 :: (split rest).2 := rfl
      rw [keptFrom_cons_of_isAlphanum hc, words_cons_of_isAlphanum hc, spelled_cons, ih,
        joined_cons, List.map_cons, List.cons_append]
      congr 1
      simp only [exists_parted_iff]
      by_cases hrun : (split rest).1 = []
      · rw [if_pos hrun] at hwords
        by_cases hlater : (split rest).2 = []
        · simp [hwords, hrun, hlater, joined]
        · simp [hwords, hrun, hlater]
      · rw [if_neg hrun] at hwords
        simp only [hrun, and_false, if_false, hwords, joined_cons]

theorem spelled_kept (s : String) : spelled (keptFrom 0 s.toList) = (tableName s).toList := by
  rw [spelled_keptFrom, toList_tableName]

/-! ## What a table name looks like -/

/-- Take the underscores away, and the kept characters are left. -/
theorem filter_spelled (hl : ∀ p ∈ l, p.1.isAlphanum = true) :
    (spelled l).filter (· ≠ '_') = l.map fun p => p.1.toLower := by
  induction l with
  | nil => rfl
  | cons p l ih =>
    obtain ⟨hp, hl⟩ := List.forall_mem_cons.1 hl
    have hne : p.1.toLower ≠ '_' := ne_underscore_of_isTail (isTail_toLower hp)
    rw [spelled_cons, List.filter_cons_of_pos (by simpa using hne), List.map_cons, ← ih hl]
    split
    · rw [List.filter_cons_of_neg (by simp)]
    · rfl

theorem head?_spelled : (spelled l).head? = l.head?.map fun p => p.1.toLower := by
  cases l with
  | nil => rfl
  | cons p l => simp [spelled_cons]

theorem getLast?_spelled : (spelled l).getLast? = l.getLast?.map fun p => p.1.toLower := by
  induction l with
  | nil => rfl
  | cons p l ih =>
    cases l with
    | nil => rfl
    | cons q l =>
      rw [spelled_cons, List.getLast?_cons_cons, ← ih]
      split
      · simp [spelled_cons, List.getLast?_cons_cons]
      · simp [spelled_cons, List.getLast?_cons_cons]

/-- No underscore stands behind another. -/
theorem isChain_spelled (hl : ∀ p ∈ l, p.1.isAlphanum = true) :
    (spelled l).IsChain fun a b => ¬ (a = '_' ∧ b = '_') := by
  induction l with
  | nil => exact .nil
  | cons p l ih =>
    obtain ⟨hp, hl⟩ := List.forall_mem_cons.1 hl
    have hne : p.1.toLower ≠ '_' := ne_underscore_of_isTail (isTail_toLower hp)
    have hhead : ∀ d ∈ (spelled l).head?, d ≠ '_' := by
      intro d hd
      rw [head?_spelled, Option.mem_def, Option.map_eq_some_iff] at hd
      obtain ⟨q, hq, rfl⟩ := hd
      exact ne_underscore_of_isTail (isTail_toLower (hl q (List.mem_of_mem_head? hq)))
    have hrest : (if ∃ q ∈ l.head?, Parted p q then '_' :: spelled l else spelled l).IsChain
        fun a b => ¬ (a = '_' ∧ b = '_') := by
      split
      · exact List.isChain_cons.2 ⟨fun d hd h => hhead d hd h.2, ih hl⟩
      · exact ih hl
    rw [spelled_cons]
    exact List.isChain_cons.2 ⟨fun d _ h => hne h.1, hrest⟩

theorem mem_spelled {d : Char} (hl : ∀ p ∈ l, p.1.isAlphanum = true) (h : d ∈ spelled l) :
    d = '_' ∨ isTail d = true := by
  by_cases hd : d = '_'
  · exact Or.inl hd
  · have hkept : d ∈ (spelled l).filter (· ≠ '_') := List.mem_filter.2 ⟨h, by simpa using hd⟩
    rw [filter_spelled hl] at hkept
    obtain ⟨p, hp, rfl⟩ := List.mem_map.1 hkept
    exact Or.inr (isTail_toLower (hl p hp))

/-! ## Table names of table names -/

theorem isTail_map_toLower (hword : IsWord word) :
    word.map Char.toLower ≠ [] ∧ ∀ t ∈ word.map Char.toLower, isTail t = true := by
  refine ⟨by simpa using hword.ne_nil, fun t ht => ?_⟩
  obtain ⟨c, hc, rfl⟩ := List.mem_map.1 ht
  exact isTail_toLower (hword.isAlphanum c hc)

/-- Words in lower case are told apart by the underscores between them. -/
theorem words_intercalate (hws : ∀ w ∈ ws, w ≠ [] ∧ ∀ t ∈ w, isTail t = true) :
    words (['_'].intercalate ws) = ws := by
  induction ws with
  | nil => rfl
  | cons word ws ih =>
    obtain ⟨⟨hne, htails⟩, hws⟩ := List.forall_mem_cons.1 hws
    have hword : IsWord word := by
      obtain ⟨c, run, rfl⟩ := List.exists_cons_of_ne_nil hne
      obtain ⟨hc, hrun⟩ := List.forall_mem_cons.1 htails
      exact .run hc hrun
    cases ws with
    | nil =>
      have hlast : words (word ++ []) = word :: words [] := words_append hword (by simp)
      rw [List.append_nil] at hlast
      rw [List.intercalate_singleton, hlast]
      rfl
    | cons next ws =>
      rw [List.intercalate_cons_cons, List.append_assoc, List.singleton_append,
        words_append hword (by intro t ht; cases ht; rfl),
        words_cons_of_not_isAlphanum (by decide), ih hws]

/-- The words of a table name are those it was made of, so it is its own table name. -/
theorem tableName_tableName (s : String) : tableName (tableName s) = tableName s := by
  have hwords : ∀ w ∈ (words s.toList).map (·.map Char.toLower),
      w ≠ [] ∧ ∀ t ∈ w, isTail t = true := by
    intro w hw
    obtain ⟨word, hword, rfl⟩ := List.mem_map.1 hw
    exact isTail_map_toLower ((finds_words s.toList).isWord word hword)
  have hlower : ∀ w ∈ (words s.toList).map (·.map Char.toLower), w.map Char.toLower = w := by
    intro w hw
    refine (List.map_congr_left fun t ht => ?_).trans (List.map_id w)
    exact toLower_eq_self (isUpper_of_isTail ((hwords w hw).2 t ht))
  apply String.toList_injective
  rw [toList_tableName, toList_tableName, joined, joined, words_intercalate hwords,
    List.map_congr_left hlower, List.map_id']

/-! ## Table names that are identifiers -/

/-- A table name is an identifier when the first letter or digit of the name is a letter. -/
theorem isPlain_tableName_iff (s : String) : Name.IsPlain (tableName s) ↔
    ∃ c, s.toList.find? Char.isAlphanum = some c ∧ c.isAlpha = true := by
  have hkept : ∀ p ∈ keptFrom 0 s.toList, p.1.isAlphanum = true :=
    fun p hp => isAlphanum_of_mem_keptFrom hp
  have hhead : s.toList.find? Char.isAlphanum = (keptFrom 0 s.toList).head?.map Prod.fst := by
    rw [← List.head?_map, map_fst_keptFrom, List.head?_filter]
  rw [hhead, Name.IsPlain, ← spelled_kept]
  generalize keptFrom 0 s.toList = l at hkept
  cases l with
  | nil => simp [spelled, Name.isPlainChars]
  | cons p l =>
    have hne : p.1.toLower ≠ '_' := ne_underscore_of_isTail (isTail_toLower (hkept p (by simp)))
    have hfollow : ∀ d ∈ spelled (p :: l), Name.isFollower d = true := by
      intro d hd
      rcases mem_spelled hkept hd with rfl | htail
      · rfl
      · have halphanum : d.isAlphanum = true := isAlphanum_iff.2 (Or.inr htail)
        simp [Name.isFollower, halphanum]
    have hlead : Name.isLead p.1.toLower = p.1.isAlpha := by
      rw [Name.isLead, beq_false_of_ne hne, Bool.false_or, isAlpha_toLower]
    rw [spelled_cons] at hfollow ⊢
    have hrest := List.all_eq_true.2 (List.forall_mem_cons.1 hfollow).2
    simp [Name.isPlainChars, hlead, hrest]

/-- All but the underscores of an identifier is kept. -/
theorem find?_of_isPlain {s : String} (h : Name.IsPlain s) :
    s.toList.find? (· ≠ '_') = s.toList.find? Char.isAlphanum := by
  have hsame : ∀ d ∈ s.toList, decide (d ≠ '_') = d.isAlphanum := by
    intro d hd
    by_cases hunderscore : d = '_'
    · subst hunderscore
      decide
    · have hfollow : Name.isFollower d = true := h.over d hd
      have hkept : d.isAlphanum = true := by simpa [Name.isFollower, hunderscore] using hfollow
      simp [hunderscore, hkept]
  rw [← List.head?_filter, ← List.head?_filter, List.filter_congr hsame]

/-! ## Main statement -/

/-- What the table name `t` is to the name `s` that it is derived from. -/
structure Derived (s t : String) : Prop where
  words_found : ∃ ws, Finds s.toList ws ∧ (∀ ws', Finds s.toList ws' → ws' = ws) ∧
    t.toList = joined ws
  spelled_kept : t.toList = spelled (keptFrom 0 s.toList)
  none_lost : t.toList.filter (· ≠ '_') = (s.toList.filter Char.isAlphanum).map Char.toLower
  not_leading : t.toList.head? ≠ some '_'
  not_trailing : t.toList.getLast? ≠ some '_'
  not_doubled : ¬ ['_', '_'] <:+: t.toList
  unchanged : tableName t = t
  plain_iff : Name.IsPlain s →
    (Name.IsPlain t ↔ ∃ c, s.toList.find? (· ≠ '_') = some c ∧ c.isAlpha = true)

theorem derived_tableName (s : String) : Derived s (tableName s) := by
  have hkept : ∀ p ∈ keptFrom 0 s.toList, p.1.isAlphanum = true :=
    fun p hp => isAlphanum_of_mem_keptFrom hp
  have hletter : ∀ p ∈ keptFrom 0 s.toList, p.1.toLower ≠ '_' :=
    fun p hp => ne_underscore_of_isTail (isTail_toLower (hkept p hp))
  constructor
  case words_found => exact ⟨_, finds_iff.2 rfl, fun _ => finds_iff.1, toList_tableName s⟩
  case spelled_kept => exact (spelled_kept s).symm
  case none_lost =>
    rw [← spelled_kept, filter_spelled hkept, ← map_fst_keptFrom 0, List.map_map]
    rfl
  case not_leading =>
    rw [← spelled_kept, head?_spelled]
    intro h
    obtain ⟨p, hp, hunderscore⟩ := Option.map_eq_some_iff.1 h
    exact hletter p (List.mem_of_mem_head? hp) hunderscore
  case not_trailing =>
    rw [← spelled_kept, getLast?_spelled]
    intro h
    obtain ⟨p, hp, hunderscore⟩ := Option.map_eq_some_iff.1 h
    exact hletter p (List.mem_of_mem_getLast? hp) hunderscore
  case not_doubled =>
    rintro ⟨front, back, hdoubled⟩
    have hchain := isChain_spelled hkept
    rw [spelled_kept, ← hdoubled] at hchain
    simpa using hchain.left_of_append.right_of_append
  case unchanged => exact tableName_tableName s
  case plain_iff =>
    intro hplain
    rw [isPlain_tableName_iff, find?_of_isPlain hplain]

end TableName
end RowSql
