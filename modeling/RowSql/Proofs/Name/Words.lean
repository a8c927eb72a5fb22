import Mathlib.Data.List.TakeWhile
import RowSql.Name

/-!
# Words of a name

A table name is made of the words of a schema's name. A word is a capital with the lower case
letters and digits behind it, or a run of such letters and digits, and everything else lies
between words. Main statement: the words are those that are found from the left, each of them
the longest that begins at its place.
-/
namespace RowSql

namespace TableName

variable {c : Char} {cs rest word : List Char} {ws : List (List Char)}

/-! ## Characters -/

theorem isUpper_iff : c.isUpper = true ↔ 65 ≤ c.toNat ∧ c.toNat ≤ 90 :=
  decide_eq_true_iff.trans (and_congr UInt32.le_iff_toNat_le UInt32.le_iff_toNat_le)

theorem isLower_iff : c.isLower = true ↔ 97 ≤ c.toNat ∧ c.toNat ≤ 122 := by
  refine Bool.and_eq_true_iff.trans (and_congr ?_ ?_)
  · exact decide_eq_true_iff.trans UInt32.le_iff_toNat_le
  · exact decide_eq_true_iff.trans UInt32.le_iff_toNat_le

theorem isAlpha_iff : c.isAlpha = true ↔ c.isUpper = true ∨ c.isLower = true :=
  Bool.or_eq_true_iff

theorem isAlphanum_iff : c.isAlphanum = true ↔ c.isUpper = true ∨ isTail c = true := by
  rw [Char.isAlphanum, isTail, Bool.or_eq_true, Bool.or_eq_true, isAlpha_iff, or_assoc]

theorem isUpper_of_isTail (h : isTail c = true) : c.isUpper = false := by
  rw [Bool.eq_false_iff]
  intro hupper
  have hcapital := isUpper_iff.1 hupper
  rcases Bool.or_eq_true_iff.1 h with hlower | hdigit
  · have hletter := isLower_iff.1 hlower
    omega
  · have hnumber : 48 ≤ c.toNat ∧ c.toNat ≤ 57 := Char.isDigit_iff_toNat.1 hdigit
    omega

/-- Only capitals have another form in lower case. -/
theorem toLower_eq_self (h : c.isUpper = false) : c.toLower = c :=
  dif_neg (of_decide_eq_false h)

theorem toNat_toLower (h : c.isUpper = true) : c.toLower.toNat = c.toNat + 32 := by
  have hval : c.toLower.val = c.val + 32 := congrArg Char.val (dif_pos (of_decide_eq_true h))
  have hcapital := isUpper_iff.1 h
  calc c.toLower.toNat = (c.val + 32).toNat := congrArg UInt32.toNat hval
    _ = (c.toNat + 32) % 2 ^ 32 := UInt32.toNat_add c.val 32
    _ = c.toNat + 32 := Nat.mod_eq_of_lt (by omega)

theorem isLower_toLower (h : c.isUpper = true) : c.toLower.isLower = true := by
  have hcapital := isUpper_iff.1 h
  rw [isLower_iff, toNat_toLower h]
  omega

theorem isAlpha_toLower (c : Char) : c.toLower.isAlpha = c.isAlpha := by
  cases h : c.isUpper with
  | false => rw [toLower_eq_self h]
  | true => rw [isAlpha_iff.2 (.inl h), isAlpha_iff.2 (.inr (isLower_toLower h))]

/-- What is kept of a name is written with lower case letters and digits. -/
theorem isTail_toLower (h : c.isAlphanum = true) : isTail c.toLower = true := by
  rcases isAlphanum_iff.1 h with hupper | htail
  · exact Bool.or_eq_true_iff.2 (.inl (isLower_toLower hupper))
  · rwa [toLower_eq_self (isUpper_of_isTail htail)]

theorem ne_underscore_of_isTail (h : isTail c = true) : c ≠ '_' := by
  rintro rfl
  exact absurd h (by decide)

/-! ## Words from the left -/

/-- A capital with the lower case letters and digits behind it, or a run of such. -/
inductive IsWord : List Char → Prop where
  | capital {c : Char} {run : List Char} (h : c.isUpper = true)
      (hrun : ∀ t ∈ run, isTail t = true) : IsWord (c :: run)
  | run {c : Char} {run : List Char} (h : isTail c = true)
      (hrun : ∀ t ∈ run, isTail t = true) : IsWord (c :: run)

/-- The words found from the left. The longest word that begins at a place is found, and the
search goes on behind it; where none begins, it goes on at the next place. -/
inductive Finds : List Char → List (List Char) → Prop where
  | done : Finds [] []
  | word {word rest : List Char} {ws : List (List Char)} (hword : IsWord word)
      (hlongest : ∀ w, IsWord w → w <+: word ++ rest → w.length ≤ word.length)
      (hrest : Finds rest ws) : Finds (word ++ rest) (word :: ws)
  | skip {c : Char} {rest : List Char} {ws : List (List Char)}
      (hnone : ∀ w, IsWord w → ¬ w <+: c :: rest) (hrest : Finds rest ws) : Finds (c :: rest) ws

theorem isWord_cons_iff :
    IsWord (c :: word) ↔ c.isAlphanum = true ∧ ∀ t ∈ word, isTail t = true := by
  rw [isAlphanum_iff]
  constructor
  · intro h
    cases h with
    | capital hupper hrun => exact ⟨Or.inl hupper, hrun⟩
    | run htail hrun => exact ⟨Or.inr htail, hrun⟩
  · rintro ⟨hupper | htail, hrun⟩
    · exact .capital hupper hrun
    · exact .run htail hrun

theorem IsWord.ne_nil (h : IsWord word) : word ≠ [] := by
  cases h <;> simp

theorem IsWord.isAlphanum (h : IsWord word) : ∀ t ∈ word, t.isAlphanum = true := by
  intro t ht
  rw [isAlphanum_iff]
  cases h with
  | capital hupper hrun =>
    rcases List.mem_cons.1 ht with rfl | ht
    · exact Or.inl hupper
    · exact Or.inr (hrun t ht)
  | run htail hrun =>
    rcases List.mem_cons.1 ht with rfl | ht
    · exact Or.inr htail
    · exact Or.inr (hrun t ht)

theorem words_cons_of_isAlphanum (h : c.isAlphanum = true) :
    words (c :: rest) = (c :: (split rest).1) :: (split rest).2 := by
  rcases isAlphanum_iff.1 h with hupper | htail
  · have hnot : isTail c = false := by
      rw [Bool.eq_false_iff]
      intro htail
      simp [isUpper_of_isTail htail] at hupper
    simp [words, split, hnot, hupper]
  · simp [words, split, htail]

theorem words_cons_of_not_isAlphanum (h : c.isAlphanum = false) :
    words (c :: rest) = words rest := by
  have hnot : ¬ (c.isUpper = true ∨ isTail c = true) := by
    rw [← isAlphanum_iff, h]
    exact Bool.false_ne_true
  simp only [not_or, Bool.not_eq_true] at hnot
  simp [words, split, hnot.1, hnot.2]

/-- Lower case letters and digits go on the word before them. -/
theorem split_append {run : List Char} (hrun : ∀ t ∈ run, isTail t = true)
    (hstop : ∀ t ∈ rest.head?, isTail t = false) : split (run ++ rest) = (run, words rest) := by
  induction run with
  | nil =>
    cases rest with
    | nil => rfl
    | cons d rest =>
      have hd : isTail d = false := hstop d (by simp)
      by_cases hupper : d.isUpper = true
      · simp [words, split, hd, hupper]
      · simp [words, split, hd, hupper]
  | cons t run ih =>
    obtain ⟨ht, hrun⟩ := List.forall_mem_cons.1 hrun
    simp [split, ih hrun, ht]

theorem words_append (hword : IsWord word) (hstop : ∀ t ∈ rest.head?, isTail t = false) :
    words (word ++ rest) = word :: words rest := by
  obtain ⟨c, run, rfl⟩ := List.exists_cons_of_ne_nil hword.ne_nil
  obtain ⟨hc, hrun⟩ := isWord_cons_iff.1 hword
  rw [List.cons_append, words_cons_of_isAlphanum hc, split_append hrun hstop]

/-- What goes on a word is one of its lower case letters and digits. -/
theorem isTail_of_isWord_append {t : Char} {more : List Char} (hword : word ≠ [])
    (h : IsWord (word ++ t :: more)) : isTail t = true := by
  obtain ⟨c, run, rfl⟩ := List.exists_cons_of_ne_nil hword
  rw [List.cons_append] at h
  exact (isWord_cons_iff.1 h).2 t (by simp)

/-- A word is as long as it can be where something else follows it. -/
theorem length_le_of_stop {w : List Char} (hword : word ≠ [])
    (hstop : ∀ t ∈ rest.head?, isTail t = false) (hw : IsWord w) (hfront : w <+: word ++ rest) :
    w.length ≤ word.length := by
  apply Nat.le_of_not_lt
  intro hlong
  obtain ⟨more, rfl⟩ := List.prefix_of_prefix_length_le (List.prefix_append word rest) hfront
    (Nat.le_of_lt hlong)
  cases more with
  | nil => simp at hlong
  | cons t more =>
    obtain ⟨behind, rfl⟩ := (List.prefix_append_right_inj word).1 hfront
    have htail := isTail_of_isWord_append hword hw
    rw [hstop t (by simp)] at htail
    exact Bool.false_ne_true htail

theorem Finds.isWord (h : Finds cs ws) : ∀ w ∈ ws, IsWord w := by
  induction h with
  | done => simp
  | word hword _ _ ih => exact List.forall_mem_cons.2 ⟨hword, ih⟩
  | skip _ _ ih => exact ih

theorem finds_words (cs : List Char) : Finds cs (words cs) := by
  -- What is left behind a word or a place is shorter.
  induction hlength : cs.length using Nat.strongRecOn generalizing cs with
  | ind n ih =>
    subst hlength
    cases cs with
    | nil => exact .done
    | cons c rest =>
      by_cases hc : c.isAlphanum = true
      · have hword : IsWord (c :: rest.takeWhile isTail) :=
          isWord_cons_iff.2 ⟨hc, fun t ht => List.mem_takeWhile_imp ht⟩
        have hstop : ∀ t ∈ (rest.dropWhile isTail).head?, isTail t = false := by
          intro t ht
          have hhead := List.head?_dropWhile_not isTail rest
          rwa [Option.mem_def.1 ht] at hhead
        have hcut : c :: rest = (c :: rest.takeWhile isTail) ++ rest.dropWhile isTail := by
          rw [List.cons_append, List.takeWhile_append_dropWhile]
        have hshorter : (rest.dropWhile isTail).length < (c :: rest).length :=
          Nat.lt_succ_of_le (List.dropWhile_sublist isTail).length_le
        rw [hcut, words_append hword hstop]
        exact .word hword (fun w => length_le_of_stop (by simp) hstop) (ih _ hshorter _ rfl)
      · rw [words_cons_of_not_isAlphanum (by simpa using hc)]
        refine .skip ?_ (ih _ (by simp) _ rfl)
        intro w hw hfront
        obtain ⟨d, run, rfl⟩ := List.exists_cons_of_ne_nil hw.ne_nil
        obtain ⟨rfl, -⟩ := List.cons_prefix_cons.1 hfront
        exact hc (isWord_cons_iff.1 hw).1

theorem eq_words_of_finds (h : Finds cs ws) : ws = words cs := by
  induction h with
  | done => rfl
  | @word word rest ws hword hlongest _ ih =>
    have hstop : ∀ t ∈ rest.head?, isTail t = false := by
      intro t ht
      rw [Bool.eq_false_iff]
      intro htail
      obtain ⟨more, rfl⟩ : ∃ more, rest = t :: more := by
        cases rest <;> simp_all
      obtain ⟨c, run, rfl⟩ := List.exists_cons_of_ne_nil hword.ne_nil
      obtain ⟨hc, hrun⟩ := isWord_cons_iff.1 hword
      have hlonger : IsWord (c :: (run ++ [t])) := by
        refine isWord_cons_iff.2 ⟨hc, ?_⟩
        simpa [or_imp, forall_and] using ⟨hrun, htail⟩
      have hlength := hlongest _ hlonger ⟨more, by simp⟩
      simp only [List.length_cons, List.length_append, List.length_nil] at hlength
      omega
    rw [words_append hword hstop, ih]
  | @skip c rest ws hnone _ ih =>
    have hc : c.isAlphanum = false := by
      rw [Bool.eq_false_iff]
      intro hc
      exact hnone [c] (isWord_cons_iff.2 ⟨hc, by simp⟩) (by simp)
    rw [words_cons_of_not_isAlphanum hc, ih]

/-- The words are those that are found from the left, and no others are found. -/
theorem finds_iff : Finds cs ws ↔ ws = words cs := by
  constructor
  · exact eq_words_of_finds
  · rintro rfl
    exact finds_words cs

end TableName
end RowSql
