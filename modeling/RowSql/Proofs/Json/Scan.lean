import Mathlib.Data.List.TakeWhile
import RowSql.Json.Reader

/-!
# Scanning written tokens

What the writer puts down for a mark, a text, a word or a whole number is scanned as that token,
whatever comes after it, as long as a word or a numeral cannot go on there. Main statements:
`textBody_escaped`, `Numeral.read?_wholeChars` and `Stage.read?_of_scannedFrom`, by which the
machine takes such a token in one step.
-/
namespace RowSql
namespace Json

/-! ## Numerals -/

namespace Numeral

/-- Digits are all taken as long as their number is a significand. -/
theorem absorb_eq {significand : Nat} {cs : List Char}
    (h : Nat.ofDigitChars 10 cs significand ≤ top) :
    absorb significand cs = (Nat.ofDigitChars 10 cs significand, 0) := by
  induction cs generalizing significand with
  | nil => simp [absorb]
  | cons c cs ih =>
    have hnext : Nat.ofDigitChars 10 (c :: cs) significand =
        Nat.ofDigitChars 10 cs (significand * 10 + digitValue c) := by
      rw [Nat.ofDigitChars_cons, Nat.mul_comm]
      rfl
    rw [hnext] at h ⊢
    have hfits : significand * 10 + digitValue c ≤ top := by
      rw [Nat.ofDigitChars_eq_ofDigitChars_zero] at h
      have hgrows := Nat.le_mul_of_pos_left (significand * 10 + digitValue c)
        (Nat.pow_pos (n := cs.length) (show 0 < 10 by decide))
      omega
    simp only [absorb, if_pos hfits, ih h]

/-- Only zero is written with a leading zero. -/
theorem head?_toDigits {n : Nat} (h : (Nat.toDigits 10 n).head? = some '0') : n = 0 := by
  induction n using Nat.strongRecOn with
  | ind n ih =>
    rw [Nat.toDigits_eq_if (by decide)] at h
    split at h
    · simpa using h
    · have hfront : (Nat.toDigits 10 (n / 10)).head? = some '0' := by
        obtain ⟨c, cs, hcs⟩ := List.exists_cons_of_ne_nil
          (Nat.toDigits_ne_nil (n := n / 10) (b := 10))
        rw [hcs] at h ⊢
        exact h
      have hzero := ih (n / 10) (by omega) hfront
      omega

theorem unsigned?_toDigits (negative : Bool) {n : Nat} (h : n ≤ top) :
    unsigned? negative (Nat.toDigits 10 n) = some (whole negative n) := by
  have hdigits : ∀ c ∈ Nat.toDigits 10 n, c.isDigit = true :=
    fun c hc => Nat.isDigit_of_mem_toDigits (by decide) (by decide) hc
  have htake : (Nat.toDigits 10 n).takeWhile Char.isDigit = Nat.toDigits 10 n :=
    List.takeWhile_eq_self_iff.2 hdigits
  have hdrop : (Nat.toDigits 10 n).dropWhile Char.isDigit = [] :=
    List.dropWhile_eq_nil_iff.2 hdigits
  have habsorb : absorb 0 (Nat.toDigits 10 n) = (n, 0) := by
    rw [absorb_eq] <;> rw [Nat.ofDigitChars_ten_toDigits]
    exact h
  have hlead : ¬ ((Nat.toDigits 10 n).head? = some '0' ∧ (Nat.toDigits 10 n).length ≠ 1) := by
    rintro ⟨hhead, hlength⟩
    rw [head?_toDigits hhead] at hlength
    exact hlength rfl
  simp only [unsigned?, htake, hdrop, habsorb, Nat.toDigits_ne_nil, hlead, or_self, if_false,
    if_true]

/-- A whole number of 64 bits, with or without a sign, is read as it is written. -/
theorem read?_wholeChars {i : Int} (hlow : -9223372036854775808 ≤ i)
    (hhigh : i ≤ 18446744073709551615) : read? (wholeChars i) = some (.whole i) := by
  unfold wholeChars
  split
  · have hread : unsigned? true (Nat.toDigits 10 i.natAbs) = some (whole true i.natAbs) :=
      unsigned?_toDigits true (by simp only [top]; omega)
    have hwhole : whole true i.natAbs = .whole i := by
      have hint : -(i.natAbs : Int) = i := by omega
      rw [whole, if_neg (by decide), if_neg (by omega), hint]
    exact hread.trans (congrArg some hwhole)
  · have hread : unsigned? false (Nat.toDigits 10 i.natAbs) = some (whole false i.natAbs) :=
      unsigned?_toDigits false (by simp only [top]; omega)
    have hwhole : whole false i.natAbs = .whole i := by
      have hint : (i.natAbs : Int) = i := by omega
      rw [whole, if_pos (by decide), hint]
    rw [← hwhole, ← hread]
    unfold read?
    split
    · rename_i rest heq
      have hminus : '-' ∈ Nat.toDigits 10 i.natAbs := by rw [heq]; exact List.mem_cons_self
      exact absurd (Nat.isDigit_of_mem_toDigits (by decide) (by decide) hminus) (by decide)
    · rfl

end Numeral

/-! ## Text -/

namespace Token

theorem hexValue?_digitChar {n : Nat} (h : n < 16) : hexValue? (Nat.digitChar n) = some n := by
  revert n
  decide

theorem hexUnit?_control {n : Nat} (h : n < 0x20) :
    hexUnit? '0' '0' (Nat.digitChar (n / 16)) (Nat.digitChar (n % 16)) = some n := by
  rw [hexUnit?, hexValue?_digitChar (show n / 16 < 16 by omega),
    hexValue?_digitChar (show n % 16 < 16 by omega)]
  show some (((0 * 16 + 0) * 16 + n / 16) * 16 + n % 16) = some n
  congr 1
  omega

theorem textBody_plain {c : Char} (hquote : c ≠ '"') (hback : c ≠ '\\')
    (hplain : ¬ c.toNat < 0x20) (cs : List Char) :
    textBody none (c :: cs) = (textBody none cs).map fun r => (c :: r.1, r.2) := by
  rw [textBody.eq_def]
  split <;> grind

theorem textBody_control {c : Char} (hcontrol : c.toNat < 0x20) (cs : List Char) :
    textBody none ('\\' :: 'u' :: '0' :: '0' :: Nat.digitChar (c.toNat / 16) ::
      Nat.digitChar (c.toNat % 16) :: cs) =
      (textBody none cs).map fun r => (c :: r.1, r.2) := by
  have hunit : unit? none c.toNat = some (none, [c]) := by
    have hhigh : isHigh c.toNat = false := by simp [isHigh]; omega
    have hlow : isLow c.toNat = false := by simp [isLow]; omega
    simp [unit?, hhigh, hlow, Char.ofNat_toNat]
  simp only [textBody, hexUnit?_control hcontrol, Option.bind_some, hunit, List.cons_append,
    List.nil_append]

/-- One character is read back from its escape. -/
theorem textBody_escapeChar (c : Char) (cs : List Char) :
    textBody none (escapeChar c ++ cs) = (textBody none cs).map fun r => (c :: r.1, r.2) := by
  unfold escapeChar
  -- The escapes of two characters are read by computation, so the last case comes first.
  split
  case h_8 hquote hback _ _ _ _ _ =>
    split
    · rename_i hcontrol
      exact textBody_control hcontrol cs
    · rename_i hplain
      exact textBody_plain hquote hback hplain cs
  all_goals rfl

/-- A text is read back up to its closing quote. -/
theorem textBody_escaped (cs rest : List Char) :
    textBody none (cs.flatMap escapeChar ++ '"' :: rest) = some (cs, rest) := by
  induction cs with
  | nil => rfl
  | cons c cs ih =>
    rw [List.flatMap_cons, List.append_assoc, textBody_escapeChar, ih]
    rfl

/-! ## Tokens in front of a text -/

/-- Neither a word nor a numeral goes on into this text. -/
def Stops (rest : List Char) : Prop := ∀ c ∈ rest.head?, (mark? c).isSome

/-- The token is what the scanner takes off the front of every text that stops it. -/
def ScannedFrom (t : Token) (front : List Char) : Prop :=
  ∀ rest, Stops rest → scan (front ++ rest) = (scan rest).map (t :: ·)

variable {t : Token} {c : Char} {cs front rest : List Char} {d : Doc}

theorem stops_nil : Stops [] := by simp [Stops]

theorem stops_cons (h : mark? c = some t) : Stops (c :: rest) := by simp [Stops, h]

theorem class_of_mark? (h : (mark? c).isSome) :
    isGap c = false ∧ c.isAlpha = false ∧ isNumeralChar c = false := by
  unfold mark? at h
  split at h
  case h_7 => cases h
  all_goals decide

theorem takeWhile_append_of_stops {p : Char → Bool} (hp : ∀ c, (mark? c).isSome → p c = false)
    (hcs : ∀ c ∈ cs, p c = true) (hrest : Stops rest) :
    (cs ++ rest).takeWhile p = cs ∧ (cs ++ rest).dropWhile p = rest := by
  rw [List.takeWhile_append_of_pos hcs, List.dropWhile_append_of_pos hcs]
  cases rest with
  | nil => simp
  | cons c rest =>
    have hc : p c = false := hp c (hrest c rfl)
    simp [hc]

/-- What begins a word or a numeral begins nothing else. -/
theorem begins_of_class (h : c.isAlpha = true ∨ isNumeralChar c = true) :
    isGap c = false ∧ mark? c = none ∧ c ≠ '"' := by
  refine ⟨?_, ?_, ?_⟩
  · by_contra hgap
    have hgaps : ((c = ' ' ∨ c = '\n') ∨ c = '\t') ∨ c = '\r' := by
      simpa only [isGap, Bool.not_eq_false, Bool.or_eq_true, beq_iff_eq] using hgap
    obtain ((rfl | rfl) | rfl) | rfl := hgaps <;> exact absurd h (by decide)
  · by_contra hmark
    obtain ⟨-, halpha, hnumeral⟩ := class_of_mark? (Option.isSome_iff_ne_none.2 hmark)
    simp [halpha, hnumeral] at h
  · rintro rfl
    exact absurd h (by decide)

/-- A mark is taken whatever follows it. -/
theorem scan_mark (h : mark? c = some t) (rest : List Char) :
    scan (c :: rest) = (scan rest).map (t :: ·) := by
  obtain ⟨hgap, -, -⟩ := class_of_mark? (Option.isSome_of_eq_some h)
  rw [scan, hgap, h]
  simp

theorem scannedFrom_escape (s : String) : ScannedFrom (.text s) (escape s).toList := by
  intro rest _
  have hchars : (escape s).toList ++ rest =
      '"' :: (s.toList.flatMap escapeChar ++ '"' :: rest) := by
    simp [escape]
  rw [hchars, scan, if_neg (by decide), show mark? '"' = none from rfl]
  simp only [if_true]
  split
  · rename_i hbody
    rw [textBody_escaped] at hbody
    cases hbody
  · rename_i hbody
    rw [textBody_escaped] at hbody
    cases hbody
    rw [String.ofList_toList]

theorem scannedFrom_word (halpha : front.all Char.isAlpha = true) (h : word? front = some d) :
    ScannedFrom (.atom d) front := by
  intro rest hrest
  cases front with
  | nil => cases h
  | cons c cs =>
    obtain ⟨hc, hcs⟩ := List.forall_mem_cons.1 (List.all_eq_true.1 halpha)
    obtain ⟨hgap, hmark, hquote⟩ := begins_of_class (.inl hc)
    obtain ⟨htake, hdrop⟩ :=
      takeWhile_append_of_stops (fun _ h => (class_of_mark? h).2.1) hcs hrest
    rw [List.cons_append, scan, hgap, hmark]
    simp only [hquote, hc, htake, hdrop, h]
    simp

theorem isAlpha_of_isDigit (h : c.isDigit = true) : c.isAlpha = false := by
  have hdigit : (decide ('0'.val ≤ c.val) && decide (c.val ≤ '9'.val)) = true := h
  have hupper : ¬ ('A'.val ≤ c.val ∧ c.val ≤ 'Z'.val) := by grind
  have hlower : (decide ('a'.val ≤ c.val) && decide (c.val ≤ 'z'.val)) = false := by grind
  exact Bool.or_eq_false_iff.2 ⟨decide_eq_false hupper, hlower⟩

/-- A numeral that is made of digits and signs. -/
theorem scannedFrom_numeral (hchars : ∀ x ∈ front, x.isDigit = true ∨ x = '-')
    (h : Numeral.read? front = some d) : ScannedFrom (.atom d) front := by
  intro rest hrest
  have hnumeral : ∀ x ∈ front, isNumeralChar x = true := fun x hx => by
    obtain hdigit | rfl := hchars x hx
    · simp [isNumeralChar, hdigit]
    · rfl
  cases front with
  | nil => cases h
  | cons c cs =>
    obtain ⟨hfirst, hcs⟩ := List.forall_mem_cons.1 hnumeral
    have halpha : c.isAlpha = false := by
      obtain hdigit | rfl := hchars c List.mem_cons_self
      · exact isAlpha_of_isDigit hdigit
      · rfl
    obtain ⟨hgap, hmark, hquote⟩ := begins_of_class (.inr hfirst)
    obtain ⟨htake, hdrop⟩ :=
      takeWhile_append_of_stops (fun _ h => (class_of_mark? h).2.2) hcs hrest
    rw [List.cons_append, scan, hgap, hmark]
    simp only [hquote, halpha, htake, hdrop, h]
    simp

theorem scannedFrom_wholeChars {i : Int} (hlow : -9223372036854775808 ≤ i)
    (hhigh : i ≤ 18446744073709551615) : ScannedFrom (.atom (.whole i)) (wholeChars i) := by
  refine scannedFrom_numeral (fun x hx => ?_) (Numeral.read?_wholeChars hlow hhigh)
  have hdigit : ∀ n, x ∈ Nat.toDigits 10 n → x.isDigit = true := fun n h =>
    Nat.isDigit_of_mem_toDigits (by decide) (by decide) h
  unfold wholeChars at hx
  split at hx
  · obtain rfl | hx := List.mem_cons.1 hx
    · exact .inr rfl
    · exact .inl (hdigit _ hx)
  · exact .inl (hdigit _ hx)

end Token

/-! ## Runs on a text -/

namespace Stage

/-- Scan a text and run the machine over its tokens. -/
def read? (stage : Stage) (cs : List Char) : Option Stage := (Token.scan cs).bind stage.run?

variable (stage : Stage) {t : Token} {front rest : List Char}

theorem read?_nil : stage.read? [] = some stage := by
  rw [read?, Token.scan]
  rfl

variable {stage}

/-- The machine takes what is scanned as one token in one step. -/
theorem read?_of_scan {cs : List Char} (h : Token.scan cs = (Token.scan rest).map (t :: ·)) :
    stage.read? cs = (stage.step? t).bind (·.read? rest) := by
  rw [read?, h, Option.bind_map]
  cases hscan : Token.scan rest with
  | none => cases stage.step? t <;> simp [read?, hscan]
  | some tokens =>
    simp only [read?, hscan, Option.bind_some]
    rfl

theorem read?_mark {c : Char} (h : Token.mark? c = some t) (rest : List Char) :
    stage.read? (c :: rest) = (stage.step? t).bind (·.read? rest) :=
  read?_of_scan (Token.scan_mark h rest)

theorem read?_of_scannedFrom (h : t.ScannedFrom front) (hrest : Token.Stops rest) :
    stage.read? (front ++ rest) = (stage.step? t).bind (·.read? rest) :=
  read?_of_scan (h rest hrest)

end Stage

/-- A text holds the document that the machine completes on it. -/
theorem read?_of_complete {s : String} {d : Doc}
    (h : (Stage.value []).read? s.toList = some (.complete [] d)) : read? s = some d := by
  have hrun : (Token.scan s.toList).bind (Stage.value []).run? = some (.complete [] d) := h
  rw [read?, hrun]

/-- A text that is one token. -/
theorem read?_atom {s : String} {d : Doc} (h : (Token.atom d).ScannedFrom s.toList) :
    read? s = some d := by
  apply read?_of_complete
  have hstep : (Stage.value []).read? (s.toList ++ []) = _ :=
    Stage.read?_of_scannedFrom h Token.stops_nil
  rw [List.append_nil] at hstep
  rw [hstep, Stage.step?, Stage.start?, Option.bind_some, Stage.read?_nil]

end Json
end RowSql
