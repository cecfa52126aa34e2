import AssetBundle.Failure
import AssetBundle.Proofs.Cutting
import AssetBundle.Proofs.Text.Line
import Mathlib.Data.List.Basic
import Mathlib.Data.List.Induction
import Mathlib.Data.Nat.Digits.Defs

/-!
# AssetBundle.Proofs.Number.Integer

An integer that is written is read back (`readOrFail_ofInt`), unless it has more digits than are
read: its numeral has decimal digits and perhaps a sign in front, and no blanks or underscores. And
what is read, from decimal digits of any script, is short enough to be written
(`isTooLong_of_read`). Digits alone are read exactly if all of them are decimal and there are not
too many (`readOrFail_of_isNumeral`, `readOrFail_of_not_isNumeral`).
-/

namespace AssetBundle

/-- Digits of any script lie apart from the blanks. -/
theorem CodePoint.not_blank_of_isDigit {c : CodePoint} (h : c.isDigit = true) :
    c.isBlank = false := by
  have hzeros : ∀ first ∈ decimalZeros, ∀ range ∈ blankRanges,
      range.2 < first ∨ first + 10 ≤ range.1 := by decide
  have hothers : ∀ own ∈ otherDigitRanges, ∀ range ∈ blankRanges,
      range.2 < own.1 ∨ own.2 < range.1 := by decide
  rw [isBlank, within, List.any_eq_false]
  intro range hrange hblank
  simp only [Bool.and_eq_true, decide_eq_true_eq] at hblank
  rw [isDigit, Bool.or_eq_true] at h
  rcases h with hdecimal | hother
  · rw [decimalValue?] at hdecimal
    split at hdecimal
    · next first hfirst =>
      have hheld := List.find?_some hfirst
      simp only [Bool.and_eq_true, decide_eq_true_eq] at hheld
      have hapart := hzeros first (List.mem_of_find?_eq_some hfirst) range hrange
      omega
    · cases hdecimal
  · obtain ⟨own, hown, hheld⟩ := List.any_eq_true.1 hother
    simp only [Bool.and_eq_true, decide_eq_true_eq] at hheld
    have hapart := hothers own hown range hrange
    omega

theorem Text.isDecimal_of_mem_ofInt {n : Int} {c : CodePoint} (h : c ∈ ofInt n) :
    c.isDecimal = true ∨ c = CodePoint.ofChar '-' := by
  cases n with
  | ofNat n => exact .inl (isDecimal_of_mem_ofNat h)
  | negSucc n =>
    rcases List.mem_cons.1 h with hsign | hdigit
    · exact .inr hsign
    · exact .inl (isDecimal_of_mem_ofNat hdigit)

theorem Text.not_mem_ofInt {n : Int} {c : CodePoint}
    (hc : c.isDecimal = false ∧ c ≠ CodePoint.ofChar '-') : c ∉ ofInt n := by
  intro hmem
  rcases isDecimal_of_mem_ofInt hmem with hdigit | hsign
  · rw [hc.1] at hdigit
    cases hdigit
  · exact hc.2 hsign

namespace Integer

theorem decimalValue?_of_isDecimal {c : CodePoint} (h : c.isDecimal = true) :
    CodePoint.decimalValue? c = some (c.val - 48) := by
  simp only [CodePoint.isDecimal, Bool.and_eq_true, decide_eq_true_eq] at h
  have hfirst : (48 ≤ c.val && c.val < 48 + 10) = true := by
    rw [Bool.and_eq_true, decide_eq_true_eq, decide_eq_true_eq]
    omega
  obtain ⟨others, hzeros⟩ : ∃ others, CodePoint.decimalZeros = 48 :: others := ⟨_, rfl⟩
  rw [CodePoint.decimalValue?, hzeros, List.find?_cons, hfirst]

theorem badUnderscore_eq_false : ∀ {t : Text}, underscore ∉ t → badUnderscore t = false
  | [], _ => rfl
  | [c], h => by simpa [badUnderscore, eq_comm] using h
  | c :: d :: rest, h => by
    rw [List.mem_cons, not_or] at h
    rw [badUnderscore, badUnderscore_eq_false h.2]
    simp [Ne.symm h.1]

/-- Whether a text has only decimal digits, of any script, and not too many of them. -/
structure IsNumeral (t : Text) : Prop where
  decimal : ∀ c ∈ t, (CodePoint.decimalValue? c).isSome = true
  short : t.length ≤ digitLimit

theorem ne_of_isDigit {c d : CodePoint} (h : c.isDigit = true) (hd : d.isDigit = false) :
    c ≠ d := by
  rintro rfl
  rw [h] at hd
  cases hd

theorem IsNumeral.isDigit {t : Text} (h : IsNumeral t) : ∀ c ∈ t, c.isDigit = true := by
  intro c hc
  rw [CodePoint.isDigit, h.decimal c hc, Bool.true_or]

/-- Digits have no underscore to be dropped. -/
theorem filter_digits {t : Text} (hdigits : ∀ c ∈ t, c.isDigit = true) :
    t.filter (fun c => decide (c ≠ underscore)) = t :=
  List.filter_eq_self.2 fun c hc => decide_eq_true (ne_of_isDigit (hdigits c hc) (by decide))

theorem readMagnitude_of_isNumeral {t : Text} (hne : t ≠ []) (h : IsNumeral t) :
    readMagnitude t = .ok (magnitude t) := by
  have hrun : (t.takeWhile fun c =>
      (CodePoint.decimalValue? c).isSome || decide (c = underscore)) = t :=
    List.takeWhile_eq_self_iff.2 fun c hc => by rw [h.decimal c hc, Bool.true_or]
  have hnone : underscore ∉ t := fun hmem => ne_of_isDigit (h.isDigit _ hmem) (by decide) rfl
  have hhead : t.head? ≠ some underscore := fun hhead => hnone (List.mem_of_head? hhead)
  unfold readMagnitude
  simp only [hrun, filter_digits h.isDigit, List.drop_length, badUnderscore_eq_false hnone]
  simp [hne, hhead, Nat.not_lt.2 h.short]

/-- Of digits alone, what is read is a numeral. -/
theorem isNumeral_of_readMagnitude {t : Text} {n : Nat} (hdigits : ∀ c ∈ t, c.isDigit = true)
    (h : readMagnitude t = .ok n) : IsNumeral t := by
  unfold readMagnitude at h
  dsimp only at h
  split at h
  · cases h
  split at h
  · cases h
  next hlength =>
    split at h
    · cases h
    next hrest =>
      -- Nothing stands behind the run, so the run is the whole text.
      have hwhole : (t.takeWhile fun c =>
          (CodePoint.decimalValue? c).isSome || decide (c = underscore)) = t := by
        refine (List.takeWhile_prefix _).eq_of_length_le (List.drop_eq_nil_iff.1 ?_)
        simpa using hrest
      rw [hwhole, filter_digits hdigits] at hlength
      refine ⟨fun c hc => ?_, Nat.le_of_not_lt hlength⟩
      have hrun := List.takeWhile_eq_self_iff.1 hwhole c hc
      rw [Bool.or_eq_true, decide_eq_true_eq] at hrun
      exact hrun.resolve_right (ne_of_isDigit (hdigits c hc) (by decide))

theorem trim_isPadding {t : Text} (h : ∀ c ∈ t, c.isBlank = false) :
    Sequence.trim isPadding t = t := by
  have hkept : ∀ c ∈ t, isPadding c = false := by
    intro c hc
    rw [isPadding, h c hc]
    rfl
  exact Sequence.trim_eq_self (fun c hc => hkept c (List.mem_of_head? hc))
    fun c hc => hkept c (List.mem_of_getLast? hc)

/-- Digits alone have no blanks to be dropped and no sign. -/
theorem read_digits {t : Text} (hne : t ≠ []) (hdigits : ∀ c ∈ t, c.isDigit = true) :
    read t = (readMagnitude t).map Int.ofNat := by
  have htrim := trim_isPadding fun c hc => CodePoint.not_blank_of_isDigit (hdigits c hc)
  obtain ⟨first, rest, rfl⟩ := List.exists_cons_of_ne_nil hne
  have hfirst := hdigits first List.mem_cons_self
  rw [read, htrim]
  dsimp only
  rw [if_neg (ne_of_isDigit hfirst (by decide)), if_neg (ne_of_isDigit hfirst (by decide))]

theorem readOrFail_of_isNumeral {t : Text} (hne : t ≠ []) (h : IsNumeral t) :
    readOrFail t = .ok (magnitude t) := by
  rw [readOrFail, read_digits hne h.isDigit, readMagnitude_of_isNumeral hne h]
  rfl

/-- Digits that are not decimal, or too many, cannot be read. -/
theorem readOrFail_of_not_isNumeral {t : Text} (hne : t ≠ [])
    (hdigits : ∀ c ∈ t, c.isDigit = true) (h : ¬ IsNumeral t) :
    ∃ why, readOrFail t = .error (.unreadableInteger why t) := by
  rw [readOrFail, read_digits hne hdigits]
  cases hread : readMagnitude t with
  | error why => exact ⟨why, rfl⟩
  | ok n => exact absurd (isNumeral_of_readMagnitude hdigits hread) h

theorem isNumeral_ofNat {n : Nat} (h : (Text.ofNat n).length ≤ digitLimit) :
    IsNumeral (Text.ofNat n) :=
  ⟨fun c hc => by rw [decimalValue?_of_isDecimal (Text.isDecimal_of_mem_ofNat hc)]; rfl, h⟩

theorem magnitude_ofNat (n : Nat) : magnitude (Text.ofNat n) = n := by
  refine (List.foldl_ext _ _ _ fun m c hc => ?_).trans (Text.foldl_ofNat n)
  rw [decimalValue?_of_isDecimal (Text.isDecimal_of_mem_ofNat hc)]
  rfl

theorem readMagnitude_ofNat {n : Nat} (h : (Text.ofNat n).length ≤ digitLimit) :
    readMagnitude (Text.ofNat n) = .ok n := by
  rw [readMagnitude_of_isNumeral (Text.ofNat_ne_nil n) (isNumeral_ofNat h), magnitude_ofNat]

theorem isTooLong_eq_false_iff {n : Int} :
    isTooLong n = false ↔ (Text.ofNat n.natAbs).length ≤ digitLimit := by
  rw [isTooLong, decide_eq_false_iff_not, Nat.not_lt, Text.ofNat, List.length_map]

/-- An integer that is written is read back. -/
theorem readOrFail_ofInt {n : Int} (h : isTooLong n = false) :
    readOrFail (Text.ofInt n) = .ok n := by
  have hlength := isTooLong_eq_false_iff.1 h
  have hread : read (Text.ofInt n) = .ok n := by
    have hvalue := readMagnitude_ofNat hlength
    cases n with
    | ofNat n =>
      rw [Text.ofInt, read_digits (Text.ofNat_ne_nil n) (isNumeral_ofNat hlength).isDigit]
      exact congrArg (Except.map Int.ofNat) hvalue
    | negSucc n =>
      have hsign : Sequence.trim isPadding (CodePoint.ofChar '-' :: Text.ofNat (n + 1)) =
          CodePoint.ofChar '-' :: Text.ofNat (n + 1) :=
        trim_isPadding (List.forall_mem_cons.2 ⟨by decide, fun c hc =>
          CodePoint.not_blank_of_isDigit ((isNumeral_ofNat hlength).isDigit c hc)⟩)
      rw [Text.ofInt, read, hsign]
      dsimp only
      rw [if_pos rfl]
      exact congrArg (Except.map fun n => -Int.ofNat n) hvalue
  rw [readOrFail, hread]

theorem decimalValue?_lt {c : CodePoint} : (CodePoint.decimalValue? c).getD 0 < 10 := by
  unfold CodePoint.decimalValue?
  split
  · next first hfirst =>
    have hrange := List.find?_some hfirst
    simp only [Bool.and_eq_true, decide_eq_true_eq] at hrange
    simp only [Option.getD_some]
    omega
  · decide

theorem magnitude_lt (digits : Text) : magnitude digits < 10 ^ digits.length := by
  induction digits using List.reverseRecOn with
  | nil => decide
  | append_singleton digits c ih =>
    have hdigit := decimalValue?_lt (c := c)
    rw [magnitude, List.foldl_append, List.foldl_cons, List.foldl_nil, ← magnitude,
      List.length_append, List.length_singleton, Nat.pow_succ]
    omega

/-- What is read is short enough to be written. -/
theorem isTooLong_of_readMagnitude {t : Text} {n : Nat} (h : readMagnitude t = .ok n) :
    isTooLong n = false := by
  unfold readMagnitude at h
  dsimp only at h
  split at h
  · cases h
  next hshape =>
    split at h
    · cases h
    next hlength =>
      split at h
      · cases h
      cases h
      simp only [Bool.or_eq_true, not_or, List.isEmpty_iff] at hshape
      rw [isTooLong, decide_eq_false_iff_not, Nat.not_lt, Int.natAbs_natCast]
      exact (Nat.toDigits_length _ _ _ (List.length_pos_of_ne_nil hshape.1.1)
        (magnitude_lt _)).trans (Nat.le_of_not_lt hlength)

theorem isTooLong_of_read {t : Text} {n : Int} (h : read t = .ok n) : isTooLong n = false := by
  have hsigned : ∀ {rest : Text} {f : Nat → Int}, (∀ m, (f m).natAbs = m) →
      (readMagnitude rest).map f = .ok n → isTooLong n = false := by
    intro rest f hf hread
    cases hmagnitude : readMagnitude rest with
    | error e =>
      rw [hmagnitude] at hread
      cases hread
    | ok m =>
      rw [hmagnitude] at hread
      cases hread
      have hshort := isTooLong_of_readMagnitude hmagnitude
      rwa [isTooLong, Int.natAbs_natCast, ← hf m, ← isTooLong] at hshort
  unfold read at h
  split at h
  · split at h
    · exact hsigned (fun m => by simp) h
    · split at h
      · exact hsigned (fun m => rfl) h
      · exact hsigned (fun m => rfl) h
  · cases h

end Integer

end AssetBundle
