import AssetBundle.Text.Blank
import AssetBundle.Text.Lines

/-!
# AssetBundle.Proofs.Text.Line

Texts that can stand in one line of a file: no line feed ends them early, and no surrogate keeps
them from being written in bytes. Decimal numerals are such texts; they are read back digit by
digit (`foldl_ofNat`), so different numbers have different numerals (`ofNat_injective`).
-/

namespace AssetBundle

namespace CodePoint

/-- Whether a code point can stand inside a line of a file. -/
def fitsLine (c : CodePoint) : Bool := c.val ≠ 10 && !c.isSurrogate

def isDecimal (c : CodePoint) : Bool := 48 ≤ c.val && c.val ≤ 57

/-- The visible characters of ASCII are no blanks. -/
theorem not_blank_of_visible {c : CodePoint} (hlow : 32 < c.val) (hhigh : c.val < 127) :
    c.isBlank = false := by
  simp only [isBlank, within, blankRanges, List.any_cons, List.any_nil, Bool.or_eq_false_iff,
    Bool.and_eq_false_iff, decide_eq_false_iff_not, and_true]
  omega

theorem not_blank_of_isDecimal {c : CodePoint} (h : c.isDecimal = true) : c.isBlank = false := by
  simp only [isDecimal, Bool.and_eq_true, decide_eq_true_eq] at h
  exact not_blank_of_visible (by omega) (by omega)

theorem ofChar_val (c : Char) : (ofChar c).val = c.toNat := rfl

end CodePoint

namespace Text

/-- Whether a text can stand in one line of a file. -/
def isLine (t : Text) : Bool := t.all CodePoint.fitsLine

theorem not_mem_of_isLine {t : Text} (h : isLine t = true) : (10 : CodePoint) ∉ t := by
  intro hmem
  have := List.all_eq_true.1 h _ hmem
  exact absurd this (by decide)

theorem not_surrogate_of_isLine {t : Text} (h : isLine t = true) :
    ∀ c ∈ t, c.isSurrogate = false := by
  intro c hc
  have := List.all_eq_true.1 h c hc
  simp only [CodePoint.fitsLine, Bool.and_eq_true, Bool.not_eq_true'] at this
  exact this.2

/-- No character is a surrogate. -/
theorem not_surrogate_ofChar (c : Char) : (CodePoint.ofChar c).isSurrogate = false := by
  have hvalid : c.toNat < 0xD800 ∨ (0xDFFF < c.toNat ∧ c.toNat < 0x110000) := c.valid
  rw [CodePoint.isSurrogate, CodePoint.ofChar_val, Bool.and_eq_false_iff, decide_eq_false_iff_not,
    decide_eq_false_iff_not]
  omega

theorem not_surrogate_ofLines (lines : List String) :
    ∀ c ∈ ofLines lines, c.isSurrogate = false := by
  intro c hc
  obtain ⟨line, _, hc⟩ := List.mem_flatMap.1 hc
  rcases List.mem_append.1 hc with hc | hc
  · obtain ⟨char, _, rfl⟩ := List.mem_map.1 hc
    exact not_surrogate_ofChar char
  · rw [List.mem_singleton.1 hc]
    decide

theorem ofNat_ne_nil (n : Nat) : ofNat n ≠ [] := by
  simp [ofNat, Nat.toDigits_ne_nil]

theorem isDecimal_of_mem_ofNat {n : Nat} {c : CodePoint} (h : c ∈ ofNat n) :
    c.isDecimal = true := by
  obtain ⟨d, hd, rfl⟩ := List.mem_map.1 h
  have := Nat.isDigit_of_mem_toDigits (by decide) (by decide) hd
  simp only [Char.isDigit, Bool.and_eq_true, decide_eq_true_eq, UInt32.le_iff_toNat_le] at this
  rw [CodePoint.isDecimal, CodePoint.ofChar_val, Bool.and_eq_true]
  exact ⟨decide_eq_true this.1, decide_eq_true this.2⟩

/-- The value of a numeral, digit by digit, is the number. -/
theorem foldl_ofNat (n : Nat) : (ofNat n).foldl (fun n c => n * 10 + (c.val - 48)) 0 = n := by
  have hvalue := Nat.ofDigitChars_ten_toDigits (n := n)
  rw [Nat.ofDigitChars_eq_foldl] at hvalue
  rw [ofNat, List.foldl_map]
  simpa [CodePoint.ofChar_val, Nat.mul_comm] using hvalue

theorem ofNat_injective {m n : Nat} (h : ofNat m = ofNat n) : m = n := by
  rw [← foldl_ofNat m, ← foldl_ofNat n, h]

end Text
end AssetBundle
