/-!
# AssetBundle.Text.CodePoint

Text is a list of Unicode code points. Surrogates are code points too: a file name whose bytes
are not valid UTF-8 is read with one lone surrogate per stray byte, and such a name must survive
until it is written out again.
-/

namespace AssetBundle

/-- A Unicode code point, surrogates included. -/
abbrev CodePoint := Fin 0x110000

/-- The numerals of code points rest on this. -/
instance rangeNonzero : @NeZero Nat (@Zero.ofOfNat0 Nat (instOfNatNat 0)) 0x110000 :=
  @NeZero.mk Nat (@Zero.ofOfNat0 Nat (instOfNatNat 0)) 0x110000 (Nat.succ_ne_zero 0x10FFFF)

abbrev Text := List CodePoint

/-- A byte string. -/
abbrev Bytes := List UInt8

namespace CodePoint

def ofChar (c : Char) : CodePoint :=
  ⟨c.toNat, by
    have h : c.toNat.isValidChar := c.valid
    rcases h with h | ⟨_, h⟩
    · exact Nat.lt_trans h (by decide)
    · exact h⟩

def isSurrogate (c : CodePoint) : Bool := 0xD800 ≤ c.val && c.val ≤ 0xDFFF

instance : Coe Char CodePoint := ⟨ofChar⟩

end CodePoint

namespace Text

def ofString (s : String) : Text := s.toList.map CodePoint.ofChar

instance : Coe String Text := ⟨ofString⟩

/-- The decimal digits of a number. -/
def ofNat (n : Nat) : Text := (Nat.toDigits 10 n).map CodePoint.ofChar

def ofInt (n : Int) : Text :=
  match n with
  | .ofNat n => ofNat n
  | .negSucc n => CodePoint.ofChar '-' :: ofNat (n + 1)

/-- The order of text by code points; a text comes before its extensions. -/
def le : Text → Text → Bool
  | [], _ => true
  | _ :: _, [] => false
  | a :: s, b :: t => if a.val < b.val then true else if b.val < a.val then false else le s t

theorem le_total (s t : Text) : (le s t || le t s) = true := by
  induction s generalizing t with
  | nil => simp [le]
  | cons a s ih =>
    cases t with
    | nil => simp [le]
    | cons b t =>
      have := ih t
      simp only [le]
      split <;> split <;> simp_all

theorem le_trans {r s t : Text} (h₁ : le r s = true) (h₂ : le s t = true) : le r t = true := by
  induction r generalizing s t with
  | nil => simp [le]
  | cons a r ih =>
    cases s with
    | nil => simp [le] at h₁
    | cons b s =>
      cases t with
      | nil => simp [le] at h₂
      | cons c t =>
        simp only [le] at h₁ h₂ ⊢
        grind

theorem le_antisymm {s t : Text} (h₁ : le s t = true) (h₂ : le t s = true) : s = t := by
  induction s generalizing t with
  | nil =>
    cases t with
    | nil => rfl
    | cons b t => simp [le] at h₂
  | cons a s ih =>
    cases t with
    | nil => simp [le] at h₁
    | cons b t =>
      rw [le] at h₁ h₂
      by_cases hab : a.val < b.val
      · simp [hab, Nat.lt_asymm hab] at h₂
      by_cases hba : b.val < a.val
      · simp [hab, hba] at h₁
      · rw [if_neg hab, if_neg hba] at h₁
        rw [if_neg hba, if_neg hab] at h₂
        have hval : a.val = b.val := by omega
        rw [ih h₁ h₂, Fin.ext hval]

end Text
end AssetBundle
