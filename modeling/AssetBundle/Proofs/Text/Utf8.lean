import AssetBundle.Failure
import Mathlib.Data.List.TakeWhile

/-!
# AssetBundle.Proofs.Text.Utf8

UTF-8 is read back as it was written. Every code point but a surrogate has a form in bytes from
which the reader takes exactly that code point off the front (`front_encodePoint`), so a text
without surrogates survives the way into bytes and back (`decode_encode`). Its form is longer than
the text unless all of it is ASCII (`length_eq_length_encode_iff`).
-/

namespace AssetBundle
namespace Utf8

theorem toNat_ofNat_byte {n : Nat} (h : n < 256) : (UInt8.ofNat n).toNat = n := by
  rw [UInt8.toNat_ofNat']
  exact Nat.mod_eq_of_lt h

theorem pointOf_val (c : CodePoint) : pointOf c.val = c := by
  apply Fin.ext
  simp [pointOf, Fin.ofNat, Nat.mod_eq_of_lt c.isLt]

theorem isContinuation_low (n : Nat) :
    isContinuation (UInt8.ofNat (0x80 + n % 64)) = true ∧
      low (UInt8.ofNat (0x80 + n % 64)) = n % 64 := by
  have hn := toNat_ofNat_byte (n := 0x80 + n % 64) (by omega)
  constructor
  · simp only [isContinuation, Bool.and_eq_true, decide_eq_true_eq, UInt8.le_iff_toNat_le, hn]
    exact ⟨by simp, by simp; omega⟩
  · rw [low, hn]
    omega

theorem front_two {n : Nat} (h₁ : 0x80 ≤ n) (h₂ : n < 0x800) (rest : Bytes) :
    front (UInt8.ofNat (0xC0 + n / 64)) (UInt8.ofNat (0x80 + n % 64) :: rest) =
      .point (pointOf n) rest := by
  have hlead := toNat_ofNat_byte (n := 0xC0 + n / 64) (by omega)
  obtain ⟨hc, hl⟩ := isContinuation_low n
  simp only [front, UInt8.lt_iff_toNat_lt, hlead, UInt8.reduceToNat]
  rw [if_neg (by omega), if_neg (by omega), if_pos (by omega), if_pos hc, hl]
  congr 2
  omega

theorem front_three {n : Nat} (h₁ : 0x800 ≤ n) (h₂ : n < 0x10000) (hsur : n < 0xD800 ∨ 0xDFFF < n)
    (rest : Bytes) :
    front (UInt8.ofNat (0xE0 + n / 4096))
        (UInt8.ofNat (0x80 + n / 64 % 64) :: UInt8.ofNat (0x80 + n % 64) :: rest) =
      .point (pointOf n) rest := by
  have hlead := toNat_ofNat_byte (n := 0xE0 + n / 4096) (by omega)
  have hsecond := toNat_ofNat_byte (n := 0x80 + n / 64 % 64) (by omega)
  obtain ⟨hb, hlb⟩ := isContinuation_low (n / 64)
  obtain ⟨hc, hlc⟩ := isContinuation_low n
  have hfits : secondFits (UInt8.ofNat (0xE0 + n / 4096)) (UInt8.ofNat (0x80 + n / 64 % 64)) =
      true := by
    simp only [secondFits, hb, Bool.and_eq_true, Bool.or_eq_true, bne_iff_ne, ne_eq,
      decide_eq_true_eq, UInt8.le_iff_toNat_le, UInt8.lt_iff_toNat_lt, ← UInt8.toNat_inj, hlead,
      hsecond, UInt8.reduceToNat]
    refine ⟨⟨⟨⟨trivial, ?_⟩, ?_⟩, ?_⟩, ?_⟩ <;> omega
  simp only [front, UInt8.lt_iff_toNat_lt, hlead, UInt8.reduceToNat]
  rw [if_neg (by omega), if_neg (by omega), if_neg (by omega), if_pos (by omega)]
  simp only [hfits, hc, Bool.not_true, Bool.false_eq_true, if_false, hlb, hlc]
  congr 2
  omega

theorem front_four {n : Nat} (h₁ : 0x10000 ≤ n) (h₂ : n < 0x110000) (rest : Bytes) :
    front (UInt8.ofNat (0xF0 + n / 262144))
        (UInt8.ofNat (0x80 + n / 4096 % 64) :: UInt8.ofNat (0x80 + n / 64 % 64) ::
          UInt8.ofNat (0x80 + n % 64) :: rest) =
      .point (pointOf n) rest := by
  have hlead := toNat_ofNat_byte (n := 0xF0 + n / 262144) (by omega)
  have hsecond := toNat_ofNat_byte (n := 0x80 + n / 4096 % 64) (by omega)
  obtain ⟨hb, hlb⟩ := isContinuation_low (n / 4096)
  obtain ⟨hc, hlc⟩ := isContinuation_low (n / 64)
  obtain ⟨hd, hld⟩ := isContinuation_low n
  have hfits : secondFits (UInt8.ofNat (0xF0 + n / 262144))
      (UInt8.ofNat (0x80 + n / 4096 % 64)) = true := by
    simp only [secondFits, hb, Bool.and_eq_true, Bool.or_eq_true, bne_iff_ne, ne_eq,
      decide_eq_true_eq, UInt8.le_iff_toNat_le, UInt8.lt_iff_toNat_lt, ← UInt8.toNat_inj, hlead,
      hsecond, UInt8.reduceToNat]
    refine ⟨⟨⟨⟨trivial, ?_⟩, ?_⟩, ?_⟩, ?_⟩ <;> omega
  simp only [front, UInt8.lt_iff_toNat_lt, hlead, UInt8.reduceToNat]
  rw [if_neg (by omega), if_neg (by omega), if_neg (by omega), if_neg (by omega),
    if_pos (by omega)]
  simp only [hfits, hc, hd, Bool.not_true, Bool.false_eq_true, if_false, hlb, hlc, hld]
  congr 2
  omega

/-- The form of a code point in bytes begins with a lead byte, from which the reader takes the
code point back. -/
theorem front_encodePoint {c : CodePoint} (h : c.isSurrogate = false) :
    ∃ lead tail, encodePoint c = lead :: tail ∧
      ∀ rest, front lead (tail ++ rest) = .point c rest := by
  have hmax := c.isLt
  have hsur : c.val < 0xD800 ∨ 0xDFFF < c.val := by
    simp only [CodePoint.isSurrogate, Bool.and_eq_false_iff, decide_eq_false_iff_not] at h
    omega
  have hpoint := pointOf_val c
  rw [encodePoint]
  split
  · next hone =>
    refine ⟨_, [], rfl, fun rest => ?_⟩
    have hlead := toNat_ofNat_byte (n := c.val) (by omega)
    simp only [front, UInt8.lt_iff_toNat_lt, hlead, UInt8.reduceToNat]
    rw [if_pos hone, hpoint, List.nil_append]
  · split
    · exact ⟨_, _, rfl, fun rest => (front_two (n := c.val) (by omega) (by omega) rest).trans
        (by rw [hpoint])⟩
    · split
      · exact ⟨_, _, rfl, fun rest =>
          (front_three (n := c.val) (by omega) (by omega) hsur rest).trans (by rw [hpoint])⟩
      · exact ⟨_, _, rfl, fun rest =>
          (front_four (n := c.val) (by omega) (by omega) rest).trans (by rw [hpoint])⟩

theorem decode_go_encode (total : Nat) :
    ∀ (t done : Text) (fuel : Nat), (∀ c ∈ t, c.isSurrogate = false) → t.length ≤ fuel →
      decode.go total done fuel (t.flatMap encodePoint) = .ok (done.reverse ++ t) := by
  intro t
  induction t with
  | nil =>
    intro done fuel _ _
    cases fuel <;> simp [decode.go]
  | cons c t ih =>
    intro done fuel hsur hfuel
    obtain ⟨lead, tail, hencode, hfront⟩ := front_encodePoint (hsur c (by simp))
    obtain ⟨fuel, rfl⟩ : ∃ n, fuel = n + 1 := ⟨fuel - 1, by simp at hfuel; omega⟩
    rw [List.flatMap_cons, hencode, List.cons_append, decode.go, hfront]
    simp only []
    rw [ih (c :: done) fuel (fun d hd => hsur d (by simp [hd])) (by simpa using hfuel)]
    simp

theorem length_encodePoint_pos (c : CodePoint) : 0 < (encodePoint c).length := by
  rw [encodePoint]
  split
  · simp
  · split
    · simp
    · split <;> simp

theorem length_encodePoint_eq_one_iff {c : CodePoint} :
    (encodePoint c).length = 1 ↔ c.val < 128 := by
  rw [encodePoint]
  split
  · next hone => exact iff_of_true rfl hone
  · next hmore =>
    refine iff_of_false ?_ hmore
    split
    · simp
    · split <;> simp

theorem length_le_length_encode (t : Text) : t.length ≤ (t.flatMap encodePoint).length := by
  induction t with
  | nil => simp
  | cons c t ih =>
    have hpos := length_encodePoint_pos c
    simp only [List.flatMap_cons, List.length_append, List.length_cons]
    omega

/-- Only ASCII takes as many bytes as code points. -/
theorem length_eq_length_encode_iff (t : Text) :
    t.length = (t.flatMap encodePoint).length ↔ ∀ c ∈ t, c.val < 128 := by
  induction t with
  | nil => simp
  | cons c t ih =>
    have hpos := length_encodePoint_pos c
    have hrest := length_le_length_encode t
    rw [List.forall_mem_cons, ← ih, ← length_encodePoint_eq_one_iff, List.flatMap_cons,
      List.length_append, List.length_cons]
    omega

/-- A text without surrogates survives the way into bytes and back. -/
theorem decode_encode {t : Text} (h : ∀ c ∈ t, c.isSurrogate = false) :
    decode (t.flatMap encodePoint) = .ok t := by
  rw [decode, decode_go_encode _ t [] _ h (length_le_length_encode t)]
  simp

theorem encodeOrFail_eq_ok {t : Text} (h : ∀ c ∈ t, c.isSurrogate = false) :
    encodeOrFail t = .ok (t.flatMap encodePoint) := by
  have hall : t.dropWhile (fun c => !c.isSurrogate) = [] :=
    List.dropWhile_eq_nil_iff.2 fun c hc => by simp [h c hc]
  rw [encodeOrFail, encode, Unencodable.find?, hall]

theorem eq_of_encodeOrFail {t : Text} {s : Bytes} (h : encodeOrFail t = .ok s) :
    s = t.flatMap encodePoint := by
  rw [encodeOrFail, encode] at h
  cases hfind : Unencodable.find? (fun c => !c.isSurrogate) t with
  | some run =>
    rw [hfind] at h
    cases h
  | none =>
    rw [hfind] at h
    exact (Except.ok.inj h).symm

end Utf8
end AssetBundle
