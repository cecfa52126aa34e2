import AssetBundle.Gzip.Bits

/-!
# AssetBundle.Proofs.Gzip.Bits

What a pen writes is what a cursor reads. Both are told by lists of bits: those that have been
written (`Pen.all`), and those that a cursor gives one after another (`Cursor.Gives`). A pen only
adds bits behind those that are written (`Pen.Adds`), and its bytes give them all and leave what
stands behind the last byte (`Pen.gives_toBytes`).
-/

namespace AssetBundle
namespace Gzip

/-- So many bits of a number, the lowest first. -/
def lowBits : Nat → Nat → List Nat
  | 0, _ => []
  | width + 1, n => n % 2 :: lowBits width (n / 2)

/-- So many bits of a number, the highest first. -/
def highBits : Nat → Nat → List Nat
  | 0, _ => []
  | width + 1, n => n >>> width % 2 :: highBits width n

/-- How many numbers can be written in so many bits. -/
def bitRoom : Nat → Nat
  | 0 => 1
  | width + 1 => 2 * bitRoom width

theorem bitRoom_le {width : Nat} (h : width < 8) : bitRoom width ≤ 256 := by
  have hall : ∀ width < 8, bitRoom width ≤ 256 := by decide
  exact hall width h

theorem length_highBits (width n : Nat) : (highBits width n).length = width := by
  induction width with
  | zero => rfl
  | succ width ih => rw [highBits, List.length_cons, ih]

/-- A bit above the others is the last one. -/
theorem lowBits_concat (b : Nat) : ∀ {width n : Nat}, n < bitRoom width →
    lowBits (width + 1) (n + (b % 2) <<< width) = lowBits width n ++ [b % 2] := by
  intro width
  induction width with
  | zero =>
    intro n hn
    obtain rfl : n = 0 := Nat.lt_one_iff.1 hn
    simp [lowBits]
  | succ width ih =>
    intro n hn
    rw [bitRoom] at hn
    have hlow : (n + 2 * (b % 2) <<< width) % 2 = n % 2 := by omega
    have hhigh : (n + 2 * (b % 2) <<< width) / 2 = n / 2 + (b % 2) <<< width := by omega
    rw [Nat.shiftLeft_succ, lowBits, hlow, hhigh, ih (by omega)]
    rfl

theorem shiftLeft_le_bitRoom (b width : Nat) : (b % 2) <<< width ≤ bitRoom width := by
  induction width with
  | zero => exact Nat.le_of_lt_succ (Nat.mod_lt b (by decide))
  | succ width ih =>
    rw [Nat.shiftLeft_succ, bitRoom]
    exact Nat.mul_le_mul_left 2 ih

theorem add_shiftLeft_lt (b : Nat) {width n : Nat} (h : n < bitRoom width) :
    n + (b % 2) <<< width < bitRoom (width + 1) := by
  have := shiftLeft_le_bitRoom b width
  rw [bitRoom]
  omega

theorem toNat_ofNat_of_lt {n : Nat} (h : n < 256) : (UInt8.ofNat n).toNat = n := by
  rw [UInt8.toNat_ofNat']
  exact Nat.mod_eq_of_lt h

/-- The bits of bytes, one byte after another. -/
def bitsOf (s : Bytes) : List Nat := s.flatMap fun b => lowBits 8 b.toNat

theorem bitsOf_concat (s : Bytes) (b : UInt8) :
    bitsOf (s ++ [b]) = bitsOf s ++ lowBits 8 b.toNat := by
  simp [bitsOf]

namespace Pen

variable {p p' p'' : Pen} {written more : List Nat}

/-- Everything that has been written. -/
def all (p : Pen) : List Nat := bitsOf p.done.reverse ++ lowBits p.used p.byte

/-- Whether the byte in the making has no more than the bits that it is said to have. -/
structure IsProper (p : Pen) : Prop where
  used : p.used < 8
  byte : p.byte < bitRoom p.used

theorem all_empty : empty.all = [] := rfl

theorem isProper_empty : empty.IsProper := ⟨by decide, by decide⟩

/-- Whether a pen has written these bits behind those of another. -/
def Adds (p : Pen) (written : List Nat) (p' : Pen) : Prop :=
  p.IsProper → p'.IsProper ∧ p'.all = p.all ++ written

theorem Adds.refl (p : Pen) : p.Adds [] p := fun h => ⟨h, (List.append_nil _).symm⟩

theorem Adds.trans (h : p.Adds written p') (h' : p'.Adds more p'') :
    p.Adds (written ++ more) p'' := by
  intro hproper
  obtain ⟨hproper', hall⟩ := h hproper
  obtain ⟨hproper'', hall'⟩ := h' hproper'
  exact ⟨hproper'', by rw [hall', hall, List.append_assoc]⟩

theorem adds_bit (p : Pen) (b : Nat) : p.Adds [b % 2] (p.bit b) := by
  rintro ⟨hused, hbyte⟩
  have hlt := add_shiftLeft_lt b hbyte
  have hbits := lowBits_concat b hbyte
  unfold bit
  split
  · next hfull =>
    rw [hfull] at hlt hbits
    refine ⟨⟨Nat.succ_pos 7, Nat.one_pos⟩, ?_⟩
    rw [all, all]
    dsimp only
    rw [List.reverse_cons, bitsOf_concat, hfull, toNat_ofNat_of_lt hlt, hbits, lowBits,
      List.append_nil, List.append_assoc]
  · refine ⟨⟨by dsimp only; omega, hlt⟩, ?_⟩
    simp [all, hbits]

theorem adds_bits : ∀ (p : Pen) (width n : Nat), p.Adds (lowBits width n) (p.bits width n) := by
  intro p width
  induction width generalizing p with
  | zero => exact fun _ => .refl p
  | succ width ih =>
    intro n
    have hfirst := p.adds_bit (n % 2)
    rw [Nat.mod_mod] at hfirst
    exact hfirst.trans (ih _ (n / 2))

theorem adds_code : ∀ (p : Pen) (width n : Nat), p.Adds (highBits width n) (p.code width n) := by
  intro p width
  induction width generalizing p with
  | zero => exact fun _ => .refl p
  | succ width ih =>
    intro n
    have hfirst := p.adds_bit (n >>> width % 2)
    rw [Nat.mod_mod] at hfirst
    exact hfirst.trans (ih _ n)

end Pen

namespace Cursor

variable {c m c' : Cursor} {b : Nat} {given more : List Nat}

/-- Whether a cursor gives these bits one after another, and what it is then. -/
inductive Gives : Cursor → List Nat → Cursor → Prop
  | none (c : Cursor) : Gives c [] c
  | next {c m c' : Cursor} {b : Nat} {given : List Nat} :
      c.bit? = some (b, m) → Gives m given c' → Gives c (b :: given) c'

theorem Gives.trans (h : Gives c given m) (h' : Gives m more c') :
    Gives c (given ++ more) c' := by
  induction h with
  | none => exact h'
  | next hbit _ ih => exact .next hbit (ih h')

theorem Gives.split (h : Gives c (given ++ more) c') :
    ∃ m, Gives c given m ∧ Gives m more c' := by
  induction given generalizing c with
  | nil => exact ⟨c, .none c, h⟩
  | cons b given ih =>
    cases h with
    | next hbit hrest =>
      obtain ⟨m, hgiven, hmore⟩ := ih hrest
      exact ⟨m, .next hbit hgiven, hmore⟩

theorem size_of_bit? (h : c.bit? = some (b, m)) : c.size = m.size + 1 := by
  rw [bit?] at h
  split at h <;> cases h
  · next hleft =>
    dsimp only [size]
    rw [hleft]
    omega
  · next hleft hrest =>
    dsimp only [size]
    rw [hleft, hrest, List.length_cons]
    omega

theorem Gives.size_eq (h : Gives c given c') : c.size = c'.size + given.length := by
  induction h with
  | none => rfl
  | next hbit _ ih =>
    rw [size_of_bit? hbit, ih, List.length_cons]
    omega

/-- A number that is given is read. -/
theorem Gives.bits? : ∀ {width n : Nat} {c : Cursor}, n < bitRoom width →
    Gives c (lowBits width n) c' → c.bits? width = some (n, c') := by
  intro width
  induction width with
  | zero =>
    intro n c hn h
    obtain rfl : n = 0 := Nat.lt_one_iff.1 hn
    cases h
    rfl
  | succ width ih =>
    intro n c hn h
    rw [bitRoom] at hn
    cases h with
    | next hbit hrest =>
      rw [Cursor.bits?, hbit]
      dsimp only
      rw [ih (by omega) hrest]
      dsimp only
      rw [Nat.mod_add_div]

/-- What is left of the byte at hand. -/
theorem gives_left : ∀ (width byte left : Nat) (rest : Bytes), width ≤ left →
    Gives ⟨byte, left, rest⟩ (lowBits width byte) ⟨byte / bitRoom width, left - width, rest⟩ := by
  intro width
  induction width with
  | zero =>
    intro byte left rest _
    rw [bitRoom, Nat.div_one]
    exact .none _
  | succ width ih =>
    intro byte left rest hle
    obtain ⟨left, rfl⟩ : ∃ n, left = n + 1 := ⟨left - 1, by omega⟩
    have hrest := ih (byte / 2) left rest (by omega)
    rw [Nat.div_div_eq_div_mul] at hrest
    rw [Nat.add_sub_add_right]
    exact .next rfl hrest

/-- The first bits of a byte. -/
theorem gives_byte {width : Nat} (hpos : 0 < width) (hle : width ≤ 8) (b : UInt8) (rest : Bytes) :
    Gives (ofBytes (b :: rest)) (lowBits width b.toNat)
      ⟨b.toNat / bitRoom width, 8 - width, rest⟩ := by
  obtain ⟨width, rfl⟩ : ∃ n, width = n + 1 := ⟨width - 1, by omega⟩
  have hrest := gives_left width (b.toNat / 2) 7 rest (by omega)
  rw [Nat.div_div_eq_div_mul] at hrest
  rw [Nat.add_sub_add_right 7 1 width]
  exact .next rfl hrest

theorem gives_bytes (s rest : Bytes) : Gives (ofBytes (s ++ rest)) (bitsOf s) (ofBytes rest) := by
  induction s with
  | nil => exact .none _
  | cons b s ih =>
    have hbyte := @gives_byte 8 (by decide) (by decide) b (s ++ rest)
    have hempty : b.toNat / bitRoom 8 = 0 := Nat.div_eq_of_lt b.toNat_lt
    rw [hempty] at hbyte
    exact hbyte.trans ih

end Cursor

/-- The bytes of a pen give everything that has been written. The last byte is left as it is. -/
theorem Pen.gives_toBytes {p : Pen} (h : p.IsProper) (rest : Bytes) :
    ∃ c, (Cursor.ofBytes (p.toBytes ++ rest)).Gives p.all c ∧ c.bytes = rest := by
  have hdone := fun s => Cursor.gives_bytes p.done.reverse (s ++ rest)
  rw [toBytes, all]
  split
  · next hused =>
    rw [hused, lowBits, List.append_nil]
    exact ⟨_, hdone [], rfl⟩
  · next hused =>
    have hlt : p.byte < 256 := Nat.lt_of_lt_of_le h.byte (bitRoom_le h.used)
    have hlast := Cursor.gives_byte (Nat.pos_of_ne_zero hused) (Nat.le_of_lt h.used)
      (UInt8.ofNat p.byte) rest
    rw [toNat_ofNat_of_lt hlt] at hlast
    rw [List.reverse_cons, List.append_assoc]
    exact ⟨_, (hdone [UInt8.ofNat p.byte]).trans hlast, rfl⟩

end Gzip
end AssetBundle
