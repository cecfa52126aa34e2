import AssetBundle.Gzip.Container

/-!
# AssetBundle.Proofs.Gzip.Storing

Stored blocks are expanded to what they store, whatever stands behind them (`inflate_stream`). A
block takes the bytes it has room for and leaves the reader at the start of a byte (`block_block`),
so the blocks of a stream are read one after another (`blocks_blocks`).
-/

namespace AssetBundle
namespace Gzip

open Stored

theorem capacity_pos (number : Nat) : 0 < capacity number := by
  unfold capacity
  split <;> decide

theorem capacity_le (number : Nat) : capacity number ≤ 65535 := by
  unfold capacity
  split <;> decide

theorem littleEndian_two (n : Nat) :
    littleEndian 2 n = [UInt8.ofNat (n % 256), UInt8.ofNat (n / 256 % 256)] := rfl

theorem toNat_ofNat_mod (n : Nat) : (UInt8.ofNat (n % 256)).toNat = n % 256 := by
  rw [UInt8.toNat_ofNat']
  omega

namespace Inflate

theorem takeBits_three (b : UInt8) (rest : Bytes) :
    takeBits 3 (.ofBytes (b :: rest)) = .ok (b.toNat % 8, ⟨b.toNat / 8, 5, rest⟩) := by
  have hvalue : b.toNat % 2 + 2 * (b.toNat / 2 % 2 + 2 * (b.toNat / 2 / 2 % 2 + 2 * 0)) =
      b.toNat % 8 := by omega
  have hleft : b.toNat / 2 / 2 / 2 = b.toNat / 8 := by omega
  rw [← hvalue, ← hleft]
  rfl

/-- A stored block is read as far as its length says. -/
theorem stored_block {s : Bytes} (hs : s.length ≤ 65535) (out : Array UInt8) (byte left : Nat)
    (rest : Bytes) :
    stored out ⟨byte, left,
        littleEndian 2 s.length ++ (littleEndian 2 (65535 - s.length) ++ (s ++ rest))⟩ =
      .ok (s.foldl Array.push out, .ofBytes rest) := by
  have hsize : s.length % 256 + 256 * (s.length / 256 % 256) = s.length := by omega
  have hcomplement : (65535 - s.length) % 256 + 256 * ((65535 - s.length) / 256 % 256) =
      65535 - s.length := by omega
  simp only [stored, Cursor.bytes, littleEndian_two, List.cons_append, List.nil_append,
    toNat_ofNat_mod, hsize, hcomplement]
  simp

/-- A block whose head gives the type of stored blocks is one, the last one if the head is odd. -/
theorem block_of_head {b : UInt8} (hb : b.toNat % 8 / 2 = 0) {out out' : Array UInt8} {rest : Bytes}
    {c : Cursor} (h : stored out ⟨b.toNat / 8, 5, rest⟩ = .ok (out', c)) :
    block out (.ofBytes (b :: rest)) = .ok ((decide (b.toNat % 8 % 2 = 1), out'), c) := by
  rw [block, takeBits_three]
  simp only [hb, h]

theorem block_block {s : Bytes} (hs : s.length ≤ 65535) (last : Bool) (out : Array UInt8)
    (rest : Bytes) :
    block out (.ofBytes (Stored.block last s ++ rest)) =
      .ok ((last, s.foldl Array.push out), .ofBytes rest) := by
  rw [Stored.block, List.cons_append, List.append_assoc, List.append_assoc]
  cases last with
  | true => exact block_of_head (by decide) (stored_block hs out _ _ rest)
  | false => exact block_of_head (by decide) (stored_block hs out _ _ rest)

/-- The blocks in front come first, whatever they are. -/
theorem blocks_done : ∀ (fuel number : Nat) (done : List Bytes) (s : Bytes),
    Stored.blocks fuel number done s = done.reverse ++ Stored.blocks fuel number [] s := by
  intro fuel
  induction fuel with
  | zero => intro number done s; simp [Stored.blocks]
  | succ fuel ih =>
    intro number done s
    rw [Stored.blocks, Stored.blocks]
    split
    · simp
    · rw [ih _ (Stored.block false _ :: done), ih _ [Stored.block false _]]
      simp

/-- The blocks of a stream are read one after another, up to the last one. -/
theorem blocks_blocks (rest : Bytes) : ∀ (fuel steps number : Nat) (s : Bytes) (out : Array UInt8),
    s.length ≤ fuel → (Stored.blocks fuel number [] s).length ≤ steps →
      blocks steps out (.ofBytes ((Stored.blocks fuel number [] s).flatten ++ rest)) =
        .ok (s.foldl Array.push out, .ofBytes rest) := by
  intro fuel
  induction fuel with
  | zero =>
    intro steps number s out hs hsteps
    have hpos : 1 ≤ steps := by simpa [Stored.blocks] using hsteps
    obtain ⟨steps, rfl⟩ : ∃ n, steps = n + 1 := ⟨steps - 1, by omega⟩
    have hblock := block_block (s := s) (by omega) true out rest
    rw [Stored.blocks, blocks]
    simp [hblock]
  | succ fuel ih =>
    intro steps number s out hs hsteps
    have hpos := capacity_pos number
    have hle := capacity_le number
    rw [Stored.blocks] at hsteps ⊢
    split at hsteps
    · next hshort =>
      obtain ⟨steps, rfl⟩ : ∃ n, steps = n + 1 := ⟨steps - 1, by simp at hsteps; omega⟩
      have hblock := block_block (s := s) (by omega) true out rest
      rw [if_pos hshort, blocks]
      simp [hblock]
    · next hlong =>
      rw [if_neg hlong]
      rw [blocks_done] at hsteps ⊢
      obtain ⟨steps, rfl⟩ : ∃ n, steps = n + 1 := ⟨steps - 1, by simp at hsteps; omega⟩
      have hblock := block_block (s := s.take (capacity number)) (by simp; omega) false out
      have hrest := ih steps (number + 1) (s.drop (capacity number))
        ((s.take (capacity number)).foldl Array.push out) (by simp; omega) (by simpa using hsteps)
      rw [blocks]
      simp only [List.reverse_cons, List.reverse_nil, List.nil_append, List.cons_append,
        List.flatten_cons, List.append_assoc, hblock, hrest]
      rw [← List.foldl_append, List.take_append_drop]

end Inflate

/-- A block takes a byte at least, so there are no more blocks than bytes. -/
theorem length_blocks_le : ∀ (fuel number : Nat) (s : Bytes),
    (blocks fuel number [] s).length ≤ (blocks fuel number [] s).flatten.length := by
  intro fuel
  induction fuel with
  | zero => intro number s; simp [blocks, Stored.block]
  | succ fuel ih =>
    intro number s
    rw [blocks]
    split
    · simp [Stored.block]
    · rw [Inflate.blocks_done]
      have := ih (number + 1) (s.drop (capacity number))
      simp only [List.reverse_cons, List.reverse_nil, List.nil_append, List.cons_append,
        List.length_cons, List.flatten_cons, List.length_append, Stored.block]
      omega

/-- A stored stream is expanded to what it stores, and what stands behind it is left. -/
theorem inflate_stream (s rest : Bytes) : inflate (stream s ++ rest) = .ok (s, rest) := by
  have hsteps : (blocks s.length 0 [] s).length ≤
      (Cursor.ofBytes ((blocks s.length 0 [] s).flatten ++ rest)).size + 1 := by
    have := length_blocks_le s.length 0 s
    simp only [Cursor.size, Cursor.ofBytes, List.length_append]
    omega
  rw [inflate, stream, Inflate.blocks_blocks rest _ _ _ _ _ (Nat.le_refl _) hsteps]
  simp [Cursor.ofBytes, Cursor.bytes]

end Gzip
end AssetBundle
