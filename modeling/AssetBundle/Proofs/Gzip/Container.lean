import AssetBundle.Proofs.Gzip.Matching
import AssetBundle.Proofs.Gzip.Storing

/-!
# AssetBundle.Proofs.Gzip.Container

What is compressed is decompressed to itself, at every level (`decompress_pack`). A member around
any stream that expands to the contents is a container of the contents (`decompress_member`): its
header is skipped, and checksum and length in its trailer are read back (`readLittleEndian_eq`). The
streams of stored blocks and those of matching are such streams.
-/

namespace AssetBundle
namespace Gzip

theorem length_littleEndian : ∀ (width n : Nat), (Stored.littleEndian width n).length = width := by
  intro width
  induction width with
  | zero => intro n; rfl
  | succ width ih => intro n; rw [Stored.littleEndian, List.length_cons, ih]

/-- How many numbers can be written in so many bytes. -/
def room : Nat → Nat
  | 0 => 1
  | width + 1 => 256 * room width

/-- A number that is written in so many bytes is read back, if it has room there. -/
theorem readLittleEndian_eq : ∀ (width n : Nat),
    readLittleEndian (Stored.littleEndian width n) = n % room width := by
  intro width
  induction width with
  | zero => intro n; simp [Stored.littleEndian, readLittleEndian, room, Nat.mod_one]
  | succ width ih =>
    intro n
    rw [Stored.littleEndian, readLittleEndian, toNat_ofNat_mod, ih, room, Nat.mod_mul]

theorem length_trailer (s : Bytes) : (trailer s).length = 8 := by
  rw [trailer, List.length_append, length_littleEndian, length_littleEndian]

theorem skipHeader_header (level : Level) (s : Bytes) :
    skipHeader (header level ++ s) = .ok s := rfl

theorem checksum_lt (s : Bytes) : (Crc32.checksum s).toNat < room 4 :=
  (Crc32.checksum s).toNat_lt

/-- A member is read as its contents, if its stream expands to them and leaves the trailer. -/
theorem readMember_member (level : Level) {stream s : Bytes}
    (h : inflate (stream ++ trailer s) = .ok (s, trailer s)) :
    readMember (member level stream s) = .ok (s, []) := by
  have hchecksum : readLittleEndian ((trailer s).take 4) = (Crc32.checksum s).toNat := by
    rw [trailer, List.take_left' (length_littleEndian 4 _), readLittleEndian_eq,
      Nat.mod_eq_of_lt (checksum_lt s)]
  have hlength : readLittleEndian (((trailer s).drop 4).take 4) = s.length % lengthBound := by
    rw [trailer, List.drop_left' (length_littleEndian 4 _),
      List.take_of_length_le (Nat.le_of_eq (length_littleEndian 4 _)), readLittleEndian_eq]
    exact Nat.mod_eq_of_lt (Nat.mod_lt _ (by decide))
  have hend : (trailer s).drop 8 = [] := List.drop_of_length_le (Nat.le_of_eq (length_trailer s))
  rw [readMember, member, skipHeader_header]
  dsimp only
  rw [h]
  dsimp only
  rw [length_trailer, hchecksum, hlength, hend]
  simp

/-- A member around a stream that expands to the contents is a container of the contents. -/
theorem decompress_member {level : Level} {stream s : Bytes}
    (h : inflate (stream ++ trailer s) = .ok (s, trailer s)) :
    decompress (member level stream s) = .ok s := by
  have hmember : ∃ b rest, member level stream s = b :: rest := ⟨_, _, rfl⟩
  obtain ⟨b, rest, hcons⟩ := hmember
  have hread := readMember_member level h
  rw [hcons] at hread
  rw [decompress, hcons, List.length_cons, decompress.go, hread]
  · simp [decompress.go]
  · exact List.cons_ne_nil b rest

/-- What is packed at any level is unpacked. -/
theorem decompress_pack (level : Level) (s : Bytes) : decompress (pack level s) = .ok s := by
  rw [pack]
  refine decompress_member ?_
  split
  · exact inflate_stream s (trailer s)
  · exact Matching.inflate_stream s (trailer s)

end Gzip
end AssetBundle
