import AssetBundle.Text.CodePoint

/-!
# AssetBundle.Gzip.Stored

A stream of stored blocks: each block is one byte that tells whether it is the last, its length
and the complement of its length in two bytes each, and its bytes as they are. The empty string
is one empty block.
-/

namespace AssetBundle
namespace Gzip
namespace Stored

/-- The most bytes that the block of a given number takes. The output grows in steps, and the
blocks at the end of a step are shorter, so that a block never waits for room. -/
def capacity (number : Nat) : Nat :=
  match number with
  | 0 => 65531
  | 1 => 32773
  | 5 => 65499
  | 21 => 65475
  | 85 => 65283
  | 6 | 22 | 86 => 65531
  | _ => 65535

/-- A number in so many bytes, the low byte first. -/
def littleEndian : Nat → Nat → Bytes
  | 0, _ => []
  | width + 1, n => UInt8.ofNat (n % 256) :: littleEndian width (n / 256)

def block (last : Bool) (s : Bytes) : Bytes :=
  (if last then 1 else 0) ::
    (littleEndian 2 s.length ++ (littleEndian 2 (65535 - s.length) ++ s))

/-- The blocks in front of the last one, newest first, and the last block. -/
def blocks : Nat → Nat → List Bytes → Bytes → List Bytes
  | 0, _, done, s => (block true s :: done).reverse
  | fuel + 1, number, done, s =>
    let size := capacity number
    if s.length ≤ size then (block true s :: done).reverse
    else blocks fuel (number + 1) (block false (s.take size) :: done) (s.drop size)

def stream (s : Bytes) : Bytes := (blocks s.length 0 [] s).flatten

end Stored
end Gzip
end AssetBundle
