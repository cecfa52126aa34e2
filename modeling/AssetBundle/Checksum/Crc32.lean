import AssetBundle.Text.CodePoint

/-!
# AssetBundle.Checksum.Crc32

The cyclic redundancy check of 32 bits over the reflected polynomial 0xEDB88320, as it stands in
the trailer of a gzip member.
-/

namespace AssetBundle
namespace Crc32

/-- Shifts out one bit, and divides by the polynomial when it was set. -/
def shift (r : UInt32) : UInt32 :=
  if r &&& 1 = 1 then (r >>> 1) ^^^ 0xEDB88320 else r >>> 1

def step (r : UInt32) (b : UInt8) : UInt32 :=
  let r := r ^^^ b.toUInt32
  shift (shift (shift (shift (shift (shift (shift (shift r)))))))

def checksum (s : Bytes) : UInt32 := (s.foldl step 0xFFFFFFFF) ^^^ 0xFFFFFFFF

end Crc32
end AssetBundle
