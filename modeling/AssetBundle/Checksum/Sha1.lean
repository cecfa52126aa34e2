import AssetBundle.Sequence
import AssetBundle.Text.CodePoint

/-!
# AssetBundle.Checksum.Sha1

The Secure Hash Algorithm with 160 bits. The message is padded to whole blocks of sixteen words;
each block is expanded to eighty words and mixed into five words of state.
-/

namespace AssetBundle
namespace Sha1

/-- The five words of state between two blocks. -/
structure State where
  a : UInt32
  b : UInt32
  c : UInt32
  d : UInt32
  e : UInt32
deriving DecidableEq, Repr

def initial : State := ⟨0x67452301, 0xEFCDAB89, 0x98BADCFE, 0x10325476, 0xC3D2E1F0⟩

/-- Number and order are those of the big end first. -/
def bigEndian : Nat → Nat → Bytes
  | 0, _ => []
  | width + 1, n => bigEndian width (n / 256) ++ [UInt8.ofNat (n % 256)]

/-- The message, one set bit, zeros up to eight bytes before a whole block, and the length of the
message in bits. -/
def pad (s : Bytes) : Bytes :=
  let zeros := (119 - s.length % 64) % 64
  s ++ (0x80 :: (List.replicate zeros 0 ++ bigEndian 8 (8 * s.length)))

def word (s : Bytes) : UInt32 := s.foldl (fun w b => (w <<< 8) ||| b.toUInt32) 0

def rotate (w : UInt32) (n : UInt32) : UInt32 := (w <<< n) ||| (w >>> (32 - n))

/-- The word sixteen places on, from the sixteen words at hand. -/
def expand (window : List UInt32) : UInt32 :=
  rotate (window.getD 13 0 ^^^ window.getD 8 0 ^^^ window.getD 2 0 ^^^ window.getD 0 0) 1

def round (i : Nat) (w : UInt32) (s : State) : State :=
  let (f, k) : UInt32 × UInt32 :=
    if i < 20 then ((s.b &&& s.c) ||| ((~~~ s.b) &&& s.d), 0x5A827999)
    else if i < 40 then (s.b ^^^ s.c ^^^ s.d, 0x6ED9EBA1)
    else if i < 60 then ((s.b &&& s.c) ||| (s.b &&& s.d) ||| (s.c &&& s.d), 0x8F1BBCDC)
    else (s.b ^^^ s.c ^^^ s.d, 0xCA62C1D6)
  ⟨rotate s.a 5 + f + s.e + k + w, s.a, rotate s.b 30, s.c, s.d⟩

/-- The rounds still to go, with the window of the next sixteen words. -/
def rounds : Nat → Nat → List UInt32 → State → State
  | 0, _, _, s => s
  | fuel + 1, i, window, s =>
    rounds fuel (i + 1) (window.drop 1 ++ [expand window]) (round i (window.headD 0) s)

def mixBlock (s : State) (block : Bytes) : State :=
  let window := (Sequence.chunks 4 block).map word
  let t := rounds 80 0 window s
  ⟨s.a + t.a, s.b + t.b, s.c + t.c, s.d + t.d, s.e + t.e⟩

def digest (s : Bytes) : Bytes :=
  let t := (Sequence.chunks 64 (pad s)).foldl mixBlock initial
  [t.a, t.b, t.c, t.d, t.e].flatMap fun w => bigEndian 4 w.toNat

end Sha1
end AssetBundle
