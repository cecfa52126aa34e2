import AssetBundle.Text.Utf8

/-!
# AssetBundle.Text.Latin1

Latin-1: a byte is the code point of the same number. Everything on the wire is read and written
this way, so decoding never fails and encoding fails exactly above U+00FF.
-/

namespace AssetBundle
namespace Latin1

def point (b : UInt8) : CodePoint := ⟨b.toNat, Nat.lt_trans b.toNat_lt (by decide)⟩

def decode (s : Bytes) : Text := s.map point

def encodable (c : CodePoint) : Bool := c.val < 256

def encode (t : Text) : Except Unencodable Bytes :=
  match Unencodable.find? encodable t with
  | some run => .error run
  | none => .ok (t.map fun c => UInt8.ofNat c.val)

end Latin1
end AssetBundle
