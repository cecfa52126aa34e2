import AssetBundle.Checksum.Sha1
import AssetBundle.Failure

/-!
# AssetBundle.Asset.Validator

The strong validator of a content: its digest as forty capital hexadecimal digits. It is taken of
the content itself and not of the payload in which it is stored.
-/

namespace AssetBundle
namespace Validator

def hexDigit (n : Nat) : CodePoint :=
  if n % 16 < 10 then Fin.ofNat 0x110000 (48 + n % 16) else Fin.ofNat 0x110000 (55 + n % 16)

def hexByte (b : UInt8) : Text := [hexDigit (b.toNat / 16), hexDigit b.toNat]

def ofBytes (s : Bytes) : Text := (Sha1.digest s).flatMap hexByte

/-- Only byte strings have a digest. -/
def ofValue (v : Value) : Outcome Text :=
  match v with
  | .text _ => .error .textNotHashable
  | v =>
    match v.toBytes? with
    | some s => .ok (ofBytes s)
    | none => .error .bufferRequired

end Validator
end AssetBundle
