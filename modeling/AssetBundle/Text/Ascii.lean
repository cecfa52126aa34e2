import AssetBundle.Text.CodePoint

/-!
# AssetBundle.Text.Ascii

Comparing words of a protocol without regard to case. Such words (header names, the names of
codings) are ASCII, and none of them holds a letter that is the lower case of anything outside
ASCII, so only ASCII capitals have to be folded.
-/

namespace AssetBundle
namespace CodePoint

/-- Lower case of an ASCII capital; every other code point stays. -/
def lowerAscii (c : CodePoint) : CodePoint :=
  if 65 ≤ c.val && c.val ≤ 90 then Fin.ofNat 0x110000 (c.val + 32) else c

end CodePoint

namespace Text

def lowerAscii (t : Text) : Text := t.map CodePoint.lowerAscii

/-- Whether the text is the given word in lower case, in any case of its letters. -/
def isWord (word t : Text) : Bool := lowerAscii t = word

end Text
end AssetBundle
