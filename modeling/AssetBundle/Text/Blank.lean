import AssetBundle.Sequence
import AssetBundle.Text.CodePoint

/-!
# AssetBundle.Text.Blank

White space. Text is trimmed of the Unicode white space and of the four information separators
U+001C to U+001F; a byte string is trimmed of the six ASCII blanks only.
-/

namespace AssetBundle
namespace CodePoint

/-- Whether the code point lies in one of the closed ranges. -/
def within (ranges : List (Nat × Nat)) (c : CodePoint) : Bool :=
  ranges.any fun range => range.1 ≤ c.val && c.val ≤ range.2

def blankRanges : List (Nat × Nat) := [
  (9, 13), (28, 32), (133, 133), (160, 160), (5760, 5760), (8192, 8202), (8232, 8233),
  (8239, 8239), (8287, 8287), (12288, 12288)]

def isBlank (c : CodePoint) : Bool := within blankRanges c

end CodePoint

namespace Text

def trim (t : Text) : Text := Sequence.trim CodePoint.isBlank t

def trimRight (t : Text) : Text := Sequence.trimRight CodePoint.isBlank t

end Text

namespace Bytes

/-- Space, tab, line feed, vertical tab, form feed and carriage return. -/
def isBlank (b : UInt8) : Bool := b == 32 || (9 ≤ b && b ≤ 13)

def trim (s : Bytes) : Bytes := Sequence.trim isBlank s

end Bytes
end AssetBundle
