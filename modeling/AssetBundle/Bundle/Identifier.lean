import AssetBundle.Text.CodePoint

/-!
# AssetBundle.Bundle.Identifier

Names for the constants of a bundle. A name is made from a file name by keeping ASCII letters and
digits and replacing the rest by underscores, and is numbered when it is already taken.
-/

namespace AssetBundle
namespace Identifier

def isAsciiAlphanumeric (c : CodePoint) : Bool :=
  (48 ≤ c.val && c.val ≤ 57) || (65 ≤ c.val && c.val ≤ 90) || (97 ≤ c.val && c.val ≤ 122)

def underscore : CodePoint := 0x5F

def ofFileName (name : Text) : Text :=
  if name.isEmpty then "file"
  else name.map fun c => if isAsciiAlphanumeric c then c else underscore

/-- The name with a number behind it. -/
def numbered (base : Text) (n : Nat) : Text := base ++ (underscore :: Text.ofNat n)

def unused.go (used : List Text) (base : Text) : Nat → Nat → Text
  | 0, n => numbered base n
  | fuel + 1, n =>
    if used.contains (numbered base n) then unused.go used base fuel (n + 1) else numbered base n

/-- The name itself, or its first numbered form from 2 on that is not in use. Of one more
numbered forms than there are names in use, one is free. -/
def unused (used : List Text) (base : Text) : Text :=
  if used.contains base then unused.go used base used.length 2 else base

end Identifier
end AssetBundle
