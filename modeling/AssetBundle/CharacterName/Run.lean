import AssetBundle.Sequence
import AssetBundle.Text.CodePoint

/-!
# AssetBundle.CharacterName.Run

Names of consecutive code points. A run is written as lines of names in small letters with
semicolons between them; where two semicolons meet, a code point has no name.
-/

namespace AssetBundle
namespace CharacterName

structure Run where
  first : Nat
  lines : List String

namespace Run

def semicolon : Text := ";"

def split (names : String) : List Text := Sequence.splitOn semicolon names

def names (r : Run) : List Text := r.lines.flatMap split

/-- The code point of a name in the run. -/
def find? (r : Run) (name : Text) : Option Nat := (r.names.idxOf? name).map (r.first + ·)

end Run
end CharacterName
end AssetBundle
