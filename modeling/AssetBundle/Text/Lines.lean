import AssetBundle.Text.CodePoint

/-!
# AssetBundle.Text.Lines

Text as lines. `lines` cuts at every Unicode line boundary: a carriage return with a line feed
behind it is one boundary, and a boundary at the very end opens no further line. `ofLines` writes
lines with a line feed behind each.
-/

namespace AssetBundle
namespace Text

def lineBreaks : List Nat := [10, 11, 12, 13, 0x1C, 0x1D, 0x1E, 0x85, 0x2028, 0x2029]

def isLineBreak (c : CodePoint) : Bool := lineBreaks.contains c.val

def lines.go (line : Text) (done : List Text) : Text → List Text
  | [] => (if line.isEmpty then done else line.reverse :: done).reverse
  | c :: rest =>
    if isLineBreak c then
      match c.val, rest with
      | 13, 10 :: rest => lines.go [] (line.reverse :: done) rest
      | _, rest => lines.go [] (line.reverse :: done) rest
    else lines.go (c :: line) done rest

/-- The lines without their ends. -/
def lines (t : Text) : List Text := lines.go [] [] t

/-- Lines as one text, each with its end. -/
def ofLines (lines : List String) : Text := lines.flatMap fun line => ofString line ++ [10]

end Text
end AssetBundle
