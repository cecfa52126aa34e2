import AssetBundle.Failure
import AssetBundle.Sequence

/-!
# AssetBundle.Bundle.Literal

The two kinds of definitions in a written bundle: a byte string, as lines of at most sixteen
bytes in hexadecimal, and a tuple of items, one on a line, each with a comment in front if there
are comments.
-/

namespace AssetBundle
namespace Literal

def lineFeed : Text := [10]

def bytesPerLine : Nat := 16

def opening (name : Text) : Text := name ++ (" = (" : Text) ++ lineFeed

def closing : Text := (")" : Text) ++ lineFeed ++ lineFeed

/-- A byte by its number, whatever it is. -/
def hexByte (b : UInt8) : Text := (Quoted.backslash :: CodePoint.ofChar 'x' :: Quoted.hex 2 b.toNat)

def byteLine (chunk : Bytes) : Text :=
  ("    b\"" : Text) ++ (chunk.flatMap hexByte ++ (("\"" : Text) ++ lineFeed))

/-- The lines of a byte string: one empty line for the empty string. -/
def byteLines (s : Bytes) : List Text :=
  if s.isEmpty then [byteLine []] else (Sequence.chunks bytesPerLine s).map byteLine

/-- The pieces in which a byte string is written, a line or an end in each. -/
def pieces (name : Text) (s : Bytes) : List Text := opening name :: (byteLines s ++ [closing])

def bytes (name : Text) (s : Bytes) : Text := (pieces name s).flatten

def commentLine (comment : Text) : Text :=
  ("    # " : Text) ++ (Quoted.text comment ++ lineFeed)

def itemLine (item : Text) : Text := ("    " : Text) ++ (item ++ (("," : Text) ++ lineFeed))

/-- A tuple of items as they are to be written. -/
def tuple (name : Text) (items : List Text) : Text :=
  opening name ++ (items.flatMap itemLine ++ closing)

/-- A tuple whose items have a comment each. -/
def commentedTuple (name : Text) (items : List (Text × Text)) : Text :=
  opening name ++
    (items.flatMap (fun (comment, item) => commentLine comment ++ itemLine item) ++ closing)

/-- Pairs items with comments, of which there may be more but not fewer. -/
def withComments : List Text → List Text → Outcome (List (Text × Text))
  | [], _ => .ok []
  | _ :: _, [] => .error .missingComment
  | item :: items, comment :: comments =>
    match withComments items comments with
    | .error e => .error e
    | .ok rest => .ok ((comment, item) :: rest)

end Literal
end AssetBundle
