import AssetBundle.Text.CodePoint

/-!
# AssetBundle.Command.Flag

The flags of the command. Each has one or two spellings; a long spelling may be cut short as long
as only one flag begins that way. A word with a dash in front need not be a flag: a negative
number and a word with a space in it stand for themselves.
-/

namespace AssetBundle

inductive Flag where
  | help
  | level
  | maxAge
  | verbose
deriving DecidableEq, Repr

namespace Flag

def dash : CodePoint := 0x2D

def equalSign : CodePoint := 0x3D

/-- Every spelling with its flag, in the order in which the usage lists them. -/
def spellings : List (Text × Flag) := [
  ("-h", .help),
  ("--help", .help),
  ("--level", .level),
  ("--max-age", .maxAge),
  ("-v", .verbose),
  ("--verbose", .verbose)]

def takesValue : Flag → Bool
  | .level | .maxAge => true
  | .help | .verbose => false

/-- The flag of a complete spelling. -/
def ofSpelling? (t : Text) : Option Flag := spellings.lookup t

/-- The flag of a single letter. -/
def ofLetter? (c : CodePoint) : Option Flag := ofSpelling? [dash, c]

/-- How messages name a flag: its spellings with slashes between them. -/
def label (f : Flag) : Text :=
  List.intercalate ("/" : Text) ((spellings.filter fun s => s.2 = f).map Prod.fst)

/-- The spellings that begin with a text. -/
def completions (start : Text) : List (Text × Flag) :=
  spellings.filter fun s => start.isPrefixOf s.1

end Flag
end AssetBundle
