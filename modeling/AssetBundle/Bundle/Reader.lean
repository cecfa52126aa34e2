import AssetBundle.Bundle.Artifact

/-!
# AssetBundle.Bundle.Reader

Reading the text of a bundle back. The definitions are read line by line: each gives a name to a
byte string, a number or a tuple, whose items are quoted texts, numbers or names that stand for
what they were given before. The table is then made of the parallel tuples.
-/

namespace AssetBundle
namespace Reader

/-- The values that names have so far, the latest first. -/
abbrev Names := List (Text × Value)

/-- A definition that is being read: its name, the bytes found so far as pieces, newest first, and
the items found so far, newest first. -/
structure Pending where
  name : Text
  pieces : List Bytes
  items : List Value

def isDigit (c : CodePoint) : Bool := 48 ≤ c.val && c.val ≤ 57

def number (t : Text) : Nat := t.foldl (fun n c => n * 10 + (c.val - 48)) 0

/-- The bytes written as hexadecimal escapes up to a double quote. -/
def hexBytes (done : Bytes) : Text → Option Bytes
  | [quote] => if quote = Quoted.doubleQuote then some done.reverse else none
  | mark :: letter :: high :: low :: rest =>
    if mark = Quoted.backslash ∧ letter = CodePoint.ofChar 'x' then
      match Quoted.hexValue? high, Quoted.hexValue? low with
      | some high, some low => hexBytes (UInt8.ofNat (high * 16 + low) :: done) rest
      | _, _ => none
    else none
  | _ => none

def comma : Text := [0x2C]

/-- An item of a tuple, without the comma behind it. -/
def item (names : Names) (t : Text) : Option Value :=
  match t with
  | [] => none
  | c :: _ =>
    if c = Quoted.apostrophe ∨ c = Quoted.doubleQuote then
      match Quoted.read t with
      | some (text, []) => some (.text text)
      | _ => none
    else if t.all isDigit then some (.int (number t))
    else names.lookup t

def indent : Text := "    "

def byteStart : Text := "    b\""

def commentStart : Text := "    # "

def openEnd : Text := " = ("

def equalSign : Text := " = "

/-- The text behind a start. -/
def behind? (start t : Text) : Option Text :=
  if start.isPrefixOf t then some (t.drop start.length) else none

/-- The text in front of an end. -/
def inFront? (ending t : Text) : Option Text :=
  if ending.isSuffixOf t then some (t.take (t.length - ending.length)) else none

/-- What a finished definition stands for. -/
def finish (p : Pending) : Value :=
  if p.pieces.isEmpty then .list p.items.reverse else .bytes p.pieces.reverse.flatten

/-- A line inside a definition. -/
def insideLine (names : Names) (p : Pending) (line : Text) : Option Pending :=
  match behind? byteStart line with
  | some hex =>
    match hexBytes [] hex with
    | some piece => some { p with pieces := piece :: p.pieces }
    | none => none
  | none =>
    if commentStart.isPrefixOf line then some p
    else
      match behind? indent line with
      | none => none
      | some rest =>
        match inFront? comma rest with
        | none => none
        | some rest =>
          match item names rest with
          | some v => some { p with items := v :: p.items }
          | none => none

/-- Reads definitions to the end. -/
def read (names : Names) : Option Pending → List Text → Option Names
  | none, [] => some names
  | some _, [] => none
  | none, line :: rest =>
    if line.isEmpty then read names none rest
    else
      match inFront? openEnd line with
      | some name => read names (some ⟨name, [], []⟩) rest
      | none =>
        match Sequence.cutAt? equalSign line with
        | some (name, value) =>
          if value.all isDigit then read ((name, .int (number value)) :: names) none rest
          else none
        | none => none
  | some p, line :: rest =>
    if line = (")" : Text) then read ((p.name, finish p) :: names) none rest
    else
      match insideLine names p line with
      | some p => read names (some p) rest
      | none => none

/-- The definitions of a bundle: the text between prelude and postlude. -/
def definitions? (t : Text) : Option Text :=
  match behind? Artifact.prelude t with
  | some rest => inFront? Artifact.postlude rest
  | none => none

def tupleOf (names : Names) (name : Text) : Option (List Value) :=
  match names.lookup name with
  | some (.list items) => some items
  | _ => none

/-- What the names of a bundle stand for in the end. -/
def names? (t : Text) : Option Names :=
  match definitions? t with
  | none => none
  | some body => read [] none (Sequence.splitOn Literal.lineFeed body)

/-- The table of a bundle. -/
def table (t : Text) : Outcome Table :=
  match names? t with
  | none => .error .bundleFormat
  | some names =>
    match tupleOf names Artifact.urlsName, tupleOf names Artifact.contentTypesName,
        tupleOf names Artifact.contentsName, tupleOf names Artifact.sizesName with
    | some urls, some contentTypes, some contents, some sizes =>
      Table.ofArrays urls contentTypes contents (.list sizes)
    | _, _, _, _ => .error .bundleFormat

/-- The table of a bundle file, whose text is UTF-8. -/
def ofFile (contents : Bytes) : Outcome Table :=
  match Utf8.decodeOrFail contents with
  | .error e => .error e
  | .ok t => table t

end Reader
end AssetBundle
