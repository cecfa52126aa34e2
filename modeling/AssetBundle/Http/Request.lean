import AssetBundle.Failure
import AssetBundle.Text.CaseMapping

/-!
# AssetBundle.Http.Request

Requests. The raw form is bytes: a request line of method, path and version with single spaces
between them, header lines, and an empty line that ends the head. What follows the head is not
looked at.
-/

namespace AssetBundle

/-- A request line and the block of header lines behind it. -/
structure Request where
  method : Text
  /-- The path with its query. -/
  fullPath : Text
  headerBlock : Bytes
deriving DecidableEq, Repr

namespace Request

def lineEnd : Bytes := [13, 10]

/-- The empty line that ends a head. -/
def headEnd : Bytes := [13, 10, 13, 10]

def space : Bytes := [32]

def colon : Bytes := [0x3A]

def questionMark : Text := [0x3F]

/-- The path without its query. -/
def path (r : Request) : Text := Sequence.before questionMark r.fullPath

def summary (r : Request) : Text := "<RequestContext " ++ r.method ++ " " ++ r.fullPath ++ ">"

/-- A header name or value, read off the wire. -/
def readField (s : Bytes) : Text := Latin1.decode (Bytes.trim s)

/-- A header name as it is compared: in lower case. -/
def readName (s : Bytes) : Text := (readField s).map CaseMapping.lowerPoint

/-- A line is a header if it has a colon. -/
def readLine? (line : Bytes) : Option (Text × Text) :=
  match Sequence.cutAt? colon line with
  | some (name, value) => some (readName name, readField value)
  | none => none

/-- The headers of the block in order, names in lower case. -/
def fields (r : Request) : List (Text × Text) :=
  (Sequence.splitOn lineEnd r.headerBlock).filterMap readLine?

/-- The value of the first header of that name, in any case. -/
def field? (r : Request) (name : Text) : Option Text := r.fields.lookup (Text.lower name)

/-- Reads the head of a raw request. -/
def parse (buffer : Bytes) : Outcome Request :=
  match Sequence.cutAt? headEnd buffer with
  | none => .error .noTerminator
  | some (head, _) =>
    let (line, headers) := (Sequence.cutAt? lineEnd head).getD (head, [])
    match Sequence.cutAt? space line with
    | none => .error .requestLine
    | some (method, rest) =>
      match Sequence.cutAt? space rest with
      | none => .error .requestLine
      | some (path, _) => .ok ⟨Latin1.decode method, Latin1.decode path, headers⟩

end Request
end AssetBundle
