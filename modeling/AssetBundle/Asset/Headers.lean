import AssetBundle.Failure
import AssetBundle.Text.Ascii

/-!
# AssetBundle.Asset.Headers

The header lines that go out with an asset. They are kept in the content type of the asset: a
content type that ends with a line end is a set of complete header lines, any other one is a bare
media type and stands for the one line that names it.

* `print` writes header lines, each with its line end; `parse` reads them back.
* `revalidating` composes the lines for a compiled asset.
-/

namespace AssetBundle

/-- A header line: its name and its value. -/
abbrev Header := Text × Text

abbrev Headers := List Header

namespace Headers

def lineEnd : Text := [13, 10]

def colon : Text := [0x3A]

def printLine (h : Header) : Text := h.1 ++ ((": " : Text) ++ (h.2 ++ lineEnd))

def print (hs : Headers) : Text := hs.flatMap printLine

/-- One line, with the blanks around name and value dropped. -/
def parseLine (line : Text) : Outcome Header :=
  match Sequence.cutAt? colon line with
  | some (name, value) => .ok (Text.trim name, Text.trim value)
  | none => .error (.headerLine line)

/-- The lines in order; the first one without a colon is an error. -/
def parseLines (done : Headers) : List Text → Outcome Headers
  | [] => .ok done.reverse
  | line :: rest =>
    match parseLine line with
    | .ok header => parseLines (header :: done) rest
    | .error e => .error e

/-- Whether a content type is a set of complete lines. -/
def isLineSet (contentType : Text) : Bool := lineEnd.isSuffixOf contentType

def parse (contentType : Text) : Outcome Headers :=
  if isLineSet contentType then
    parseLines [] ((Sequence.splitOn lineEnd contentType).filter fun line => !line.isEmpty)
  else .ok [("Content-Type", contentType)]

/-- The value of the first line of that name. The name is given in lower case. -/
def value? (name : Text) (hs : Headers) : Option Text :=
  (hs.find? fun h => Text.isWord name h.1).map Prod.snd

def has (name : Text) (hs : Headers) : Bool := hs.any fun h => Text.isWord name h.1

/-- A maximum age as decimal digits. Truth values count as numbers. -/
def formatAge (v : Value) : Outcome Text :=
  match v with
  | .bool b => .ok (if b then "1" else "0")
  | .int n => if Integer.isTooLong n then .error .integerTooLong else .ok (Text.ofInt n)
  | .real _ | .text _ => .error (.integerFormat v.typeName)
  | v => .error (.unsupportedFormat v.typeName)

/-- The lines of a compiled asset: its media type, its validator in quotes, its maximum age if
one is given, and its coding if it is compressed. -/
def revalidating (contentType validator : Text) (compressed : Bool) (maxAge : Value) :
    Outcome Headers :=
  let front : Headers :=
    [("Content-Type", contentType), ("Etag", ("\"" : Text) ++ (validator ++ ("\"" : Text)))]
  let coding : Headers := if compressed then [("Content-Encoding", "gzip")] else []
  match maxAge with
  | .none => .ok (front ++ coding)
  | maxAge =>
    match formatAge maxAge with
    | .error e => .error e
    | .ok age =>
      let caching : Header := ("Cache-Control", "public, must-revalidate, max-age=" ++ age)
      .ok (front ++ (caching :: coding))

end Headers
end AssetBundle
