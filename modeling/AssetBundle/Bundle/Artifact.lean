import AssetBundle.Asset.Table
import AssetBundle.Bundle.Identifier
import AssetBundle.Bundle.Literal
import AssetBundle.Text.Lines

/-!
# AssetBundle.Bundle.Artifact

The text of a bundle: one constant for the payload of each asset, the number of assets, parallel
tuples of paths, content types, payloads and sizes, and a function that registers them. The text
is written from entries, each an asset with the name of its file and of its constant.
-/

namespace AssetBundle

/-- An asset in a bundle. -/
structure Entry where
  fileName : Text
  constant : Text
  record : Record

namespace Artifact

def constantMark : Text := "ws_static_"

/-- The constant for a file, given those in use. -/
def constantFor (used : List Text) (fileName : Text) : Text :=
  Identifier.unused used (constantMark ++ Identifier.ofFileName fileName)

/-- Names a constant for each asset, in order. -/
def name (used : List Text) : List (Text × Record) → List Entry
  | [] => []
  | (fileName, record) :: rest =>
    let constant := constantFor used fileName
    ⟨fileName, constant, record⟩ :: name (constant :: used) rest

def entries (records : List (Text × Record)) : List Entry := name [] records

def prelude : Text := Text.ofLines [
  "\"\"\"",
  "Static assets embedded by embedstatics. Generated file, do not edit.",
  "",
  "Call ``init_embedded_assets()`` to make these the active assets.",
  "\"\"\"",
  "",
  "import embedstatics",
  ""]

def postlude : Text := Text.ofLines [
  "",
  "def init_embedded_assets():",
  "    \"\"\" Register these assets as the active asset table. Returns the table.",
  "    \"\"\"",
  "    table = embedstatics.AssetTable.from_arrays(",
  "        static_urls, static_content_type, static_content, static_content_size",
  "    )",
  "    embedstatics.set_static_assets(table)",
  "    return table"]

def countName : Text := "static_count"
def urlsName : Text := "static_urls"
def contentTypesName : Text := "static_content_type"
def contentsName : Text := "static_content"
def sizesName : Text := "static_content_size"

def countLine (n : Nat) : Text :=
  countName ++ (" = " : Text) ++ Text.ofNat n ++ Literal.lineFeed ++ Literal.lineFeed

def payloads (es : List Entry) : Text :=
  es.flatMap fun e => Literal.bytes e.constant e.record.payload

/-- The definitions between prelude and postlude. -/
def definitions (es : List Entry) : Text :=
  payloads es ++
    (countLine es.length ++
      (Literal.tuple urlsName (es.map fun e => Quoted.text e.record.url) ++
        (Literal.commentedTuple contentTypesName
            (es.map fun e => (e.fileName, Quoted.text e.record.contentType)) ++
          (Literal.tuple contentsName (es.map Entry.constant) ++
            Literal.tuple sizesName (es.map fun e => Text.ofNat e.record.size)))))

def write (es : List Entry) : Text := prelude ++ (definitions es ++ postlude)

/-- The pieces in which a text is written up to the payloads of some entries. -/
def pieces (es : List Entry) : List Text :=
  prelude :: es.flatMap fun e => Literal.pieces e.constant e.record.payload

/-- A text that is broken off behind the payloads of some entries. -/
def begun (es : List Entry) : Text := (pieces es).flatten

end Artifact
end AssetBundle
