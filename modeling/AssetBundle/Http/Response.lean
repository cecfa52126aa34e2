import AssetBundle.Asset.Record
import AssetBundle.Http.Request
import AssetBundle.Http.Status
import AssetBundle.Keyed

/-!
# AssetBundle.Http.Response

Responses, and their form on the wire: a status line, header lines and an empty line in Latin-1,
then the body. `parse` reads that form back; of a repeated header it keeps the first place and
the last value.
-/

namespace AssetBundle

structure Response where
  status : Int
  headers : Headers
  body : Bytes
deriving DecidableEq, Repr

namespace Response

/-- The full list of header lines around those of an asset. Lines that neither identify the asset
nor say how long it may be kept are joined by one that forbids to keep it unchecked. -/
def composeHeaders (headers : Headers) (length : Int) : Headers :=
  let caching : Headers :=
    if Headers.has "etag" headers || Headers.has "cache-control" headers then []
    else [("Cache-Control", "no-cache")]
  let size : Headers := [("Content-Length", Text.ofInt length)]
  ("Connection", "close") :: (caching ++ (headers ++ size))

/-- A plain text page with the reason phrase. -/
def ofError (status : Int) : Response :=
  let body := (Status.reason status ++ "\n").flatMap Utf8.encodePoint
  ⟨status, composeHeaders [("Content-Type", "text/plain; charset=utf-8")] body.length, body⟩

def headText (r : Response) : Text :=
  let statusLine : Text := "HTTP/1.1 " ++ Text.ofInt r.status ++ " " ++ Status.reason r.status
  statusLine ++ (Headers.lineEnd ++ (Headers.print r.headers ++ Headers.lineEnd))

/-- The head in bytes, the empty line included. -/
def encodeHead (r : Response) : Outcome Bytes := Latin1.encodeOrFail r.headText

end Response

/-- Headers as a reader of responses keeps them, each with its name in lower case: names are
equal without regard to case. A repeated one keeps its place and takes the new spelling and
value. -/
abbrev Fields := List (Text × Header)

namespace Fields

def put (fields : Fields) (h : Header) : Fields := Keyed.put fields (Text.lower h.1) h

def ofList (headers : Headers) : Headers := (headers.foldl put []).map Prod.snd

end Fields

namespace Response

/-- A header line as found in a response: without a colon it is all name. -/
def readLine (line : Text) : Header :=
  match Sequence.cutAt? Headers.colon line with
  | some (name, value) => (Text.trim name, Text.trim value)
  | none => (Text.trim line, [])

/-- Reads a whole response. -/
def parse (data : Bytes) : Outcome Response :=
  match Sequence.cutAt? Request.headEnd data with
  | none => .error .responseTerminator
  | some (head, body) =>
    match Sequence.splitOn Headers.lineEnd (Latin1.decode head) with
    | [] => .error .responseTerminator
    | first :: lines =>
      -- A space behind the line stands in for a missing reason phrase.
      match Sequence.splitOn ([0x20] : Text) (first ++ [0x20]) with
      | version :: status :: _ :: _ =>
        if version ≠ "HTTP/1.1" then .error (.statusLine first)
        else
          match Integer.readOrFail status with
          | .error e => .error e
          | .ok status => .ok ⟨status, Fields.ofList (lines.map readLine), body⟩
      | parts => .error (.tooFewParts 3 parts.length)

end Response
end AssetBundle
