import AssetBundle.Asset.Headers

/-!
# AssetBundle.Asset.Record

An asset: the exact request path that serves it, its content type, and its payload as stored. The
header lines are those of the content type, read once when the record is made. What else is known
of an asset is read off its header lines: the validator is the first entity tag, if it has the
length of a digest, and a payload is compressed if the first content coding says so.
-/

namespace AssetBundle

structure Record where
  url : Text
  contentType : Text
  payload : Bytes
  headers : Headers
  parsed : Headers.parse contentType = .ok headers

namespace Record

/-- The length of a validator in characters. -/
def validatorLength : Nat := 40

def size (r : Record) : Nat := r.payload.length

def isDoubleQuote (c : CodePoint) : Bool := c = Quoted.doubleQuote

def validator? (r : Record) : Option Text :=
  match Headers.value? "etag" r.headers with
  | none => none
  | some value =>
    let tag := Sequence.trim isDoubleQuote value
    if tag.length = validatorLength then some tag else none

def isCompressed (r : Record) : Bool :=
  match Headers.value? "content-encoding" r.headers with
  | none => false
  | some coding => Text.isWord "gzip" coding

/-- How a record shows itself. -/
def summary (r : Record) : Text :=
  "<AssetRecord " ++ Quoted.text r.url ++ " " ++ Text.ofNat r.size ++ " bytes>"

def ofParts (url contentType : Text) (payload : Bytes) : Outcome Record :=
  match h : Headers.parse contentType with
  | .ok headers => .ok ⟨url, contentType, payload, headers, h⟩
  | .error e => .error e

/-- A payload given as text is stored in UTF-8. -/
def payloadOf : Value → Outcome Bytes
  | .text t => Utf8.encodeOrFail t
  | .bytes s => .ok s
  | _ => .error .payloadType

/-- Makes a record of values given from outside. The types are checked in order. -/
def ofValues (url contentType payload : Value) : Outcome Record :=
  match url, contentType with
  | .text url, .text contentType =>
    match payloadOf payload with
    | .error e => .error e
    | .ok payload => ofParts url contentType payload
  | .text _, _ => .error .contentTypeType
  | _, _ => .error .urlType

end Record
end AssetBundle
