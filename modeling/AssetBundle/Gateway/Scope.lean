import AssetBundle.Http.Request

/-!
# AssetBundle.Gateway.Scope

The description of a connection that a gateway server hands over. For a request it holds the
decoded path, the query, the headers and the method, any of which may be missing or of a wrong
type. `toRequest` puts path and query together again and writes the headers as they would appear
on the wire.
-/

namespace AssetBundle

structure Scope where
  kind : Option Value
  path : Option Value
  query : Option Value
  headers : Option Value
  method : Option Value

/-- A request whose method and path may be of a wrong type. -/
structure LooseRequest where
  method : Value
  fullPath : Value
  headerBlock : Bytes

namespace Scope

def field (key : Text) : Option Value → Outcome Value
  | some v => .ok v
  | none => .error (.missingKey key)

/-- The query in front of which a question mark is put. -/
def queryText : Value → Outcome Text
  | .bytes s | .buffer s => .ok (Latin1.decode s)
  | v => .error (.noAttribute v.typeName "decode")

/-- The path with a text behind it. -/
def extend (path : Value) (t : Text) : Outcome Value :=
  match path with
  | .text p => .ok (.text (p ++ t))
  | .list items => .ok (.list (items ++ t.map fun c => .text [c]))
  | .bytes _ => .error (.bytesOperand "str")
  | .buffer _ => .error (.bufferOperand "str")
  | v => .error (.operandTypes "+=" v.typeName "str")

def fullPath (path : Value) (query : Option Value) : Outcome Value :=
  match query with
  | none => .ok path
  | some query =>
    if !query.truthy then .ok path
    else
      match queryText query with
      | .error e => .error e
      | .ok query => extend path (("?" : Text) ++ query)

def separator : Bytes := [0x3A, 0x20]

/-- A name with a value behind it. Which failure a wrong value gives is up to the name. -/
def joined (name : Bytes) (value : Value) (wrong : Text → Failure) : Outcome Bytes :=
  match value.toBytes? with
  | some value => .ok (name ++ separator ++ value)
  | none => .error (wrong value.typeName)

/-- One header as a line, without its end. -/
def headerLine (header : Value) : Outcome Bytes :=
  match header.elements? with
  | none => .error (.notUnpackable header.typeName)
  | some [key, value] =>
    match key with
    | .bytes key => joined key value .bytesOperand
    | .buffer key => joined key value .bufferOperand
    | .text _ => .error (.textOperand "bytes")
    | .list _ => .error (.listOperand "bytes")
    | key => .error (.operandTypes "+" key.typeName "bytes")
  | some parts =>
    if parts.length < 2 then .error (.tooFewParts 2 parts.length) else .error (.tooManyParts 2)

def headerLines : List Value → Outcome (List Bytes)
  | [] => .ok []
  | header :: rest =>
    match headerLine header with
    | .error e => .error e
    | .ok line =>
      match headerLines rest with
      | .error e => .error e
      | .ok lines => .ok (line :: lines)

def headerBlock (headers : Value) : Outcome Bytes :=
  match headers.elements? with
  | none => .error (.notIterable headers.typeName)
  | some headers =>
    match headerLines headers with
    | .error e => .error e
    | .ok lines => .ok (List.intercalate Request.lineEnd lines)

/-- The request of a scope. The fields are read in the order path, query, headers, method. -/
def toRequest (scope : Scope) : Outcome LooseRequest :=
  match field "path" scope.path with
  | .error e => .error e
  | .ok path =>
    match fullPath path scope.query with
    | .error e => .error e
    | .ok fullPath =>
      match field "headers" scope.headers with
      | .error e => .error e
      | .ok headers =>
        match headerBlock headers with
        | .error e => .error e
        | .ok block =>
          match field "method" scope.method with
          | .error e => .error e
          | .ok method => .ok ⟨method, fullPath, block⟩

end Scope

namespace LooseRequest

/-- A path that is no text has no query to cut off. -/
def toRequest (r : LooseRequest) : Outcome Request :=
  match r.method, r.fullPath with
  | .text method, .text path => .ok ⟨method, path, r.headerBlock⟩
  | _, .bytes _ | _, .buffer _ => .error (.bytesRequired "str")
  | _, path => .error (.noAttribute path.typeName "partition")

/-- Whether the method is a text. Any other value is a method that is not allowed. -/
def methodText? (r : LooseRequest) : Option Text :=
  match r.method with
  | .text method => some method
  | _ => none

end LooseRequest
end AssetBundle
