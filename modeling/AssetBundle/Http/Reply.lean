import AssetBundle.Asset.RootAlias
import AssetBundle.Http.Response
import AssetBundle.Http.Revalidation

/-!
# AssetBundle.Http.Reply

What is answered to a request. Only reading methods are allowed; the path without its query is
looked up in the table, the root by way of its alias; an asset that the client already has is
answered by its headers alone. A raw buffer that cannot be read as a request is a bad request.
-/

namespace AssetBundle

/-- A response, the root alias after it, and what was logged on the way. -/
structure Reply where
  response : Response
  rootAlias : RootAlias
  log : Log

namespace Reply

def allowed (method : Text) : Bool := method = "GET" || method = "HEAD"

/-- The response for an asset that was found. -/
def forRecord (r : Record) (request : Request) : Response :=
  if Revalidation.notModified r request then
    ⟨304, Response.composeHeaders r.headers 0, []⟩
  else
    ⟨200, Response.composeHeaders r.headers r.size,
      if request.method = "HEAD" then [] else r.payload⟩

def lookUp (t : Table) (url : Text) (request : Request) : Response :=
  match t.find? url with
  | none => .ofError 404
  | some r => forRecord r request

/-- Whether a path asks for the root. -/
def isRoot (path : Text) : Bool := path.isEmpty || path = "/"

def toRequest (request : Request) (t : Table) (a : RootAlias) : Reply :=
  if !allowed request.method then ⟨.ofError 405, a, []⟩
  else if isRoot request.path then
    let (url, a, log) := a.resolve t
    ⟨lookUp t url request, a, log⟩
  else ⟨lookUp t request.path request, a, []⟩

/-- Answers a raw request, and logs what was asked and how it was answered. -/
def toBuffer (buffer : Bytes) (t : Table) (a : RootAlias) : Reply :=
  match Request.parse buffer with
  | .error e => ⟨.ofError 400, a, [⟨.debug, "Bad request: " ++ e.message⟩]⟩
  | .ok request =>
    let reply := toRequest request t a
    let line : Text :=
      request.method ++ " " ++ request.fullPath ++ " -> " ++ Text.ofInt reply.response.status
    { reply with log := reply.log ++ [⟨.debug, line⟩] }

end Reply
end AssetBundle
