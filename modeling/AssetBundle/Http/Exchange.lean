import AssetBundle.Connection.Socket
import AssetBundle.Http.Reply

/-!
# AssetBundle.Http.Exchange

Answering on a connection. `deliver` sends a response, its head first and then its body if there
is one. `serve` answers a raw request. `handle` first decides whether the request is for the other
protocol: it is if a handshake is installed and the request mentions the handshake's header; then
the handshake takes over and nothing is sent here.
-/

namespace AssetBundle

/-- What takes over a connection for the other protocol. It is given the bytes received. -/
abbrev Handshake (α : Type) := Bytes → Socket → Outcome α × Socket

namespace Exchange

/-- A failure of the connection means that the peer is gone; any other failure stays what it is. -/
def gone (e : Failure) : Failure :=
  if e.isSystem then .disconnected ("Could not send response: " ++ e.message) else e

def deliver (r : Response) (s : Socket) : Outcome Unit × Socket :=
  match r.encodeHead with
  | .error e => (.error e, s)
  | .ok head =>
    match s.send head with
    | (.error e, s) => (.error (gone e), s)
    | (.ok (), s) =>
      if r.body.isEmpty then (.ok (), s)
      else
        match s.send r.body with
        | (.error e, s) => (.error (gone e), s)
        | (.ok (), s) => (.ok (), s)

/-- The default header of the other protocol's upgrade requests. -/
def upgradeHeader : Text := "Sec-WebSocket-Key"

/-- Whether a buffer mentions a header name, in any case. The name must have a form in bytes. -/
def mentions (name : Text) (buffer : Bytes) : Outcome Bool :=
  match Utf8.encodeOrFail (Text.lower name) with
  | .error e => .error e
  | .ok key => .ok (Sequence.contains key (Bytes.lower buffer))

end Exchange

/-- The result of serving a request: the response if it was delivered, and the state behind. -/
structure Served where
  outcome : Outcome Response
  rootAlias : RootAlias
  log : Log
  socket : Socket

/-- The result of handling a request: what the handshake returned, if it took over. -/
structure Handled (α : Type) where
  outcome : Outcome (Option α)
  rootAlias : RootAlias
  log : Log
  socket : Socket

namespace Exchange

def serve (buffer : Bytes) (t : Table) (a : RootAlias) (s : Socket) : Served :=
  let reply := Reply.toBuffer buffer t a
  match deliver reply.response s with
  | (.ok (), s) => ⟨.ok reply.response, reply.rootAlias, reply.log, s⟩
  | (.error e, s) => ⟨.error e, reply.rootAlias, reply.log, s⟩

/-- Where a request goes. -/
inductive Route where
  | badRequest
  | upgrade
  | static
deriving DecidableEq, Repr

def route (buffer : Bytes) (name : Option Text) : Outcome Route :=
  if !Sequence.contains Request.headEnd buffer then .ok .badRequest
  else
    match name with
    | none => .ok .static
    | some name =>
      match mentions name buffer with
      | .error e => .error e
      | .ok true => .ok .upgrade
      | .ok false => .ok .static

/-- Handles a request with a handshake for the given header, or without one. -/
def handle {α : Type} (buffer : Bytes) (t : Table) (a : RootAlias)
    (upgrade : Option (Text × Handshake α)) (s : Socket) : Handled α :=
  match route buffer (upgrade.map Prod.fst), upgrade with
  | .error e, _ => ⟨.error e, a, [], s⟩
  | .ok .badRequest, _ =>
    match deliver (.ofError 400) s with
    | (.ok (), s) => ⟨.ok none, a, [], s⟩
    | (.error e, s) => ⟨.error e, a, [], s⟩
  | .ok .upgrade, some (_, handshake) =>
    match handshake buffer (s.record (.handshake buffer)) with
    | (.ok result, s) => ⟨.ok (some result), a, [], s⟩
    | (.error e, s) => ⟨.error e, a, [], s⟩
  | .ok _, _ =>
    let served := serve buffer t a s
    match served.outcome with
    | .ok _ => ⟨.ok none, served.rootAlias, served.log, served.socket⟩
    | .error e => ⟨.error e, served.rootAlias, served.log, served.socket⟩

end Exchange
end AssetBundle
