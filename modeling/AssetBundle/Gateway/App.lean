import AssetBundle.Gateway.Scope
import AssetBundle.Http.Reply

/-!
# AssetBundle.Gateway.App

The application that a gateway server runs: it is called with a scope, receives messages and
sends messages. Requests are answered from a table, and a failure on the way is answered by an
error page as long as nothing has been sent; connections of the other protocol are refused; the
server's life is followed by a loop that ends with the shutdown.
-/

namespace AssetBundle

/-- A message that an application sends. -/
inductive Message where
  | responseStart (status : Int) (headers : List (Bytes × Bytes))
  | responseBody (body : Bytes) (more : Bool)
  | websocketClose (code : Nat)
  /-- A phase of the server's life is complete. -/
  | lifespanComplete (phase : Text)
  | other (kind : Text)

/-- A message that an application receives; only its kind is looked at. -/
abbrev Received := Option Value

/-- The two sides of a scope's connection: the messages to come and those sent, newest first,
with the sends that fail. -/
structure Channel where
  incoming : List Received
  /-- What a receive meets when no message is left. -/
  exhausted : Failure
  sendFault : Nat → Option Failure
  attempts : Nat
  outgoing : List Message

namespace Channel

def sent (c : Channel) : List Message := c.outgoing.reverse

def send (c : Channel) (m : Message) : Outcome Unit × Channel :=
  let tried := { c with attempts := c.attempts + 1 }
  match c.sendFault c.attempts with
  | some e => (.error e, tried)
  | none => (.ok (), { tried with outgoing := m :: tried.outgoing })

def receive (c : Channel) : Outcome Received × Channel :=
  match c.incoming with
  | [] => (.error c.exhausted, c)
  | m :: rest => (.ok m, { c with incoming := rest })

end Channel

/-- The result of a call of an application. -/
structure Called where
  outcome : Outcome Unit
  log : Log
  channel : Channel

namespace Gateway

/-- A response as the gateway sends it. -/
structure Page where
  status : Int
  headers : List (Bytes × Bytes)
  body : Bytes

def encodeHeader (h : Header) : Outcome (Bytes × Bytes) :=
  match Latin1.encodeOrFail (Text.lower h.1) with
  | .error e => .error e
  | .ok name =>
    match Latin1.encodeOrFail h.2 with
    | .error e => .error e
    | .ok value => .ok (name, value)

/-- Header names in lower case. The connection belongs to the gateway server, so the header that
speaks of it is left out. -/
def encodeHeaders : Headers → Outcome (List (Bytes × Bytes))
  | [] => .ok []
  | h :: rest =>
    if Text.isWord "connection" h.1 then encodeHeaders rest
    else
      match encodeHeader h with
      | .error e => .error e
      | .ok header =>
        match encodeHeaders rest with
        | .error e => .error e
        | .ok headers => .ok (header :: headers)

/-- What is answered to the request of a scope, the alias behind it and what is logged. -/
def page (scope : Scope) (t : Table) (a : RootAlias) : Outcome Page × RootAlias × Log :=
  match scope.toRequest with
  | .error e => (.error e, a, [])
  | .ok loose =>
    let reply : Outcome Reply :=
      match loose.methodText? with
      | none => .ok ⟨.ofError 405, a, []⟩
      | some method =>
        if !Reply.allowed method then .ok ⟨.ofError 405, a, []⟩
        else
          match loose.toRequest with
          | .error e => .error e
          | .ok request => .ok (Reply.toRequest request t a)
    match reply with
    | .error e => (.error e, a, [])
    | .ok reply =>
      match encodeHeaders reply.response.headers with
      | .error e => (.error e, reply.rootAlias, reply.log)
      | .ok headers =>
        (.ok ⟨reply.response.status, headers, reply.response.body⟩, reply.rootAlias, reply.log)

def errorText (e : Failure) : Text := e.kind ++ " in static handler: " ++ e.message

def asciiBytes (t : Text) : Bytes := t.flatMap Utf8.encodePoint

def errorPage (body : Bytes) : Page :=
  ⟨500, [(asciiBytes "content-type", asciiBytes "text/plain; charset=utf-8"),
    (asciiBytes "content-length", asciiBytes (Text.ofNat body.length))], body⟩

/-- Sends a page as two messages. -/
def sendPage (p : Page) (c : Channel) : Outcome Unit × Channel :=
  match c.send (.responseStart p.status p.headers) with
  | (.error e, c) => (.error e, c)
  | (.ok (), c) => c.send (.responseBody p.body false)

/-- Answers a request. A failing send of the page is logged and ends the matter; a failure before
any send is logged and answered by an error page. -/
def http (scope : Scope) (t : Table) (a : RootAlias) (c : Channel) : Called × RootAlias :=
  match page scope t a with
  | (.ok p, a, log) =>
    match sendPage p c with
    | (.ok (), c) => (⟨.ok (), log, c⟩, a)
    | (.error e, c) => (⟨.ok (), log ++ [⟨.error, errorText e⟩], c⟩, a)
  | (.error e, a, log) =>
    let log := log ++ [⟨.error, errorText e⟩]
    match Utf8.encodeOrFail (errorText e) with
    | .error e => (⟨.error e, log, c⟩, a)
    | .ok body =>
      match sendPage (errorPage body) c with
      | (outcome, c) => (⟨outcome, log, c⟩, a)

def kindIs (v : Value) (name : Text) : Bool :=
  match v with
  | .text t => t = name
  | _ => false

/-- Assets are not served over the other protocol: its connections are closed. -/
def websocket (c : Channel) : Called :=
  match c.receive with
  | (.error e, c) => ⟨.error e, [], c⟩
  | (.ok none, c) => ⟨.error (.missingKey "type"), [], c⟩
  | (.ok (some kind), c) =>
    if kindIs kind "websocket.connect" then
      match c.send (.websocketClose 1000) with
      | (outcome, c) => ⟨outcome, [], c⟩
    else ⟨.ok (), [], c⟩

/-- Follows the server's life up to its shutdown. The fuel is the number of messages to come, and
the receive behind the last of them fails. -/
def lifespan.go (log : Log) : Nat → Channel → Called
  | fuel, c =>
    match c.receive with
    | (.error e, c) => ⟨.error e, log.reverse, c⟩
    | (.ok none, c) => ⟨.error (.missingKey "type"), log.reverse, c⟩
    | (.ok (some kind), c) =>
      if kindIs kind "lifespan.shutdown" then
        let log := ⟨.info, "Server is shutting down"⟩ :: log
        match c.send (.lifespanComplete "shutdown") with
        | (outcome, c) => ⟨outcome, log.reverse, c⟩
      else
        let (outcome, log, c) : Outcome Unit × Log × Channel :=
          if kindIs kind "lifespan.startup" then
            let log := ⟨.info, "Server is starting up"⟩ :: log
            match c.send (.lifespanComplete "startup") with
            | (outcome, c) => (outcome, log, c)
          else if kind.isWritable then
            (.ok (), ⟨.warning, "Unknown lifespan message " ++ kind.written⟩ :: log, c)
          else (.error .integerTooLong, log, c)
        match outcome, fuel with
        | .error e, _ => ⟨.error e, log.reverse, c⟩
        | .ok (), fuel + 1 => lifespan.go log fuel c
        | .ok (), 0 => ⟨.error c.exhausted, log.reverse, c⟩

def lifespan (c : Channel) : Called := lifespan.go [] c.incoming.length c

/-- The application over a table and its alias. -/
def call (scope : Scope) (t : Table) (a : RootAlias) (c : Channel) : Called × RootAlias :=
  match scope.kind with
  | none => (⟨.error (.missingKey "type"), [], c⟩, a)
  | some kind =>
    if kindIs kind "http" then http scope t a c
    else if kindIs kind "websocket" then (websocket c, a)
    else if kindIs kind "lifespan" then (lifespan c, a)
    else if kind.isWritable then
      (⟨.ok (), [⟨.warning, "Unknown ASGI type " ++ kind.written⟩], c⟩, a)
    else (⟨.error .integerTooLong, [], c⟩, a)

end Gateway
end AssetBundle
