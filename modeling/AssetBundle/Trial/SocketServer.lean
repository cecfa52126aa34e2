import AssetBundle.Service.Requests
import AssetBundle.Trial.Url
import AssetBundle.Trial.Visit

/-!
# AssetBundle.Trial.SocketServer

A trial server on connections. Every request opens a connection to the process, sends its bytes
and reads what comes back until the connection is closed. What happens on the network is noted.
-/

namespace AssetBundle

/-- Something that happens on the network of a visit. -/
inductive NetworkEvent where
  | listen (place : Text)
  /-- A connection is opened, perhaps with a limit to its waiting. -/
  | connect (place : Text) (timeout : Option Nat)
  | handshake (buffer : Bytes)
  | disconnect
  | request (method address : Text)
  | readBody
  | release
  | shutdown

/-- The answer to a request, as a response or as raw bytes. -/
inductive SocketAnswer where
  | response (r : Response)
  | raw (buffer : Bytes)

namespace SocketServer

/-- The longest wait for a raw reply, in seconds. -/
def patience : Nat := 5

/-- What the server sends back on one connection, and what it noted. -/
def exchange (s : Service) (handshake : Option (Handshake Unit)) (buffer : Bytes) :
    Bytes × List NetworkEvent × Service :=
  let incoming := if buffer.isEmpty then [] else [Incoming.bytes buffer]
  let (socket, s) := s.connect handshake Service.serverTimeout (.ofIncoming incoming)
  (socket.sent.flatten, socket.handshakes.map .handshake, s)

/-- The place to which the client of an address connects, as far as the address tells. -/
def placeOf (u : Url) : Outcome Text :=
  match u.port? with
  | .error e => .error e
  | .ok port =>
    let unknown : Text := "None"
    .ok (u.host?.getD unknown ++ 0x3A :: (port.map Text.ofInt).getD unknown)

def target (u : Url) : Text := if u.query.isEmpty then u.path else u.path ++ 0x3F :: u.query

/-- The text of a request, up to its data. -/
def requestText (method : Text) (u : Url) (headers : Headers) : Text :=
  let first : Text := method ++ 0x20 :: (target u ++ (" HTTP/1.1" : Text))
  let all : Headers := ("Host", u.authority) :: headers
  first ++ (Headers.lineEnd ++ (Headers.print all ++ Headers.lineEnd))

/-- Sends a request to where its address leads, once a connection is open. -/
def sendTo (s : Service) (handshake : Option (Handshake Unit)) (r : TrialRequest) (u : Url) :
    Outcome SocketAnswer × List NetworkEvent × Service :=
  match Latin1.encodeOrFail (requestText r.method u r.headerMap) with
  | .error e => (.error e, [], s)
  | .ok head =>
    let (reply, noted, s) := exchange s handshake (head ++ r.data.getD [])
    match Response.parse reply with
    | .error e => (.error e, noted, s)
    | .ok response => (.ok (.response response), noted ++ [.readBody, .release], s)

def composed (s : Service) (handshake : Option (Handshake Unit)) (r : TrialRequest) :
    Outcome SocketAnswer × List NetworkEvent × Service :=
  match r.address with
  | .error e => (.error e, [], s)
  | .ok address =>
    match Url.read address with
    | .error e => (.error e, [], s)
    | .ok u =>
      let asked := NetworkEvent.request r.method address
      match placeOf u with
      | .error e => (.error e, [asked], s)
      | .ok place =>
        let (answer, events, s) := sendTo s handshake r u
        (answer, asked :: .connect place none :: events, s)

def raw (s : Service) (handshake : Option (Handshake Unit)) (buffer : Bytes) :
    Outcome SocketAnswer × List NetworkEvent × Service :=
  let (reply, noted, s) := exchange s handshake buffer
  (.ok (.raw reply), .connect TrialRequest.place (some patience) :: (noted ++ [.disconnect]), s)

def ask (s : Service) (handshake : Option (Handshake Unit)) (r : Asked) :
    Outcome SocketAnswer × List NetworkEvent × Service :=
  match r with
  | .request r => composed s handshake r
  | .raw buffer => raw s handshake buffer

def askAll (s : Service) (handshake : Option (Handshake Unit)) :
    List Asked → List (Outcome SocketAnswer) × List NetworkEvent × Service
  | [] => ([], [], s)
  | r :: rest =>
    let (answer, events, s) := ask s handshake r
    let (answers, more, s) := askAll s handshake rest
    (answer :: answers, events ++ more, s)

/-- A visit: what was answered, what happened, and how the visit ended. -/
structure Visit where
  answers : List (Outcome SocketAnswer)
  events : List NetworkEvent
  visited : Visited

/-- The lines that a process logged since an earlier state. -/
def outputSince (before after : Service) : Text :=
  List.intercalate Visited.lineFeed ((after.log.drop before.log.length).map LogLine.message)

def visit (s : Service) (handshake : Option (Handshake Unit)) (requests : List Asked)
    (skip : Option (List Text)) (raised : Option Failure) : Visit × Service :=
  let (answers, events, after) := askAll s handshake requests
  let visited := Visited.finish "socket" skip raised (.ok (outputSince s after))
  (⟨answers, .listen TrialRequest.place :: (events ++ [.shutdown]), visited⟩, after)

end SocketServer
end AssetBundle
