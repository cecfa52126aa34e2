import AssetBundle.Service.Requests

/-!
# AssetBundle.Trial.Client

A client for trying out what a process serves, without any connection. It hands raw requests to
the process, keeps what is sent back, and reads the response. A client can offer the other
protocol; then it keeps count of the requests that were left to the handshake.
-/

namespace AssetBundle

structure TrialClient where
  upgrade : Bool
  /-- What was sent back to the last request. -/
  sent : List Bytes
  handshakes : List Bytes

namespace TrialClient

def fresh (upgrade : Bool) : TrialClient := ⟨upgrade, [], []⟩

/-- A handshake that takes over and does nothing. -/
def accept : Handshake Unit := fun _ socket => (.ok (), socket)

/-- Sends a raw request. There is no response when the handshake took over. -/
def send (c : TrialClient) (s : Service) (buffer : Bytes) :
    Outcome (Option Response) × TrialClient × Service :=
  let upgrade := if c.upgrade then some (Exchange.upgradeHeader, accept) else none
  let (outcome, socket, s) := s.handle buffer upgrade (.sink fun _ => none)
  let c := { c with sent := socket.sent, handshakes := c.handshakes ++ socket.handshakes }
  match outcome with
  | .error e => (.error e, c, s)
  | .ok (some ()) => (.ok none, c, s)
  | .ok none =>
    match Response.parse socket.sent.flatten with
    | .error e => (.error e, c, s)
    | .ok response => (.ok (some response), c, s)

/-- The text of a request. -/
def requestText (method path : Text) (headers : Headers) : Text :=
  let first : Text := method ++ ((" " : Text) ++ (path ++ (" HTTP/1.1" : Text)))
  let headers : Headers := ("Host", "localhost") :: Keyed.ofList headers
  first ++ (Headers.lineEnd ++ (Headers.print headers ++ Headers.lineEnd))

/-- Composes a request and sends it. Of a repeated header the last value counts. -/
def request (c : TrialClient) (s : Service) (method path : Text) (headers : Headers) :
    Outcome (Option Response) × TrialClient × Service :=
  match Latin1.encodeOrFail (requestText method path headers) with
  | .error e => (.error e, c, s)
  | .ok buffer => c.send s buffer

end TrialClient
end AssetBundle
