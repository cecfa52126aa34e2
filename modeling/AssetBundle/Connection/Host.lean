import AssetBundle.Http.Exchange

/-!
# AssetBundle.Connection.Host

One connection from beginning to end: the head of a request is received, the request is handled,
and the connection is closed, unless a handshake has taken it over. Nothing that goes wrong on
the way leaves the host; it is logged, quietly if it is the connection that failed.
-/

namespace AssetBundle
namespace Host

/-- The most bytes taken by one receive. -/
def receiveSize : Nat := 4096

/-- The size at which a head without an end is not read on. -/
def headLimit : Int := 65536

/-- Receives until the head is complete, the limit is reached or the peer stops. The chunks are
kept newest first; an end of the head that is not yet found can only begin in the last three
bytes before a chunk. -/
def receiveHead.go (limit : Int) :
    Nat → List Bytes → Nat → Bytes → Socket → Outcome Bytes × Socket
  | 0, chunks, _, _, s => (.ok chunks.reverse.flatten, s)
  | fuel + 1, chunks, size, tail, s =>
    if limit ≤ size then (.ok chunks.reverse.flatten, s)
    else
      match s.receive receiveSize with
      | (.error e, s) => (.error e, s)
      | (.ok chunk, s) =>
        if chunk.isEmpty then (.ok chunks.reverse.flatten, s)
        else
          let seen := tail ++ chunk
          if Sequence.contains Request.headEnd seen then
            (.ok (chunk :: chunks).reverse.flatten, s)
          else
            receiveHead.go limit fuel (chunk :: chunks) (size + chunk.length)
              (seen.drop (seen.length - 3)) s

def receiveHead (s : Socket) (limit : Int) : Outcome Bytes × Socket :=
  receiveHead.go limit s.extent [] 0 [] s

/-- The state behind a connection. -/
structure Finished where
  rootAlias : RootAlias
  log : Log
  socket : Socket

/-- What is logged of a failure. -/
def failureLog (e : Failure) : Log :=
  match e with
  | .disconnected message => [⟨.debug, message⟩]
  | e =>
    if e.isSystem then [⟨.debug, "Connection error: " ++ e.message⟩]
    else [⟨.error, e.kind ++ " in static handler: " ++ e.message⟩]

/-- Closes a connection on which something failed. -/
def abandon (e : Failure) (a : RootAlias) (log : Log) (s : Socket) : Finished :=
  ⟨a, log ++ failureLog e, s.close⟩

def applyTimeout (timeout : Value) (s : Socket) : Outcome Unit × Socket :=
  match timeout with
  | .none => (.ok (), s)
  | seconds => s.setTimeout seconds

/-- Handles one connection. -/
def run {α : Type} (t : Table) (a : RootAlias) (handshake : Option (Handshake α))
    (timeout : Value) (s : Socket) : Finished :=
  match applyTimeout timeout s with
  | (.error e, s) => abandon e a [] s
  | (.ok (), s) =>
    match receiveHead s headLimit with
    | (.error e, s) => abandon e a [] s
    | (.ok [], s) => ⟨a, [], s.close⟩
    | (.ok buffer, s) =>
      let upgrade := handshake.map fun act => (Exchange.upgradeHeader, act)
      let handled := Exchange.handle buffer t a upgrade s
      match handled.outcome with
      | .ok (some _) => ⟨handled.rootAlias, handled.log, handled.socket⟩
      | .ok none => ⟨handled.rootAlias, handled.log, handled.socket.close⟩
      | .error e => abandon e handled.rootAlias handled.log handled.socket

end Host
end AssetBundle
