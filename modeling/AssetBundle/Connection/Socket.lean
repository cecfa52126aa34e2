import AssetBundle.Failure

/-!
# AssetBundle.Connection.Socket

A connection as the host sees it: what will be received, which sends will fail, and what has been
done on it so far. A receive takes what has arrived, up to its size; when nothing is left the
peer has stopped sending. A send that fails leaves no trace but its attempt.
-/

namespace AssetBundle

/-- Something that arrives: bytes, or the failure of a receive. -/
inductive Incoming where
  | bytes (s : Bytes)
  | failure (e : Failure)

/-- Something done on a connection. -/
inductive Event where
  | timeout (seconds : Value)
  | received (size : Nat)
  | sent (s : Bytes)
  | handshake (s : Bytes)
  | closed

structure Socket where
  incoming : List Incoming
  /-- The failure that the send of a given number meets, counted from zero. -/
  sendFault : Nat → Option Failure
  /-- The failure that setting a timeout meets. -/
  timeoutFault : Option Failure
  attempts : Nat
  /-- What has been done, newest first. -/
  history : List Event

namespace Socket

/-- A connection on which these things arrive and every send succeeds. -/
def ofIncoming (incoming : List Incoming) : Socket := ⟨incoming, fun _ => none, none, 0, []⟩

/-- A connection that only takes bytes, where the sends of some numbers fail. -/
def sink (sendFault : Nat → Option Failure) : Socket := ⟨[], sendFault, none, 0, []⟩

def record (s : Socket) (e : Event) : Socket := { s with history := e :: s.history }

/-- What has been done, oldest first. -/
def events (s : Socket) : List Event := s.history.reverse

/-- The byte strings sent, in order. -/
def sent (s : Socket) : List Bytes :=
  s.events.filterMap fun
    | .sent chunk => some chunk
    | _ => none

/-- The byte strings handed to a handshake, in order. -/
def handshakes (s : Socket) : List Bytes :=
  s.events.filterMap fun
    | .handshake buffer => some buffer
    | _ => none

def setTimeout (s : Socket) (seconds : Value) : Outcome Unit × Socket :=
  match s.timeoutFault with
  | some e => (.error e, s)
  | none => (.ok (), s.record (.timeout seconds))

/-- Takes the first thing that arrived. Of bytes beyond the size the rest stays in front. -/
def receive (s : Socket) (size : Nat) : Outcome Bytes × Socket :=
  match s.incoming with
  | [] => (.ok [], s)
  | .failure e :: rest => (.error e, { s with incoming := rest })
  | .bytes chunk :: rest =>
    if chunk.length ≤ size then
      (.ok chunk, { s with incoming := rest }.record (.received chunk.length))
    else
      (.ok (chunk.take size),
        { s with incoming := .bytes (chunk.drop size) :: rest }.record (.received size))

def send (s : Socket) (chunk : Bytes) : Outcome Unit × Socket :=
  let tried := { s with attempts := s.attempts + 1 }
  match s.sendFault s.attempts with
  | some e => (.error e, tried)
  | none => (.ok (), tried.record (.sent chunk))

def close (s : Socket) : Socket := s.record .closed

/-- A bound on the number of receives until the peer has stopped sending. -/
def extent (s : Socket) : Nat :=
  s.incoming.foldl (fun n item =>
    match item with
    | .bytes chunk => n + chunk.length + 1
    | .failure _ => n + 1) 1

end Socket
end AssetBundle
