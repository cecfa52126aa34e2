import AssetBundle.Http.Response
import AssetBundle.Text.Lines

/-!
# AssetBundle.Trial.Visit

What a trial server is asked, and how a visit to one ends. A visit starts the server, makes
requests in order and stops the server; the output of the server is kept, and printed when
something was raised during the visit.
-/

namespace AssetBundle

/-- A request to a trial server. The path can be a whole address. -/
structure TrialRequest where
  method : Text
  path : Value
  headers : Option Headers
  data : Option Bytes

namespace TrialRequest

/-- The address at which trial servers listen. -/
def host : Text := "127.0.0.1"

def port : Nat := 50000

def place : Text := host ++ ((":" : Text) ++ Text.ofNat port)

def base : Text := ("http://" : Text) ++ place

def isSlash (c : CodePoint) : Bool := c = 0x2F

/-- The address of a request. A path that begins like an address is one. -/
def address (r : TrialRequest) : Outcome Text :=
  match r.path with
  | .text path =>
    if List.isPrefixOf ("http" : Text) path then .ok path
    else .ok (base ++ 0x2F :: Sequence.trimLeft isSlash path)
  | _ => .error (.assertion [])

/-- The headers of a request as a mapping. -/
def headerMap (r : TrialRequest) : Headers := Keyed.ofList (r.headers.getD [])

end TrialRequest

/-- A request by its address or as raw bytes. -/
inductive Asked where
  | request (r : TrialRequest)
  | raw (buffer : Bytes)

namespace Asked

/-- The call that takes raw bytes. -/
def rawCall : Text := "send_raw"

/-- The request for a server without connections of its own, which takes no raw bytes. -/
def composed (server : Text) : Asked → Outcome TrialRequest
  | .request r => .ok r
  | .raw _ => .error (.noAttribute server rawCall)

end Asked

/-- What became of a visit: how it ended, the output that was kept and what was printed. -/
structure Visited where
  outcome : Outcome Unit
  output : Text
  printed : Text

namespace Visited

def lineFeed : Text := [10]

/-- The lines of an output that are kept. When some beginnings are skipped, empty lines go with
them. -/
def kept (skip : Option (List Text)) (lines : List Text) : List Text :=
  match skip with
  | none => lines
  | some starts =>
    lines.filter fun line => !line.isEmpty && !starts.any fun start => start.isPrefixOf line

def filtered (skip : Option (List Text)) (output : Text) : Text :=
  List.intercalate lineFeed (kept skip (Text.lines output))

/-- The server never started. -/
def neverStarted (e : Failure) : Visited := ⟨.error e, [], []⟩

/-- The end of a visit to a server of that name, given what was raised during the visit and the
output of the server, unless stopping it failed. -/
def finish (server : Text) (skip : Option (List Text)) (raised : Option Failure)
    (stopped : Outcome Text) : Visited :=
  match stopped with
  | .error e => ⟨.error e, [], []⟩
  | .ok output =>
    let output := filtered skip output
    match raised with
    | none => ⟨.ok (), output, []⟩
    | some e =>
      ⟨.error e, output, server ++ ((" server output:\n" : Text) ++ (output ++ lineFeed))⟩

end Visited
end AssetBundle
