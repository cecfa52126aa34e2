import AssetBundle.Failure
import AssetBundle.Sequence

/-!
# AssetBundle.Launch.Address

The address to listen on, written as host and port with a colon between them. The last colon
counts, so a host may hold colons itself.
-/

namespace AssetBundle

/-- A host, and the digits of a port. -/
structure Address where
  host : Text
  port : Text
deriving DecidableEq, Repr

namespace Address

def colon : CodePoint := 0x3A

def localName : Text := "localhost"

def localHost : Text := "127.0.0.1"

def standard : Value := .text "localhost:8080"

def parse? (t : Text) : Option Address :=
  match Sequence.cutAtLast? colon t with
  | none => none
  | some (host, port) =>
    if host.isEmpty || port.isEmpty || !port.all CodePoint.isDigit then none
    else some ⟨host, port⟩

/-- Reads an address out of the written form of a value. -/
def ofValue (v : Value) : Outcome Address :=
  if !v.isWritable then .error .integerTooLong
  else
    match parse? v.written with
    | some address => .ok address
    | none => .error (.bindAddress v)

/-- The host as a number, if it is the local name. -/
def numericHost (a : Address) : Text := if a.host = localName then localHost else a.host

/-- The port as a number. Not all digits are decimal ones. -/
def portNumber (a : Address) : Outcome Int := Integer.readOrFail a.port

end Address
end AssetBundle
