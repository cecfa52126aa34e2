import AssetBundle.Connection.Host
import AssetBundle.Service.State

/-!
# AssetBundle.Service.Requests

Answering requests in a process. A caller may bring a table or an alias of its own; where it does
not, the active table and the alias of the registry stand in, and the alias may be decided on the
way. An alias that was brought along is given back as it is afterwards.
-/

namespace AssetBundle
namespace Service

/-- The alias to use: the caller's, or that of the registry. -/
def aliasFor (s : Service) (own : Option RootAlias) : RootAlias := own.getD s.registry.rootAlias

/-- Stores an alias where it came from. -/
def keepAlias (s : Service) (own : Option RootAlias) (a : RootAlias) :
    Option RootAlias × Service :=
  match own with
  | some _ => (some a, s)
  | none => (none, { s with registry := { s.registry with rootAlias := a } })

def tableFor (s : Service) (own : Option Table) : Table := own.getD s.registry.active

/-- Decides what answers the root. -/
def resolve (s : Service) (t : Option Table) (a : Option RootAlias) :
    Text × Option RootAlias × Service :=
  let (url, decided, log) := (s.aliasFor a).resolve (s.tableFor t)
  let (own, s) := (s.report log).keepAlias a decided
  (url, own, s)

/-- Answers a request. -/
def respond (s : Service) (request : Request) (t : Option Table) (a : Option RootAlias) :
    Response × Option RootAlias × Service :=
  let reply := Reply.toRequest request (s.tableFor t) (s.aliasFor a)
  let (own, s) := (s.report reply.log).keepAlias a reply.rootAlias
  (reply.response, own, s)

/-- Answers a raw request on a connection. -/
def serve (s : Service) (buffer : Bytes) (t : Option Table) (a : Option RootAlias)
    (socket : Socket) : Outcome Response × Socket × Option RootAlias × Service :=
  let served := Exchange.serve buffer (s.tableFor t) (s.aliasFor a) socket
  let (own, s) := (s.report served.log).keepAlias a served.rootAlias
  (served.outcome, served.socket, own, s)

/-- Handles a raw request on the active table. -/
def handle {α : Type} (s : Service) (buffer : Bytes) (upgrade : Option (Text × Handshake α))
    (socket : Socket) : Outcome (Option α) × Socket × Service :=
  let handled := Exchange.handle buffer s.registry.active s.registry.rootAlias upgrade socket
  let (_, s) := (s.report handled.log).keepAlias none handled.rootAlias
  (handled.outcome, handled.socket, s)

/-- Handles a connection on the active table. -/
def connect {α : Type} (s : Service) (handshake : Option (Handshake α)) (timeout : Value)
    (socket : Socket) : Socket × Service :=
  let finished := Host.run s.registry.active s.registry.rootAlias handshake timeout socket
  let (_, s) := (s.report finished.log).keepAlias none finished.rootAlias
  (finished.socket, s)

/-- How long a server waits for a request, in seconds. -/
def serverTimeout : Value := .real (.ofDecimal false 10 0)

end Service
end AssetBundle
