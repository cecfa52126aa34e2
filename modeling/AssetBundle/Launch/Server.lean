import AssetBundle.Failure
import AssetBundle.Keyed
import AssetBundle.Sequence
import AssetBundle.Text.CaseMapping

/-!
# AssetBundle.Launch.Server

The gateway servers that can run an application, and the arguments with which each is started.
Options are named; a name that is given again keeps its place and takes the new value. Options
that the address decides cannot be overridden, while the defaults of a server can.
-/

namespace AssetBundle

/-- Options by name, in the order of their first appearance. -/
abbrev ServerOptions := List (Text × Value)

namespace ServerOptions

/-- One option as an argument: underscores become dashes in its name. -/
def argument (entry : Text × Value) : Text :=
  let name := Sequence.replaceAll ([0x5F] : Text) [0x2D] entry.1
  ("--" : Text) ++ (name ++ (("=" : Text) ++ entry.2.written))

/-- The options as arguments. Each value must have a written form. -/
def toArguments (options : ServerOptions) : Outcome (List Text) :=
  if options.all fun entry => entry.2.isWritable then .ok (options.map argument)
  else .error .integerTooLong

end ServerOptions

inductive Server where
  | uvicorn
  | hypercorn
  | daphne
deriving DecidableEq, Repr

namespace Server

def name : Server → Text
  | .uvicorn => "uvicorn"
  | .hypercorn => "hypercorn"
  | .daphne => "daphne"

/-- The server of a name, in any case. -/
def ofName? (t : Text) : Option Server :=
  [uvicorn, hypercorn, daphne].find? fun s => s.name = Text.lower t

def ofValue (v : Value) : Outcome Server :=
  match v with
  | .text t =>
    match ofName? t with
    | some s => .ok s
    | none => .error (.serverName t)
  | _ => .error .serverType

/-- Options that hold unless others are given. -/
def defaults : Server → List (Text × Value)
  | .uvicorn => [("log_level", .text "warning")]
  | .hypercorn => []
  | .daphne => [("verbosity", .int 0)]

/-- Options that the address decides. -/
def addressed (s : Server) (host : Text) (port : Int) : List (Text × Value) :=
  match s with
  | .uvicorn => [("host", .text host), ("port", .int port)]
  | .hypercorn => [("bind", .text (host ++ ((":" : Text) ++ Text.ofInt port)))]
  | .daphne => [("bind", .text host), ("port", .int port)]

/-- The options with which the server is started, each once. -/
def settings (s : Server) (host : Text) (port : Int) (options : List (Text × Value)) :
    ServerOptions :=
  Keyed.ofList (s.defaults ++ options ++ s.addressed host port)

/-- The arguments with which the server is started: its options, and the application last. -/
def arguments (s : Server) (host : Text) (port : Int) (options : List (Text × Value))
    (app : Text) : Outcome (List Text) :=
  match (s.settings host port options).toArguments with
  | .error e => .error e
  | .ok arguments => .ok (arguments ++ [app])

end Server
end AssetBundle
