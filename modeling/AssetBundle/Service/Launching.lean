import AssetBundle.Launch.Address
import AssetBundle.Launch.Server
import AssetBundle.Service.State

/-!
# AssetBundle.Service.Launching

Launching a gateway server. The server imports the application by its path, a module and a name.
A bundle, and an application that cannot be found by name, are served through the launched
application, whose path is always the same.
-/

namespace AssetBundle

/-- What is to be served: a value given from outside, or an application, with the path under
which it can be imported if there is one. -/
inductive Target where
  | value (v : Value)
  | app (app : AppName) (path : Option Text)

/-- A server that was started, with its arguments. -/
structure Started where
  server : Server
  arguments : List Text
deriving DecidableEq, Repr

namespace Service

/-- The path of the launched application. -/
def launchedPath : Text := "embedstatics._run:app"

/-- Loads a bundle and leaves it for fresh processes. -/
def targetBundle (s : Service) (path : Text) : Outcome Text × Service :=
  let file := Path.clean path
  if !s.files.isFile file then (.error (.targetMissing path), s)
  else
    match s.loadAt file true with
    | (.error e, s) => (.error e, s)
    | (.ok _, s) => (.ok launchedPath, { s with bundle := some file })

/-- The path under which the server can import what is to be served. -/
def appPath (s : Service) (target : Target) : Outcome Text × Service :=
  match target with
  | .value (.text t) =>
    if bundleExtension.isSuffixOf t then s.targetBundle t
    else if t.contains Address.colon then (.ok t, s)
    else (.error (.targetForm t), s)
  | .value _ => (.error .targetType, s)
  | .app _ (some path) => (.ok path, s)
  | .app app none => (.ok launchedPath, { s with served := app })

/-- Starts a server. What is to be served is settled before the port is read. -/
def start (s : Service) (target : Target) (server : Server) (address : Address)
    (options : List (Text × Value)) : Outcome Started × Service :=
  match s.appPath target with
  | (.error e, s) => (.error e, s)
  | (.ok app, s) =>
    match address.portNumber with
    | .error e => (.error e, s)
    | .ok port =>
      match server.arguments address.numericHost port options app with
      | .error e => (.error e, s)
      | .ok arguments => (.ok ⟨server, arguments⟩, s)

/-- The option that gives the address. -/
def bindOption : Text := "bind"

/-- Whether a name is that of an argument that was given already. -/
def isTaken (bind : Option Value) (name : Text) : Bool :=
  name = "target" || name = "server" || (bind.isSome && name = bindOption)

/-- Serves a target with a server on an address, all given from outside. The address can stand
among the options. -/
def launch (s : Service) (target : Target) (server : Value) (bind : Option Value)
    (options : List (Text × Value)) : Outcome Started × Service :=
  match options.find? fun entry => isTaken bind entry.1 with
  | some (name, _) => (.error (.repeatedArgument "run" name), s)
  | none =>
    match Server.ofValue server with
    | .error e => (.error e, s)
    | .ok server =>
      let bind := (bind.orElse fun _ => options.lookup bindOption).getD Address.standard
      match Address.ofValue bind with
      | .error e => (.error e, s)
      | .ok address => s.start target server address (Keyed.drop bindOption options)

end Service
end AssetBundle
