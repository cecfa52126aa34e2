import AssetBundle.Asset.Registry
import AssetBundle.Bundle.Reader
import AssetBundle.Command.Run

/-!
# AssetBundle.Service.State

The state of a process that serves assets: the registry, the files it sees, the log so far, the
applications made, and what was launched. Every change goes through a function here or in the
modules beside it, so what a call leaves behind can be read off its result.

* `load` reads a bundle and, unless told otherwise, makes its table the active one.
* `build` and `command` write bundles.
-/

namespace AssetBundle

/-- An application that can be called. -/
inductive AppName where
  /-- Stands for whatever was launched last. -/
  | launched
  /-- Passes everything on to the launched application. -/
  | forwarding
  /-- Serves the active table. -/
  | active
  /-- Serves a table of its own: the application of that number. -/
  | own (n : Nat)
deriving DecidableEq, Repr

/-- A table with the alias that an application keeps for it. -/
structure OwnTable where
  table : Table
  rootAlias : RootAlias

instance : Inhabited OwnTable := ⟨⟨.empty, .initial⟩⟩

structure Service where
  registry : Registry
  files : Tree
  /-- The rank from which on lines are seen. -/
  threshold : Int
  /-- The lines seen so far. -/
  log : Log
  own : Array OwnTable
  served : AppName
  /-- The path of the bundle that a fresh process has to load. -/
  bundle : Option Text

namespace Service

/-- A fresh process. -/
def initial (built : Text) (files : Tree) : Service :=
  ⟨.initial built, files, Severity.info.rank, [], #[], .active, none⟩

/-- Adds the lines at or above the threshold to the log. -/
def report (s : Service) (log : Log) : Service :=
  { s with log := s.log ++ log.visible s.threshold }

/-- The rank that a threshold given from outside stands for: a number, or the name of a severity. -/
def rankOf (v : Value) : Outcome Int :=
  match v with
  | .int n => .ok n
  | .bool b => .ok (if b then 1 else 0)
  | .text t =>
    match Severity.ofName? t with
    | some severity => .ok severity.rank
    | none => .error (.severityName t)
  | v => .error (.severityType v)

def setThreshold (s : Service) (v : Value) : Outcome Unit × Service :=
  match rankOf v with
  | .error e => (.error e, s)
  | .ok rank => (.ok (), { s with threshold := rank })

def setTable (s : Service) (t : Table) : Service := { s with registry := s.registry.set t }

/-- Refuses a value that is no table. -/
def setTableValue (s : Service) (v : Value) : Outcome Unit × Service :=
  match s.registry.setValue v with
  | .error e => (.error e, s)
  | .ok registry => (.ok (), { s with registry := registry })

def reset (s : Service) : Service := { s with registry := s.registry.reset }

/-- Decides what answers the root, on the active table. -/
def rootAlias (s : Service) : Text × Service :=
  let (url, registry, log) := s.registry.resolveRoot
  (url, { s with registry := registry }.report log)

/-- Sets by hand what answers the root. -/
def setRootAlias (s : Service) (url : Value) : Outcome Unit × Service :=
  match s.registry.rootAlias.setValue url with
  | .error e => (.error e, s)
  | .ok a => (.ok (), { s with registry := { s.registry with rootAlias := a } })

def bundleExtension : Text := ".py"

/-- The table in a bundle file. -/
def tableAt (s : Service) (path : Text) : Outcome Table :=
  if !bundleExtension.isSuffixOf path then .error .bundleExtension
  else
    match Path.check path with
    | .error e => .error e
    | .ok () =>
      match s.files.read path with
      | .error e => .error (.file e (some path))
      | .ok contents => Reader.ofFile contents

/-- Loads the bundle at a path that is spelled out. -/
def loadAt (s : Service) (path : Text) (register : Bool) : Outcome Table × Service :=
  match s.tableAt path with
  | .error e => (.error e, s)
  | .ok t => (.ok t, if register then s.setTable t else s)

def load (s : Service) (path : Text) (register : Bool) : Outcome Table × Service :=
  s.loadAt (Path.clean path) register

/-- Builds a bundle. -/
def build (s : Service) (directory : Text) (output : Value) (o : BuildOptions) :
    Outcome Nat × Service :=
  let built := Bundle.build s.files directory output o
  (built.outcome, { s with files := built.files }.report built.log)

/-- Makes the asset of one file. -/
def record (s : Service) (directory name : Text) (o : BuildOptions) :
    Outcome (Option Record) × Service :=
  let (outcome, log) := Bundle.record s.files directory name o
  (outcome, s.report log)

/-- Runs the command. When it asks for debugging lines they are shown from then on. -/
def command (s : Service) (texts : List Text) : Ran × Service :=
  let ran := Command.run texts s.files
  let threshold := if ran.verbose then Severity.debug.rank else s.threshold
  (ran, { s with files := ran.files, threshold := threshold }.report ran.log)

end Service
end AssetBundle
