import AssetBundle.Service.Apps
import AssetBundle.Trial.Preparation
import AssetBundle.Trial.SocketServer

/-!
# AssetBundle.Trial.GatewayServer

A trial server that calls an application the way a gateway server does, in the same process: it
follows the application's life from start to shutdown, makes a scope of every request, and puts
the messages of the application together to a response. The application is one of the process or
one that behaves in a given way.
-/

namespace AssetBundle

/-- Ways in which an application goes about its life and its requests. -/
inductive Behaviour where
  /-- Lives as it should, and answers a request by what it was asked. -/
  | echo
  /-- Lives as it should and answers nothing. -/
  | silent
  /-- Ends before it is told to start. -/
  | returns
  /-- Fails when it is told to start. -/
  | raises
  /-- Ends when it has started. -/
  | startupOnly
  /-- Never completes its start. -/
  | never
  /-- Never completes its shutdown. -/
  | noShutdown
deriving DecidableEq, Repr

/-- A request as a gateway server hands it on. -/
structure WebRequest where
  method : Text
  url : Url
  host : Text
  port : Int
  headers : List (Bytes × Bytes)
  body : Bytes

namespace WebRequest

def isBlankOrColon (c : CodePoint) : Bool := c.isBlank || c = 0x3A

def breaksLine (c : CodePoint) : Bool := c.val = 10 || c.val = 13

/-- A text without the one line feed that may end it. -/
def withoutEnd (t : Text) : Text := if t.getLast? = some 10 then t.dropLast else t

/-- A header name begins with neither blank nor colon, and holds no colon and no line break. -/
def isName (t : Text) : Bool :=
  match withoutEnd t with
  | [] => false
  | c :: rest => !isBlankOrColon c && !rest.any fun c => c = 0x3A || breaksLine c

/-- A header value is empty, or begins with no blank and holds no line break. -/
def isValue (t : Text) : Bool :=
  match withoutEnd t with
  | [] => true
  | c :: rest => !c.isBlank && !rest.any breaksLine

def checkHeaders : Headers → Outcome Unit
  | [] => .ok ()
  | (name, value) :: rest =>
    if !isName name then .error (.headerPart name true)
    else if !isValue value then .error (.headerPart value false)
    else checkHeaders rest

def encodeHeaders : Headers → Outcome (List (Bytes × Bytes))
  | [] => .ok []
  | (name, value) :: rest =>
    match Utf8.encodeOrFail (Text.lower name), Utf8.encodeOrFail value with
    | .error e, _ => .error e
    | _, .error e => .error e
    | .ok name, .ok value =>
      match encodeHeaders rest with
      | .error e => .error e
      | .ok rest => .ok ((name, value) :: rest)

def hostName : Bytes := ("host" : Text).flatMap Utf8.encodePoint

/-- Checks that the name and the password of a user can be sent, which is in Latin-1. -/
def checkCredentials (u : Url) : Outcome Unit :=
  match u.credentials? with
  | none => .ok ()
  | some (name, password) =>
    match Latin1.encodeOrFail name, Latin1.encodeOrFail password with
    | .error e, _ => .error e
    | _, .error e => .error e
    | .ok _, .ok _ => .ok ()

/-- The host of an authority and its port, which is that of the protocol unless it is given. -/
def endpoint (u : Url) : Outcome (Text × Int) :=
  match Sequence.cutAt? ([0x3A] : Text) u.authority with
  | none => .ok (u.authority, 80)
  | some (host, port) =>
    match Integer.readOrFail port with
    | .error e => .error e
    | .ok port => .ok (host, port)

/-- The place of a request whose headers can be sent. -/
def locate (address : Text) (headers : Headers) : Outcome (Url × Text × Int) :=
  match Url.prepare address with
  | .error e => .error e
  | .ok prepared =>
    match checkHeaders headers with
    | .error e => .error e
    | .ok () =>
      match Url.read prepared with
      | .error e => .error e
      | .ok url =>
        match checkCredentials url, endpoint url with
        | .error e, _ => .error e
        | _, .error e => .error e
        | .ok (), .ok (host, port) => .ok (url, host, port)

/-- Prepares a request to be handed on. -/
def ofTrial (r : TrialRequest) : Outcome WebRequest :=
  match r.address with
  | .error e => .error e
  | .ok address =>
    match locate address r.headerMap, encodeHeaders (Fields.ofList r.headerMap) with
    | .error e, _ => .error e
    | _, .error e => .error e
    | .ok (url, host, port), .ok headers =>
      let named := (hostName, url.authority.flatMap Utf8.encodePoint)
      .ok ⟨Text.upper r.method, url, host, port, named :: headers, r.data.getD []⟩

def pairValue (pair : Bytes × Bytes) : Value := .list [.bytes pair.1, .bytes pair.2]

def scope (r : WebRequest) : Scope :=
  ⟨some (.text "http"), some (.text (Url.decode r.url.path)),
    some (.bytes (r.url.query.flatMap Utf8.encodePoint)),
    some (.list (r.headers.map pairValue)), some (.text r.method)⟩

end WebRequest

namespace GatewayServer

/-- The status of a response that was never started. -/
def noStatus : Int := 9999

/-- The headers of a start, put together with those before. -/
def addHeaders (fields : Fields) : List (Bytes × Bytes) → Outcome Fields
  | [] => .ok fields
  | (name, value) :: rest =>
    match Utf8.decodeOrFail value, Utf8.decodeOrFail name with
    | .error e, _ => .error e
    | _, .error e => .error e
    | .ok value, .ok name => addHeaders (fields.put (name, value)) rest

/-- A response being put together. -/
structure Collected where
  status : Int
  fields : Fields
  body : Bytes

def collect (c : Collected) : List Message → Outcome Collected
  | [] => .ok c
  | .responseStart status headers :: rest =>
    match addHeaders c.fields headers with
    | .error e => .error e
    | .ok fields => collect { c with status := status, fields := fields } rest
  | .responseBody body _ :: rest => collect { c with body := c.body ++ body } rest
  | _ :: rest => collect c rest

/-- The response that messages make up. -/
def responseOf (messages : List Message) : Outcome Response :=
  match collect ⟨noStatus, [], []⟩ messages with
  | .error e => .error e
  | .ok c => .ok ⟨c.status, c.fields.map Prod.snd, c.body⟩

def utf8 (t : Text) : Bytes := t.flatMap Utf8.encodePoint

/-- What an echoing application sends. -/
def echo (r : WebRequest) : List Message :=
  let headers : Headers := [("X-A", "1"), ("x-a", "2"), ("B", "3")]
  let words : List Text :=
    [r.method, Url.decode r.url.path, r.url.scheme, r.host, Text.ofInt r.port]
  let first := utf8 (List.intercalate ([0x20] : Text) words ++ [10])
  [.responseStart 299 (headers.map fun h => (utf8 h.1, utf8 h.2)),
    .responseBody first true,
    .other "http.response.other",
    .responseBody (utf8 r.url.query ++ 10 :: r.body) false]

/-- Hands a request on to an application of the process. -/
def askApp (s : Service) (app : AppName) (r : WebRequest) : Outcome Response × Service :=
  let channel : Channel := ⟨[], .runaway, fun _ => none, 0, []⟩
  match s.call app r.scope channel with
  | (.error e, _, s) => (.error e, s)
  | (.ok (), channel, s) => (responseOf channel.sent, s)

def typeName : Text := "MockTestServer"

def ask (s : Service) (app : AppName) (r : Asked) : Outcome Response × Service :=
  match (r.composed typeName).bind WebRequest.ofTrial with
  | .error e => (.error e, s)
  | .ok r => askApp s app r

def askAll (s : Service) (app : AppName) :
    List Asked → List (Outcome Response) × Service
  | [] => ([], s)
  | r :: rest =>
    let (answer, s) := ask s app r
    let (answers, s) := askAll s app rest
    (answer :: answers, s)

/-- A visit: what was answered, and how it ended. -/
structure Visit where
  answers : List (Outcome Response)
  visited : Visited

def name : Text := "mock"

def lifeScope : Scope := ⟨some (.text "lifespan"), none, none, none, none⟩

/-- Tells an application of the process of one phase of its life. -/
def tell (s : Service) (app : AppName) (phase : Text) : Service :=
  let message : Received := some (.text (("lifespan." : Text) ++ phase))
  let (_, _, s) := s.call app lifeScope ⟨[message], .runaway, fun _ => none, 0, []⟩
  s

/-- Visits an application of the process. -/
def visit (s : Service) (app : AppName) (requests : List Asked)
    (skip : Option (List Text)) (raised : Option Failure) : Visit × Service :=
  let started := tell s app "startup"
  let (answers, after) := askAll started app requests
  let stopped := tell after app "shutdown"
  let output := SocketServer.outputSince s stopped
  (⟨answers, .finish name skip raised (.ok output)⟩, stopped)

/-- What goes wrong when an application that behaves in a given way is started. -/
def startFault : Behaviour → Option Failure
  | .returns | .raises => some (.lifespanEnded "startup")
  | .never => some (.lifespanTimeout "startup" [])
  | .echo | .silent | .startupOnly | .noShutdown => none

/-- What goes wrong when it is shut down. -/
def stopFault : Behaviour → Option Failure
  | .startupOnly => some (.lifespanEnded "shutdown")
  | .noShutdown => some (.lifespanTimeout "shutdown" ["lifespan.startup.complete"])
  | _ => none

def answerOf (b : Behaviour) (r : Asked) : Outcome Response :=
  match (r.composed typeName).bind WebRequest.ofTrial with
  | .error e => .error e
  | .ok r => if b = .echo then responseOf (echo r) else responseOf []

/-- Visits an application that behaves in a given way. -/
def visitBehaviour (b : Behaviour) (requests : List Asked)
    (skip : Option (List Text)) (raised : Option Failure) : Visit :=
  match startFault b with
  | some e => ⟨[], .neverStarted e⟩
  | none =>
    let stopped : Outcome Text :=
      match stopFault b with
      | some e => .error e
      | none => .ok []
    ⟨requests.map (answerOf b), .finish name skip raised stopped⟩

end GatewayServer
end AssetBundle
