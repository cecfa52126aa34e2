import AssetBundle.Files.Path
import AssetBundle.Trial.Visit

/-!
# AssetBundle.Trial.ProcessServer

A trial server in a process of its own. A script is written that serves a bundle with a gateway
server; a process runs it; requests are made once it answers; removing the script asks the
process to stop, and after some patience it is told to. The process is given by what it does:
when it has ended, whether it answers yet, and what it prints.
-/

namespace AssetBundle

/-- What happens to a request that waits for the server. -/
inductive Attempt where
  | refused
  | timedOut
  | answered
  | failed (e : Failure)

/-- A process by what it does. -/
structure Subject where
  /-- What keeps the process from being started. -/
  startFault : Option Failure
  /-- Exit codes as they are asked for, none while it runs; the last one stays. -/
  polls : List (Option Int)
  /-- The exit codes once the process was told to stop, if that changes them. -/
  afterTermination : Option (List (Option Int))
  /-- What happens to the first requests; later ones are answered. -/
  attempts : List Attempt
  output : Bytes
  reply : Response

/-- Something that was done during a visit. -/
inductive ProcessEvent where
  | spawn (script : Text)
  | probe (address : Text) (result : Attempt)
  /-- The process was told to stop, after so many questions for its exit code. -/
  | terminate (polls : Nat)
  | request (request : TrialRequest) (address : Text)
  | readBody
  | release

/-- A visit in progress. The clock counts hundredths of a second. -/
structure Watch where
  polls : List (Option Int)
  asked : Nat
  sleeps : Nat
  clock : Nat
  /-- Newest first. -/
  events : List ProcessEvent

namespace Watch

/-- Asks for the exit code. -/
def poll (w : Watch) : Option Int × Watch :=
  let asked := w.asked + 1
  match w.polls with
  | [] => (none, { w with asked := asked })
  | [code] => (code, { w with asked := asked })
  | code :: rest => (code, { w with polls := rest, asked := asked })

def sleep (w : Watch) (hundredths : Nat) : Watch :=
  { w with sleeps := w.sleeps + 1, clock := w.clock + hundredths }

def note (w : Watch) (e : ProcessEvent) : Watch := { w with events := e :: w.events }

end Watch

namespace ProcessServer

/-- The script, with three words to be replaced. -/
def template : List String := [
  "",
  "import os",
  "import sys",
  "import time",
  "import threading",
  "import _thread",
  "",
  "import embedstatics",
  "",
  "def closer():",
  "    while os.path.isfile(__file__):",
  "        time.sleep(0.01)",
  "    _thread.interrupt_main()",
  "",
  "if __name__ == \"__main__\":",
  "    threading.Thread(target=closer, daemon=True).start()",
  "    embedstatics.run(ARTIFACT, \"ASGISERVER\", \"localhost:PORT\")",
  "    sys.stderr.flush()",
  "    sys.stdout.flush()",
  "    sys.exit(0)"]

/-- The words are replaced one after another, so one may come in with another's replacement. -/
def script (artifact server : Text) : Text :=
  let text := Text.ofLines template
  let text := Sequence.replaceAll "ASGISERVER" server text
  let text := Sequence.replaceAll "PORT" (Text.ofNat TrialRequest.port) text
  Sequence.replaceAll "ARTIFACT" (Quoted.text (Path.clean artifact)) text

def probeAddress : Text := TrialRequest.base ++ [0x2F]

/-- Waits until the process answers or has ended. Each round uses up an attempt, and an attempt
that is not foreseen is answered. -/
def await : List Attempt → Watch → Outcome Unit × Watch
  | attempts, w =>
    match w.poll with
    | (some _, w) => (.ok (), w)
    | (none, w) =>
      let w := w.sleep 2
      match attempts with
      | [] => (.ok (), w.note (.probe probeAddress .answered))
      | attempt :: rest =>
        let w := w.note (.probe probeAddress attempt)
        match attempt with
        | .answered => (.ok (), w)
        | .failed e => (.error e, w)
        | .refused | .timedOut => await rest w

/-- Starts the process. One that has ended by now has failed to start. -/
def start (subject : Subject) (w : Watch) : Outcome Unit × Watch :=
  match subject.startFault with
  | some e => (.error e, w)
  | none =>
    match await subject.attempts w with
    | (.error e, w) => (.error e, w)
    | (.ok (), w) =>
      match w.poll with
      | (none, w) => (.ok (), w)
      | (some _, w) =>
        match Utf8.decodeOrFail subject.output with
        | .error e => (.error e, w)
        | .ok output => (.error (.startFailed output), w)

/-- How long the process is given to stop, in hundredths of a second. -/
def patience : Nat := 500

/-- Waits for the process to end, up to a time on the clock. Every round takes a hundredth. -/
def linger (deadline : Nat) : Nat → Watch → Watch
  | 0, w => w
  | fuel + 1, w =>
    match w.poll with
    | (some _, w) => w
    | (none, w) => if w.clock < deadline then linger deadline fuel (w.sleep 1) else w

/-- How often the process is told to stop. -/
def rounds : Nat := 5

/-- Waits for the process to end, telling it to stop when it does not; `false` if it never
ends. -/
def stopWithin (subject : Subject) : Nat → Watch → Bool × Watch
  | 0, w => (false, w)
  | round + 1, w =>
    match (linger (w.clock + patience) (patience + 1) w).poll with
    | (some _, w) => (true, w)
    | (none, w) =>
      let w := w.note (.terminate w.asked)
      let w := { w with polls := subject.afterTermination.getD w.polls }
      stopWithin subject round w

/-- Stops the process and reads what it printed. -/
def stop (subject : Subject) (w : Watch) : Outcome Text × Watch :=
  match stopWithin subject rounds w with
  | (true, w) => (.ok (Utf8.decodeLenient subject.output), w)
  | (false, w) => (.error .runaway, w)

def typeName : Text := "ProcessTestServer"

/-- Makes one request; every reply is the same. -/
def ask (subject : Subject) (w : Watch) (r : TrialRequest) : Outcome Response × Watch :=
  match r.address with
  | .error e => (.error e, w)
  | .ok address =>
    let w := ((w.note (.request r address)).note .readBody).note .release
    (.ok { subject.reply with headers := Fields.ofList subject.reply.headers }, w)

def askAll (subject : Subject) (w : Watch) :
    List Asked → List (Outcome Response) × Watch
  | [] => ([], w)
  | r :: rest =>
    let (answer, w) : Outcome Response × Watch :=
      match r.composed typeName with
      | .ok r => ask subject w r
      | .error e => (.error e, w)
    let (answers, w) := askAll subject w rest
    (answer :: answers, w)

/-- A visit: what was answered, what was done, and how the visit ended. -/
structure Visit where
  answers : List (Outcome Response)
  watch : Watch
  visited : Visited
  /-- Whether the script is left behind. -/
  scriptLeft : Bool

def visit (subject : Subject) (artifact server : Text) (requests : List Asked)
    (skip : Option (List Text)) (raised : Option Failure) : Visit :=
  let text := script artifact server
  let w : Watch := ⟨subject.polls, 0, 0, 0, []⟩
  match Utf8.encodeOrFail text with
  | .error e => ⟨[], w, .neverStarted e, true⟩
  | .ok _ =>
    match start subject (w.note (.spawn text)) with
    | (.error e, w) => ⟨[], w, .neverStarted e, false⟩
    | (.ok (), w) =>
      let (answers, w) := askAll subject w requests
      let (stopped, w) := stop subject w
      ⟨answers, w, .finish server skip raised stopped, false⟩

end ProcessServer
end AssetBundle
