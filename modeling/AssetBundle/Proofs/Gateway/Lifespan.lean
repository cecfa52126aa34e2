import AssetBundle.Gateway.App

/-!
# AssetBundle.Proofs.Gateway.Lifespan

How an application follows the life of its server. A message that does not end that life is taken
in and logged, and a startup is answered (`go_step`), so a run of such messages leads from one
channel to the other (`go_run`). The first shutdown is answered and ends the matter, whatever is
behind it; as long as there is none, only what keeps a message from being received or named can end
it (`call_lifespan`).
-/

namespace AssetBundle
namespace Gateway

def isStartup (kind : Value) : Bool := kindIs kind "lifespan.startup"

def isShutdown (kind : Value) : Bool := kindIs kind "lifespan.shutdown"

/-- What is logged of a message that does not end the server's life. -/
def lifespanLine (kind : Value) : LogLine :=
  if isStartup kind then ⟨.info, "Server is starting up"⟩
  else ⟨.warning, "Unknown lifespan message " ++ kind.written⟩

/-- The answers to the startups among messages. -/
def startupAnswers (kinds : List Value) : List Message :=
  List.replicate (kinds.countP isStartup) (.lifespanComplete "startup")

/-- The channel behind messages that do not end the server's life. -/
def following (c : Channel) (kinds : List Value) (rest : List Received) : Channel :=
  { c with
    incoming := rest
    attempts := c.attempts + kinds.countP isStartup
    outgoing := startupAnswers kinds ++ c.outgoing }

/-- A message that is not understood: it has no kind, or one that cannot be written. -/
inductive IsUnnamed : Received → Failure → Prop
  | missing : IsUnnamed none (.missingKey "type")
  | unwritable {kind : Value} : kind.isWritable = false → IsUnnamed (some kind) .integerTooLong

variable {c : Channel} {kind : Value} {kinds : List Value} {rest : List Received}

theorem following_following (c : Channel) (kinds more : List Value) (left rest : List Received) :
    following (following c kinds left) more rest = following c (kinds ++ more) rest := by
  have hanswers : startupAnswers more ++ startupAnswers kinds = startupAnswers (kinds ++ more) := by
    rw [startupAnswers, startupAnswers, List.replicate_append_replicate, startupAnswers,
      List.countP_append, Nat.add_comm]
  simp only [following, List.countP_append, Nat.add_assoc, ← List.append_assoc, hanswers]

theorem sent_following (c : Channel) (kinds : List Value) (rest : List Received) :
    (following c kinds rest).sent = c.sent ++ startupAnswers kinds := by
  simp [Channel.sent, following, startupAnswers]

/-- A message that does not end the server's life is taken in and logged, and a startup is
answered. -/
theorem go_step (hsend : c.sendFault c.attempts = none) (hincoming : c.incoming = some kind :: rest)
    (hopen : isShutdown kind = false) (hnamed : kind.isWritable = true) (log : Log) (fuel : Nat) :
    lifespan.go log (fuel + 1) c =
      lifespan.go (lifespanLine kind :: log) fuel (following c [kind] rest) := by
  have hreceive : c.receive = (.ok (some kind), { c with incoming := rest }) := by
    rw [Channel.receive, hincoming]
  rw [lifespan.go, hreceive]
  dsimp only
  rw [show kindIs kind "lifespan.shutdown" = false from hopen, if_neg Bool.false_ne_true]
  cases hstartup : isStartup kind with
  | true =>
    rw [show kindIs kind "lifespan.startup" = true from hstartup, if_pos rfl, Channel.send]
    simp [hsend, lifespanLine, following, startupAnswers, hstartup]
  | false =>
    rw [show kindIs kind "lifespan.startup" = false from hstartup, if_neg Bool.false_ne_true,
      if_pos hnamed]
    simp [lifespanLine, following, startupAnswers, hstartup]

/-- So are messages one after another. The fuel lasts as long as there are messages. -/
theorem go_run (hopen : ∀ kind ∈ kinds, isShutdown kind = false)
    (hnamed : ∀ kind ∈ kinds, kind.isWritable = true) :
    ∀ {c : Channel}, (∀ n, c.sendFault n = none) → c.incoming = kinds.map some ++ rest →
      ∀ (log : Log) (fuel : Nat), lifespan.go log (kinds.length + fuel) c =
        lifespan.go ((kinds.map lifespanLine).reverse ++ log) fuel (following c kinds rest) := by
  induction kinds with
  | nil =>
    intro c _ hincoming log fuel
    have hc : following c [] rest = c := by
      rw [following, show rest = c.incoming from hincoming.symm]
      rfl
    rw [hc, List.length_nil, Nat.zero_add]
    rfl
  | cons kind kinds ih =>
    intro c hsends hincoming log fuel
    obtain ⟨hopen, hopens⟩ := List.forall_mem_cons.1 hopen
    obtain ⟨hnamed, hnames⟩ := List.forall_mem_cons.1 hnamed
    rw [List.map_cons, List.cons_append] at hincoming
    rw [List.length_cons, Nat.add_right_comm, go_step (hsends _) hincoming hopen hnamed,
      ih hopens hnames (by exact hsends) rfl, following_following]
    simp

/-- The shutdown is answered, and nothing behind it is received. -/
theorem go_shutdown (hsend : c.sendFault c.attempts = none)
    (hincoming : c.incoming = some (.text "lifespan.shutdown") :: rest) (log : Log) (fuel : Nat) :
    lifespan.go log fuel c =
      ⟨.ok (), log.reverse ++ [⟨.info, "Server is shutting down"⟩],
        { c with
          incoming := rest
          attempts := c.attempts + 1
          outgoing := .lifespanComplete "shutdown" :: c.outgoing }⟩ := by
  have hreceive : c.receive =
      (.ok (some (.text "lifespan.shutdown")), { c with incoming := rest }) := by
    rw [Channel.receive, hincoming]
  rw [lifespan.go, hreceive]
  dsimp only
  rw [if_pos (by decide), Channel.send]
  simp [hsend]

theorem go_exhausted (hincoming : c.incoming = []) (log : Log) (fuel : Nat) :
    lifespan.go log fuel c = ⟨.error c.exhausted, log.reverse, c⟩ := by
  rw [lifespan.go, Channel.receive, hincoming]

theorem go_unnamed {m : Received} {e : Failure} (hm : IsUnnamed m e)
    (hincoming : c.incoming = m :: rest) (log : Log) (fuel : Nat) :
    lifespan.go log fuel c = ⟨.error e, log.reverse, { c with incoming := rest }⟩ := by
  have hreceive : c.receive = (.ok m, { c with incoming := rest }) := by
    rw [Channel.receive, hincoming]
  rw [lifespan.go, hreceive]
  cases hm with
  | missing => rfl
  | @unwritable kind hkind =>
    have hother : ∀ name, kindIs kind name = false := by
      intro name
      cases kind with
      | text t => cases hkind
      | _ => rfl
    dsimp only
    rw [hother, hother, hkind]
    rfl

/-- Whatever messages come, those in front of the first shutdown are taken in one after another,
each with one line in the log, and every startup among them is answered once. Then the shutdown is
answered, and what is behind it stays where it is. As long as there is no shutdown, messages are
received until there is none left. Their kinds can be any text, and any other value that has a
written form; a message without a kind, or with one that cannot be named in the log, breaks off. -/
theorem call_lifespan {scope : Scope} (hkind : scope.kind = some (.text "lifespan")) (t : Table)
    (a : RootAlias) (hsends : ∀ n, c.sendFault n = none) {behind : List Received}
    (hincoming : c.incoming = kinds.map some ++ behind)
    (hopen : ∀ kind ∈ kinds, isShutdown kind = false)
    (hnamed : ∀ kind ∈ kinds, kind.isWritable = true) :
    let called := (call scope t a c).1
    let answered := c.sent ++
      List.replicate (kinds.countP isStartup) (Message.lifespanComplete "startup")
    let lines := kinds.map lifespanLine
    (∀ rest, behind = some (.text "lifespan.shutdown") :: rest →
      called.outcome = .ok () ∧ called.channel.incoming = rest ∧
      called.channel.sent = answered ++ [.lifespanComplete "shutdown"] ∧
      called.log = lines ++ [⟨.info, "Server is shutting down"⟩]) ∧
    (behind = [] →
      called.outcome = .error c.exhausted ∧ called.channel.incoming = [] ∧
      called.channel.sent = answered ∧ called.log = lines) ∧
    (∀ m rest e, behind = m :: rest → IsUnnamed m e →
      called.outcome = .error e ∧ called.channel.incoming = rest ∧
      called.channel.sent = answered ∧ called.log = lines) := by
  have hrun : (call scope t a c).1 = lifespan.go (kinds.map lifespanLine).reverse behind.length
      (following c kinds behind) := by
    have hcall : (call scope t a c).1 = lifespan.go [] c.incoming.length c := by
      rw [call, hkind]
      rfl
    rw [hcall, congrArg List.length hincoming, List.length_append, List.length_map,
      go_run hopen hnamed hsends hincoming, List.append_nil]
  have hsent : ∀ rest, (following c kinds rest).sent = c.sent ++ startupAnswers kinds :=
    sent_following c kinds
  rw [hrun]
  refine ⟨?_, ?_, ?_⟩
  · rintro rest rfl
    rw [go_shutdown (c := following c kinds _) (hsends _) rfl, List.reverse_reverse]
    refine ⟨rfl, rfl, ?_, rfl⟩
    rw [← startupAnswers, ← hsent rest, Channel.sent, Channel.sent, List.reverse_cons]
    rfl
  · rintro rfl
    rw [go_exhausted (c := following c kinds []) rfl, List.reverse_reverse]
    exact ⟨rfl, rfl, hsent [], rfl⟩
  · rintro m rest e rfl hm
    rw [go_unnamed (c := following c kinds (m :: rest)) hm rfl, List.reverse_reverse]
    exact ⟨rfl, rfl, hsent rest, rfl⟩

/-- A server that starts twice around a message of an unknown kind, and has more to say behind the
shutdown. -/
theorem call_lifespan_restarted :
    let startup := some (Value.text "lifespan.startup")
    let shutdown := some (Value.text "lifespan.shutdown")
    let c : Channel :=
      ⟨[startup, some (.int 7), startup, shutdown, startup], .noTerminator, fun _ => none, 0, []⟩
    let called := (call ⟨some (.text "lifespan"), none, none, none, none⟩ .empty .initial c).1
    called.outcome = .ok () ∧ called.channel.incoming = [startup] ∧
      called.channel.sent = [.lifespanComplete "startup", .lifespanComplete "startup",
        .lifespanComplete "shutdown"] ∧
      called.log = [⟨.info, "Server is starting up"⟩, ⟨.warning, "Unknown lifespan message 7"⟩,
        ⟨.info, "Server is starting up"⟩, ⟨.info, "Server is shutting down"⟩] := by
  intro startup shutdown c called
  have hrun := @call_lifespan c
    [.text "lifespan.startup", .int 7, .text "lifespan.startup"]
    ⟨some (.text "lifespan"), none, none, none, none⟩ rfl .empty .initial (fun _ => rfl)
    [shutdown, startup] rfl (by decide) (by decide)
  exact hrun.1 [startup] rfl

end Gateway
end AssetBundle
