import AssetBundle.Asset.Registry
import AssetBundle.Proofs.Asset.Table
import AssetBundle.Proofs.Http.Request
import AssetBundle.Proofs.Http.Response

/-!
# AssetBundle.Proofs.Http.Decision

The decision table of the responder. A request that was read is answered by the first row that
fits it (`toRequest_answers`): its method is refused, there is no record at its path, the record
is the one the client has, or the record is sent. A buffer is malformed or asks one request, and
is answered accordingly (`toBuffer_decides`). Serving a buffer and handling it without a handshake
send the same answer (`handle_serve_decide`).
-/

namespace AssetBundle

namespace Request

/-- Whether a request only reads. -/
def IsReading (request : Request) : Prop := request.method = "GET" ∨ request.method = "HEAD"

/-- Whether the path without its query is empty or a slash. -/
def AsksRoot (request : Request) : Prop :=
  request.fullPath.takeWhile (· ≠ 0x3F) = [] ∨ request.fullPath.takeWhile (· ≠ 0x3F) = "/"

instance (request : Request) : Decidable request.AsksRoot :=
  inferInstanceAs (Decidable (_ ∨ _))

/-- The path that a request is looked up at: that of the alias if it asks for the root, and else
its own without the query. -/
def target (request : Request) (t : Table) (a : RootAlias) : Text :=
  if request.AsksRoot then (a.resolve t).1 else request.fullPath.takeWhile (· ≠ 0x3F)

variable {request : Request}

theorem path_eq (request : Request) : request.path = request.fullPath.takeWhile (· ≠ 0x3F) :=
  Sequence.before_singleton _ _

theorem isRoot_path : Reply.isRoot request.path = true ↔ request.AsksRoot := by
  rw [Reply.isRoot, path_eq, Bool.or_eq_true, List.isEmpty_iff, decide_eq_true_eq]
  rfl

/-- A path that is neither the root nor has a query is looked up as it is. -/
theorem target_eq_fullPath (hquery : 0x3F ∉ request.fullPath) (hempty : request.fullPath ≠ [])
    (hslash : request.fullPath ≠ "/") (t : Table) (a : RootAlias) :
    request.target t a = request.fullPath := by
  have hwhole : request.fullPath.takeWhile (· ≠ 0x3F) = request.fullPath :=
    List.takeWhile_eq_self_iff.2 fun c hc => by simpa using fun h : c = 0x3F => hquery (h ▸ hc)
  have hroot : ¬ request.AsksRoot := by
    rw [AsksRoot, hwhole]
    exact not_or.2 ⟨hempty, hslash⟩
  rw [target, if_neg hroot, hwhole]

theorem allowed_method : Reply.allowed request.method = true ↔ request.IsReading := by
  rw [Reply.allowed, Bool.or_eq_true, decide_eq_true_eq, decide_eq_true_eq]
  rfl

end Request

namespace Reply

open Request (IsMalformed Asks)

/-- Whether a reply is the one that the rows of the table below the first have for a request. -/
structure Answers (request : Request) (t : Table) (a : RootAlias) (reply : Reply) : Prop where
  refused : reply.response.status = 405 ↔ ¬ request.IsReading
  missing : request.IsReading →
    (reply.response.status = 404 ↔ ∀ r ∈ t.toList, r.url ≠ request.target t a)
  /-- The rows with an error show its page. -/
  page : reply.response.status = 405 ∨ reply.response.status = 404 →
    reply.response = .ofError reply.response.status
  found : request.IsReading → ∀ r,
    (t.toList.find? fun r => r.url = request.target t a) = some r →
      (reply.response.status = 304 ↔ Revalidation.notModified r request = true) ∧
        reply.response =
          if Revalidation.notModified r request then
            ⟨304, Response.composeHeaders r.headers 0, []⟩
          else
            ⟨200, Response.composeHeaders r.headers r.size,
              if request.method = "GET" then r.payload else []⟩
  atRoot : request.IsReading → request.AsksRoot →
    reply.rootAlias = (a.resolve t).2.1 ∧ reply.log = (a.resolve t).2.2
  elsewhere : ¬ (request.IsReading ∧ request.AsksRoot) → reply.rootAlias = a ∧ reply.log = []

/-- Whether a reply is the one that the table has for a buffer. -/
structure Decides (buffer : Bytes) (t : Table) (a : RootAlias) (reply : Reply) : Prop where
  malformed : reply.response.status = 400 ↔ IsMalformed buffer
  page : IsMalformed buffer → reply = ⟨.ofError 400, a, []⟩
  asks : ¬ IsMalformed buffer → ∃ request, Asks buffer request
  answers : ∀ request, Asks buffer request → Answers request t a reply

variable {buffer : Bytes} {t : Table} {a : RootAlias} {request : Request}

theorem toRequest_of_reading (h : request.IsReading) :
    toRequest request t a =
      ⟨lookUp t (request.target t a) request,
        if request.AsksRoot then (a.resolve t).2.1 else a,
        if request.AsksRoot then (a.resolve t).2.2 else []⟩ := by
  rw [toRequest, Request.allowed_method.2 h, Request.target]
  by_cases hroot : request.AsksRoot
  · rw [Request.isRoot_path.2 hroot, if_pos hroot, if_pos hroot, if_pos hroot]
    rfl
  · have hpath : isRoot request.path = false := by
      rw [Bool.eq_false_iff]
      exact fun h => hroot (Request.isRoot_path.1 h)
    rw [hpath, if_neg hroot, if_neg hroot, if_neg hroot, ← Request.path_eq]
    rfl

theorem toRequest_of_not_reading (h : ¬ request.IsReading) :
    toRequest request t a = ⟨.ofError 405, a, []⟩ := by
  have hallowed : allowed request.method = false := by
    rw [Bool.eq_false_iff]
    exact fun h' => h (Request.allowed_method.1 h')
  rw [toRequest, hallowed]
  rfl

theorem lookUp_of_none {url : Text} (h : (t.toList.find? fun r => r.url = url) = none) :
    lookUp t url request = .ofError 404 := by
  rw [lookUp, t.find?_eq, h]

/-- A record is sent to a request that only reads as it is, if the request does not have it. -/
theorem lookUp_of_some {url : Text} {r : Record} (hreading : request.IsReading)
    (h : (t.toList.find? fun r => r.url = url) = some r) :
    lookUp t url request =
      if Revalidation.notModified r request then
        ⟨304, Response.composeHeaders r.headers 0, []⟩
      else
        ⟨200, Response.composeHeaders r.headers r.size,
          if request.method = "GET" then r.payload else []⟩ := by
  have hbody : (if request.method = "HEAD" then [] else r.payload) =
      if request.method = "GET" then r.payload else [] := by
    rcases hreading with hmethod | hmethod <;> rw [hmethod] <;> rfl
  rw [lookUp, t.find?_eq, h]
  dsimp only
  rw [forRecord, hbody]

theorem response_of_none (hreading : request.IsReading)
    (h : (t.toList.find? fun r => r.url = request.target t a) = none) :
    (toRequest request t a).response = .ofError 404 := by
  rw [toRequest_of_reading hreading]
  exact lookUp_of_none h

theorem response_of_some {r : Record} (hreading : request.IsReading)
    (h : (t.toList.find? fun r => r.url = request.target t a) = some r) :
    (toRequest request t a).response =
      if Revalidation.notModified r request then
        ⟨304, Response.composeHeaders r.headers 0, []⟩
      else
        ⟨200, Response.composeHeaders r.headers r.size,
          if request.method = "GET" then r.payload else []⟩ := by
  rw [toRequest_of_reading hreading]
  exact lookUp_of_some hreading h

/-- A request is answered by the first row that fits it. -/
theorem toRequest_answers (request : Request) (t : Table) (a : RootAlias) :
    Answers request t a (toRequest request t a) := by
  by_cases hreading : request.IsReading
  · rw [toRequest_of_reading hreading]
    have hroot : request.IsReading → request.AsksRoot →
        (if request.AsksRoot then (a.resolve t).2.1 else a) = (a.resolve t).2.1 ∧
          (if request.AsksRoot then (a.resolve t).2.2 else []) = (a.resolve t).2.2 :=
      fun _ h => ⟨if_pos h, if_pos h⟩
    have helsewhere : ¬ (request.IsReading ∧ request.AsksRoot) →
        (if request.AsksRoot then (a.resolve t).2.1 else a) = a ∧
          (if request.AsksRoot then (a.resolve t).2.2 else []) = [] :=
      fun h => ⟨if_neg fun h' => h ⟨hreading, h'⟩, if_neg fun h' => h ⟨hreading, h'⟩⟩
    cases hfind : t.toList.find? fun r => r.url = request.target t a with
    | none =>
      have hnone : ∀ r ∈ t.toList, r.url ≠ request.target t a := by
        simpa using List.find?_eq_none.1 hfind
      rw [lookUp_of_none hfind]
      refine ⟨by simp [Response.ofError, hreading], fun _ => ⟨fun _ => hnone, fun _ => rfl⟩,
        fun _ => rfl, fun _ r h => ?_, hroot, helsewhere⟩
      rw [hfind] at h
      cases h
    | some r =>
      have hsome : ¬ ∀ r ∈ t.toList, r.url ≠ request.target t a := fun h =>
        h r (List.mem_of_find?_eq_some hfind) (by simpa using List.find?_some hfind)
      rw [lookUp_of_some hreading hfind]
      refine ⟨?_, fun _ => ?_, ?_, fun _ r' h => ?_, hroot, helsewhere⟩
      · split <;> simp [hreading]
      · split <;> simp [hsome]
      · split <;> simp
      · rw [hfind] at h
        cases h
        refine ⟨?_, rfl⟩
        split <;> simp [*]
  · rw [toRequest_of_not_reading hreading]
    exact ⟨by simp [Response.ofError, hreading], fun h => absurd h hreading, fun _ => rfl,
      fun h => absurd h hreading, fun h => absurd h hreading, fun _ => ⟨rfl, rfl⟩⟩

theorem Answers.status_mem {reply : Reply} (h : Answers request t a reply) :
    reply.response.status ∈ ([200, 304, 404, 405] : List Int) := by
  by_cases hreading : request.IsReading
  · cases hfind : t.toList.find? fun r => r.url = request.target t a with
    | none =>
      rw [(h.missing hreading).2 (by simpa using List.find?_eq_none.1 hfind)]
      decide
    | some r =>
      rw [(h.found hreading r hfind).2]
      split <;> simp
  · rw [h.refused.2 hreading]
    decide

theorem Answers.status_ne {reply : Reply} (h : Answers request t a reply) :
    reply.response.status ≠ 400 :=
  ne_of_mem_of_not_mem h.status_mem (by decide)

theorem Answers.isLatin1 {reply : Reply} (h : Answers request t a reply)
    (hlatin : ∀ r ∈ t.toList, r.headers.IsLatin1) : reply.response.headers.IsLatin1 := by
  by_cases hreading : request.IsReading
  · cases hfind : t.toList.find? fun r => r.url = request.target t a with
    | none =>
      rw [h.page (.inr ((h.missing hreading).2 (by simpa using List.find?_eq_none.1 hfind)))]
      exact Response.isLatin1_ofError _
    | some r =>
      have hr := hlatin r (List.mem_of_find?_eq_some hfind)
      rw [(h.found hreading r hfind).2]
      split <;> exact Response.isLatin1_composeHeaders hr _
  · rw [h.page (.inl (h.refused.2 hreading))]
    exact Response.isLatin1_ofError _

theorem Decides.isLatin1 {reply : Reply} (h : Decides buffer t a reply)
    (hlatin : ∀ r ∈ t.toList, r.headers.IsLatin1) : reply.response.headers.IsLatin1 := by
  by_cases hmalformed : IsMalformed buffer
  · rw [h.page hmalformed]
    exact Response.isLatin1_ofError 400
  · obtain ⟨request, hasks⟩ := h.asks hmalformed
    exact (h.answers request hasks).isLatin1 hlatin

/-- A buffer is answered as the table says, and one line is logged behind what the alias logs. -/
theorem toBuffer_decides (buffer : Bytes) (t : Table) (a : RootAlias) :
    ∃ (reply : Reply) (line : LogLine), Decides buffer t a reply ∧ line.severity = .debug ∧
      toBuffer buffer t a = { reply with log := reply.log ++ [line] } := by
  rw [toBuffer]
  cases hparse : Request.parse buffer with
  | error e =>
    have hmalformed : IsMalformed buffer := Request.parse_fails_iff.1 ⟨e, hparse⟩
    have hnone := Request.isMalformed_iff.1 hmalformed
    exact ⟨⟨.ofError 400, a, []⟩, ⟨.debug, _⟩, ⟨⟨fun _ => hmalformed, fun _ => rfl⟩, fun _ => rfl,
      fun h => absurd hmalformed h, fun request h => absurd ⟨request, h⟩ hnone⟩, rfl, rfl⟩
  | ok request =>
    have hasks : Asks buffer request := Request.parse_eq_ok_iff.1 hparse
    have hformed : ¬ IsMalformed buffer := fun h => Request.isMalformed_iff.1 h ⟨request, hasks⟩
    have hanswers := toRequest_answers request t a
    refine ⟨toRequest request t a, ⟨.debug, _⟩, ⟨⟨fun h => absurd h hanswers.status_ne,
      fun h => absurd h hformed⟩, fun h => absurd h hformed, fun _ => ⟨request, hasks⟩,
      fun other hother => ?_⟩, rfl, rfl⟩
    have hsame : request = other :=
      Except.ok.inj (hparse.symm.trans (Request.parse_eq_ok_iff.2 hother))
    rwa [← hsame]

end Reply

namespace Exchange

/-- Serving is deciding on an answer, and then delivering it. -/
theorem serve_eq (buffer : Bytes) (t : Table) (a : RootAlias) (s : Socket) :
    serve buffer t a s =
      let reply := Reply.toBuffer buffer t a
      let delivered := deliver reply.response s
      ⟨delivered.1.map fun _ => reply.response, reply.rootAlias, reply.log, delivered.2⟩ := by
  rw [serve]
  dsimp only
  rcases deliver (Reply.toBuffer buffer t a).response s with ⟨_ | _, _⟩ <;> rfl

/-- Without a handshake a buffer is served if it has a head. -/
theorem handle_none {α : Type} (buffer : Bytes) (t : Table) (a : RootAlias) (s : Socket) :
    handle buffer t a (none : Option (Text × Handshake α)) s =
      if Sequence.contains Request.headEnd buffer then
        let served := serve buffer t a s
        ⟨served.outcome.map fun _ => none, served.rootAlias, served.log, served.socket⟩
      else
        let sent := deliver (.ofError 400) s
        ⟨sent.1.map fun _ => none, a, [], sent.2⟩ := by
  unfold handle route
  cases Sequence.contains Request.headEnd buffer with
  | false =>
    rcases deliver (.ofError 400) s with ⟨_ | _, _⟩ <;> rfl
  | true =>
    rcases serve buffer t a s with ⟨_ | _, _, _, _⟩ <;> rfl

/-- Serving a buffer, and handling it without a handshake, send the answer that the table has for
it. Handling alone logs nothing of a buffer without a head. -/
theorem handle_serve_decide (α : Type) (buffer : Bytes) (t : Table) (a : RootAlias) (s : Socket)
    (hsend : ∀ n, s.sendFault n = none) (hlatin : ∀ r ∈ t.toList, r.headers.IsLatin1) :
    ∃ (reply : Reply) (line : LogLine) (head : Bytes) (s' : Socket) (log : Log),
      reply.Decides buffer t a ∧ line.severity = .debug ∧
      reply.response.encodeHead = .ok head ∧
      s'.sent = s.sent ++ head :: (if reply.response.body.isEmpty then []
        else [reply.response.body]) ∧
      serve buffer t a s =
        ⟨.ok reply.response, reply.rootAlias, reply.log ++ [line], s'⟩ ∧
      handle buffer t a (none : Option (Text × Handshake α)) s =
        ⟨.ok none, reply.rootAlias, log, s'⟩ ∧
      log = if Sequence.contains Request.headEnd buffer then reply.log ++ [line] else [] := by
  obtain ⟨reply, line, hdecides, hline, hreply⟩ := Reply.toBuffer_decides buffer t a
  have hhead := Response.encodeHead_eq_ok (hdecides.isLatin1 hlatin)
  obtain ⟨s', hdeliver, hsent⟩ := deliver_ok hsend hhead
  have hserve : serve buffer t a s =
      ⟨.ok reply.response, reply.rootAlias, reply.log ++ [line], s'⟩ := by
    rw [serve_eq, hreply]
    dsimp only
    rw [hdeliver]
    rfl
  refine ⟨reply, line, _, s', _, hdecides, hline, hhead, hsent, hserve, ?_, rfl⟩
  rw [handle_none]
  cases hend : Sequence.contains Request.headEnd buffer with
  | false =>
    have hmalformed : Request.IsMalformed buffer :=
      .inl (Sequence.contains_eq_false_iff.1 hend)
    have hpage := hdecides.page hmalformed
    subst hpage
    rw [if_neg Bool.false_ne_true, hdeliver]
    rfl
  | true =>
    rw [if_pos rfl, hserve]
    rfl

/-- The page at the root is sent, with a query behind the path and the alias still undecided. -/
theorem handle_serve_decide_root :
    let buffer := ("GET /?q HTTP/1.1\r\n\r\n" : Text).flatMap Utf8.encodePoint
    let t := Table.singlePage [0x68, 0x69]
    let s := Socket.ofIncoming []
    ∃ reply : Reply, reply.Decides buffer t .initial ∧
      (serve buffer t .initial s).outcome = .ok reply.response ∧
      (handle buffer t .initial (none : Option (Text × Handshake Unit)) s).socket =
        (serve buffer t .initial s).socket ∧
      reply.response.status = 200 ∧ reply.response.body = [0x68, 0x69] ∧
      reply.rootAlias = ⟨"/", true⟩ := by
  intro buffer t s
  have hlatin : ∀ r ∈ t.toList, r.headers.IsLatin1 := by
    intro r hr line hline
    cases List.mem_singleton.1 hr
    cases List.mem_singleton.1 hline
    exact ⟨rfl, rfl⟩
  obtain ⟨reply, line, head, s', log, hdecides, _, _, _, hserve, hhandle, _⟩ :=
    handle_serve_decide Unit buffer t .initial s (fun _ => rfl) hlatin
  have hasks : Request.Asks buffer ⟨"GET", "/?q", []⟩ := Request.parse_eq_ok_iff.1 rfl
  have hpick : RootAlias.pick? t = some ("/" : Text) := by
    rw [RootAlias.pick?, Table.find?_eq, Table.find?_eq]
    rfl
  have hresolve : (RootAlias.initial.resolve t).1 = "/" ∧
      (RootAlias.initial.resolve t).2.1 = ⟨"/", true⟩ := by
    rw [RootAlias.resolve, hpick]
    exact ⟨rfl, rfl⟩
  have hanswers := hdecides.answers _ hasks
  obtain ⟨halias, _⟩ := hanswers.atRoot (.inl rfl) (.inr rfl)
  obtain ⟨_, hfound⟩ := hanswers.found (.inl rfl) _ (by rw [Request.target, hresolve.1]; rfl)
  refine ⟨reply, hdecides, by rw [hserve], by rw [hserve, hhandle], ?_, ?_, ?_⟩
  · rw [hfound]
    rfl
  · rw [hfound]
    rfl
  · rw [halias, hresolve.2]

end Exchange
end AssetBundle
