import AssetBundle.Proofs.Gateway.Scope
import AssetBundle.Proofs.Http.Decision

/-!
# AssetBundle.Proofs.Gateway.Wire

One request on two ways. A description that a gateway server hands over can also be written as a
raw request, if nothing in its parts ends them early (`IsWritable`); reading that raw request gives
the request of the description (`parse_wire`). So it makes no difference to the answer on which way
a request comes: the gateway sends the status, the header lines and the body that are sent on the
raw connection, and the root alias is the same afterwards (`call_serve_agree`).
-/

namespace AssetBundle

/-- Whether a text can stand between the spaces of a request line. A line feed alone ends no
line. -/
def Text.IsToken (t : Text) : Prop := ∀ c ∈ t, c.val < 256 ∧ c.val ≠ 32 ∧ c.val ≠ 13

namespace Text

variable {t : Text}

theorem IsToken.encodes (h : IsToken t) : Latin1.encodes t = true :=
  List.all_eq_true.2 fun c hc => decide_eq_true (h c hc).1

theorem IsToken.bytes (h : IsToken t) : 32 ∉ Latin1.bytes t ∧ 13 ∉ Latin1.bytes t := by
  have hval : ∀ b ∈ Latin1.bytes t, b.toNat ≠ 32 ∧ b.toNat ≠ 13 := by
    intro b hb
    obtain ⟨c, hc, rfl⟩ := List.mem_map.1 hb
    obtain ⟨hlow, hother⟩ := h c hc
    rwa [UInt8.toNat_ofNat_of_lt' hlow]
  exact ⟨fun hmem => (hval 32 hmem).1 rfl, fun hmem => (hval 13 hmem).2 rfl⟩

end Text

namespace HttpScope

open Request (IsLine lineEnd headEnd)

/-- Whether a description can be written as a raw request: its method, path and query stay between
the spaces of the request line, and its headers each in a line. -/
structure IsWritable (h : HttpScope) : Prop where
  method : h.method.IsToken
  path : h.path.IsToken
  query : ∀ query, h.query = some query → 32 ∉ query ∧ 13 ∉ query
  headers : ∀ f ∈ h.headers, 13 ∉ f.1 ∧ 13 ∉ f.2

def version : Bytes := Latin1.bytes "HTTP/1.1"

def requestLine (h : HttpScope) : Bytes :=
  Latin1.bytes h.method ++ 0x20 :: ((Latin1.bytes h.path ++ h.queryPart) ++ 0x20 :: version)

/-- The description as a raw request with a body behind it. -/
def wire (h : HttpScope) (body : Bytes) : Bytes :=
  h.requestLine ++ (lineEnd ++
    (h.lines.flatMap (fun line => line ++ lineEnd) ++ (lineEnd ++ body)))

variable {h : HttpScope}

theorem not_mem_queryPart {b : UInt8} (hb : b ≠ 0x3F)
    (hquery : ∀ query, h.query = some query → b ∉ query) : b ∉ h.queryPart := by
  rw [queryPart]
  split
  · exact List.not_mem_nil
  · exact List.not_mem_nil
  · next query _ hsome =>
    rw [List.mem_cons, not_or]
    exact ⟨hb, hquery query hsome⟩

theorem isLine_of_mem (hwritable : h.IsWritable) {line : Bytes} (hline : line ∈ h.lines) :
    IsLine line := by
  refine .of_not_mem ?_ (not_mem_of_mem_lines hwritable.headers hline)
  obtain ⟨f, _, rfl⟩ := List.mem_map.1 hline
  simp [lineOf, Scope.separator]

theorem parse_wire (hwritable : h.IsWritable) (body : Bytes) :
    Request.parse (h.wire body) = .ok h.request := by
  have hquery : 32 ∉ h.queryPart ∧ 13 ∉ h.queryPart :=
    ⟨not_mem_queryPart (by decide) fun query hsome => (hwritable.query query hsome).1,
      not_mem_queryPart (by decide) fun query hsome => (hwritable.query query hsome).2⟩
  have htarget : 32 ∉ Latin1.bytes h.path ++ h.queryPart ∧
      13 ∉ Latin1.bytes h.path ++ h.queryPart := by
    rw [List.mem_append, not_or, List.mem_append, not_or]
    exact ⟨⟨hwritable.path.bytes.1, hquery.1⟩, hwritable.path.bytes.2, hquery.2⟩
  have hversion : (13 : UInt8) ∉ version := by decide
  rw [wire, Request.unlines_eq, requestLine, Request.parse_lines hwritable.method.bytes htarget
    hversion (fun _ => isLine_of_mem hwritable) body, Latin1.decode_append,
    Latin1.decode_bytes hwritable.method.encodes, Latin1.decode_bytes hwritable.path.encodes]
  rfl

end HttpScope

namespace Exchange

variable {buffer : Bytes} {request : Request} {t : Table} {a : RootAlias} {s : Socket}

theorem rootAlias_serve (hparse : Request.parse buffer = .ok request) :
    (serve buffer t a s).rootAlias = (Reply.toRequest request t a).rootAlias := by
  rw [serve_eq, Reply.toBuffer, hparse]

/-- The response to a raw request is sent, where no send fails and its header lines are in
Latin-1. -/
theorem serve_ok (hparse : Request.parse buffer = .ok request)
    (hsend : ∀ n, s.sendFault n = none)
    (hlatin : (Reply.toRequest request t a).response.headers.IsLatin1) :
    ∃ head, (serve buffer t a s).outcome = .ok (Reply.toRequest request t a).response ∧
      (Reply.toRequest request t a).response.encodeHead = .ok head ∧
      (serve buffer t a s).socket.sent = s.sent ++ head ::
        (if (Reply.toRequest request t a).response.body.isEmpty then []
          else [(Reply.toRequest request t a).response.body]) := by
  have hreply : (Reply.toBuffer buffer t a).response = (Reply.toRequest request t a).response := by
    rw [Reply.toBuffer, hparse]
  have hhead := Response.encodeHead_eq_ok hlatin
  obtain ⟨s', hdeliver, hsent⟩ := deliver_ok hsend hhead
  rw [serve, hreply, hdeliver]
  exact ⟨_, rfl, hhead, hsent⟩

end Exchange

namespace Gateway

/-- A request gets the same answer on both ways. It is read as the same request, the root alias is
the same afterwards, and where no send fails the same status, header lines and body are sent. -/
theorem call_serve_agree {h : HttpScope} (hwritable : h.IsWritable) (body : Bytes) (t : Table)
    (hlatin : ∀ r ∈ t.toList, r.headers.IsLatin1) (a : RootAlias) :
    (∃ loose request, h.toScope.toRequest = .ok loose ∧ loose.toRequest = .ok request ∧
      Request.parse (h.wire body) = .ok request) ∧
    ∀ (s : Socket) (c : Channel),
      (call h.toScope t a c).2 = (Exchange.serve (h.wire body) t a s).rootAlias ∧
      ((∀ n, s.sendFault n = none) → (∀ n, c.sendFault n = none) →
        ∃ (response : Response) (head : Bytes) (headers : List (Bytes × Bytes)),
          (Exchange.serve (h.wire body) t a s).outcome = .ok response ∧
          response.encodeHead = .ok head ∧
          (Exchange.serve (h.wire body) t a s).socket.sent =
            s.sent ++ head :: (if response.body.isEmpty then [] else [response.body]) ∧
          (call h.toScope t a c).1.outcome = .ok () ∧
          (call h.toScope t a c).1.channel.sent = c.sent ++
            [.responseStart response.status headers, .responseBody response.body false] ∧
          Headers.ofBytes headers = response.headers.forwarded) := by
  have hparse := HttpScope.parse_wire hwritable body
  have hreply : (Reply.toRequest h.request t a).response.headers.IsLatin1 :=
    (Reply.toRequest_answers h.request t a).isLatin1 hlatin
  refine ⟨⟨_, h.request, h.toRequest_toScope, rfl, hparse⟩, fun s c => ⟨?_, ?_⟩⟩
  · rw [rootAlias_call, Exchange.rootAlias_serve hparse]
  · intro hsocket hchannel
    obtain ⟨head, hserved, hhead, hsent⟩ := Exchange.serve_ok hparse hsocket hreply
    obtain ⟨headers, hcalled, hmessages, hread⟩ := call_ok h t a hchannel hreply
    exact ⟨_, head, headers, hserved, hhead, hsent, hcalled, hmessages, hread⟩

/-- A page that is asked for with a query, a header without a name, and a body. -/
theorem call_serve_agree_query :
    let h : HttpScope := ⟨"GET", "/a", some [0x71], [([0x48], [0x78]), ([], [])]⟩
    let r : Record := ⟨"/a", "text/plain", [0x68, 0x69], [("Content-Type", "text/plain")], by rfl⟩
    let t := Table.ofRecords [r]
    let s := Socket.ofIncoming []
    let c : Channel := ⟨[], .noTerminator, fun _ => none, 0, []⟩
    h.wire [1] =
        ("GET /a?q HTTP/1.1\r\nH: x\r\n: \r\n\r\n" : Text).flatMap Utf8.encodePoint ++ [1] ∧
      ∃ response headers, (Exchange.serve (h.wire [1]) t .initial s).outcome = .ok response ∧
        response.status = 200 ∧ response.body = [0x68, 0x69] ∧
        (call h.toScope t .initial c).1.channel.sent =
          [.responseStart 200 headers, .responseBody [0x68, 0x69] false] ∧
        Headers.ofBytes headers = response.headers.forwarded := by
  intro h r t s c
  have hwritable : h.IsWritable := by
    have htoken : ∀ t : Text, (t.all fun c => c.val < 256 && c.val ≠ 32 && c.val ≠ 13) = true →
        t.IsToken := by
      intro t ht
      simpa [Text.IsToken, and_assoc] using ht
    exact ⟨htoken _ rfl, htoken _ rfl, by decide, by decide⟩
  have hlatin : ∀ r ∈ t.toList, r.headers.IsLatin1 := by
    intro r hr line hline
    cases List.mem_singleton.1 hr
    cases List.mem_singleton.1 hline
    exact ⟨rfl, rfl⟩
  obtain ⟨_, hagree⟩ := call_serve_agree hwritable [1] t hlatin .initial
  obtain ⟨response, _, headers, hserved, _, _, _, hmessages, hread⟩ :=
    (hagree s c).2 (fun _ => rfl) fun _ => rfl
  have hfind : (t.toList.find? fun r => r.url = h.request.target t .initial) = some r := rfl
  have hreply : (Reply.toRequest h.request t .initial).response =
      ⟨200, Response.composeHeaders r.headers r.size, r.payload⟩ := by
    rw [Reply.toRequest_of_reading (.inl rfl), Reply.lookUp_of_some (.inl rfl) hfind]
    rfl
  obtain ⟨_, hown, _⟩ := Exchange.serve_ok (HttpScope.parse_wire hwritable [1])
    (fun _ => rfl : ∀ n, s.sendFault n = none)
    ((Reply.toRequest_answers h.request t .initial).isLatin1 hlatin)
  rw [hreply] at hown
  cases hserved.symm.trans hown
  exact ⟨by decide +kernel, _, headers, hserved, rfl, rfl, hmessages, hread⟩

end Gateway
end AssetBundle
