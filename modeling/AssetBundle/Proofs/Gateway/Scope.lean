import AssetBundle.Gateway.App
import AssetBundle.Proofs.Http.Response
import AssetBundle.Proofs.Text.Case

/-!
# AssetBundle.Proofs.Gateway.Scope

Requests as a gateway server describes them. Such a description always gives a request
(`toRequest_toScope`), and what is answered to it is the reply to that request in the form of the
gateway (`page_toScope`): the names of its header lines are in lower case, and the line that speaks
of the connection is left out (`encodeHeaders_eq_ok`). On a channel that takes everything the page
is sent as two messages (`call_ok`).
-/

namespace AssetBundle

/-- The description of a request by a gateway server. Only the query may be missing. -/
structure HttpScope where
  method : Text
  path : Text
  query : Option Bytes
  headers : List (Bytes × Bytes)

namespace HttpScope

def toScope (h : HttpScope) : Scope where
  kind := some (.text "http")
  path := some (.text h.path)
  query := h.query.map .bytes
  headers := some (.list (h.headers.map fun f => .list [.bytes f.1, .bytes f.2]))
  method := some (.text h.method)

/-- The query behind its question mark. An empty query is none. -/
def queryPart (h : HttpScope) : Bytes :=
  match h.query with
  | none | some [] => []
  | some query => 0x3F :: query

/-- A header as a line, without its end. -/
def lineOf (f : Bytes × Bytes) : Bytes := f.1 ++ (Scope.separator ++ f.2)

def lines (h : HttpScope) : List Bytes := h.headers.map lineOf

/-- The request that is described. -/
def request (h : HttpScope) : Request :=
  ⟨h.method, h.path ++ Latin1.decode h.queryPart, List.intercalate Request.lineEnd h.lines⟩

theorem not_mem_of_mem_lines {h : HttpScope} (hheaders : ∀ f ∈ h.headers, 13 ∉ f.1 ∧ 13 ∉ f.2)
    {line : Bytes} (hline : line ∈ h.lines) : 13 ∉ line := by
  obtain ⟨f, hf, rfl⟩ := List.mem_map.1 hline
  obtain ⟨hname, hvalue⟩ := hheaders f hf
  have hseparator : (13 : UInt8) ∉ Scope.separator := by decide
  simp [lineOf, hname, hvalue, hseparator]

theorem headerLines_eq (headers : List (Bytes × Bytes)) :
    Scope.headerLines (headers.map fun f => .list [.bytes f.1, .bytes f.2]) =
      .ok (headers.map lineOf) := by
  induction headers with
  | nil => rfl
  | cons f headers ih =>
    have hline : Scope.headerLine (.list [.bytes f.1, .bytes f.2]) = .ok (lineOf f) := by
      rw [lineOf, ← List.append_assoc]
      rfl
    rw [List.map_cons, Scope.headerLines, hline]
    dsimp only
    rw [ih]
    rfl

theorem fullPath_eq (h : HttpScope) :
    Scope.fullPath (.text h.path) (h.query.map .bytes) = .ok (.text h.request.fullPath) := by
  rw [request, queryPart]
  cases h.query with
  | none => simp [Scope.fullPath, Latin1.decode]
  | some query =>
    cases query with
    | nil => simp [Scope.fullPath, Latin1.decode, Value.truthy]
    | cons b query => rfl

theorem toRequest_toScope (h : HttpScope) :
    h.toScope.toRequest =
      .ok ⟨.text h.request.method, .text h.request.fullPath, h.request.headerBlock⟩ := by
  rw [Scope.toRequest, toScope]
  dsimp only [Scope.field]
  rw [fullPath_eq]
  dsimp only [Scope.headerBlock, Value.elements?]
  rw [headerLines_eq]
  rfl

end HttpScope

/-- The header lines that a gateway passes on: all but that of the connection, with their names in
lower case. -/
def Headers.forwarded (hs : Headers) : Headers :=
  (hs.filter fun h => Text.lower h.1 ≠ "connection").map fun h => (Text.lower h.1, h.2)

/-- Header lines as they are read off a message. -/
def Headers.ofBytes (headers : List (Bytes × Bytes)) : Headers :=
  headers.map fun f => (Latin1.decode f.1, Latin1.decode f.2)

namespace Gateway

theorem encodeHeader_eq_ok {h : Header} (hname : Latin1.encodes h.1 = true)
    (hvalue : Latin1.encodes h.2 = true) :
    encodeHeader h = .ok (Latin1.bytes (Text.lower h.1), Latin1.bytes h.2) := by
  rw [encodeHeader, Latin1.encodeOrFail_eq_ok (Text.encodes_lower hname)]
  dsimp only
  rw [Latin1.encodeOrFail_eq_ok hvalue]

theorem encodeHeaders_eq_ok {hs : Headers} (h : hs.IsLatin1) :
    ∃ headers, encodeHeaders hs = .ok headers ∧ Headers.ofBytes headers = hs.forwarded := by
  induction hs with
  | nil => exact ⟨[], rfl, rfl⟩
  | cons line hs ih =>
    obtain ⟨⟨hname, hvalue⟩, hrest⟩ := List.forall_mem_cons.1 h
    obtain ⟨headers, hheaders, hread⟩ := ih hrest
    have hword : Text.lower line.1 = "connection" ↔ Text.isWord "connection" line.1 = true :=
      Text.lower_eq_iff (by decide) hname
    rw [encodeHeaders, Headers.forwarded, List.filter_cons]
    by_cases hown : Text.isWord "connection" line.1 = true
    · have hleft : ¬ decide (Text.lower line.1 ≠ "connection") = true :=
        fun h => of_decide_eq_true h (hword.2 hown)
      rw [if_pos hown, if_neg hleft]
      exact ⟨headers, hheaders, hread⟩
    · have hkept : decide (Text.lower line.1 ≠ "connection") = true :=
        decide_eq_true fun h => hown (hword.1 h)
      rw [if_neg hown, if_pos hkept, encodeHeader_eq_ok hname hvalue, hheaders]
      refine ⟨_, rfl, ?_⟩
      rw [Headers.ofBytes, List.map_cons, List.map_cons, ← Headers.forwarded, ← hread,
        Latin1.decode_bytes (Text.encodes_lower hname), Latin1.decode_bytes hvalue]
      rfl

/-- A response in the form of the gateway. -/
def pageOf (r : Response) : Outcome Page :=
  match encodeHeaders r.headers with
  | .error e => .error e
  | .ok headers => .ok ⟨r.status, headers, r.body⟩

variable (h : HttpScope) (t : Table) (a : RootAlias)

theorem page_toScope :
    page h.toScope t a =
      (pageOf (Reply.toRequest h.request t a).response,
        (Reply.toRequest h.request t a).rootAlias, (Reply.toRequest h.request t a).log) := by
  -- A method that is not allowed is refused before the request is looked at.
  have hreply : (if !Reply.allowed h.request.method then .ok ⟨.ofError 405, a, []⟩
      else .ok (Reply.toRequest h.request t a) : Outcome Reply) =
        .ok (Reply.toRequest h.request t a) := by
    rw [Reply.toRequest]
    cases Reply.allowed h.request.method <;> rfl
  rw [page, h.toRequest_toScope]
  dsimp only [LooseRequest.methodText?, LooseRequest.toRequest]
  rw [hreply, pageOf]
  dsimp only
  cases encodeHeaders (Reply.toRequest h.request t a).response.headers <;> rfl

theorem call_toScope (c : Channel) : call h.toScope t a c = http h.toScope t a c := rfl

/-- The alias is the one behind the reply, whatever becomes of the messages. -/
theorem rootAlias_call (c : Channel) :
    (call h.toScope t a c).2 = (Reply.toRequest h.request t a).rootAlias := by
  rw [call_toScope, http, page_toScope]
  cases pageOf (Reply.toRequest h.request t a).response with
  | error e =>
    dsimp only
    split <;> rfl
  | ok p =>
    dsimp only
    split <;> rfl

theorem send_ok {c : Channel} (hsend : ∀ n, c.sendFault n = none) (m : Message) :
    ∃ c', c.send m = (.ok (), c') ∧ c'.sent = c.sent ++ [m] ∧ ∀ n, c'.sendFault n = none := by
  rw [Channel.send, hsend]
  exact ⟨_, rfl, by simp [Channel.sent], hsend⟩

theorem sendPage_ok {c : Channel} (hsend : ∀ n, c.sendFault n = none) (p : Page) :
    ∃ c', sendPage p c = (.ok (), c') ∧ c'.sent = c.sent ++
      [.responseStart p.status p.headers, .responseBody p.body false] := by
  obtain ⟨started, hstart, hfirst, hsend⟩ := send_ok hsend (.responseStart p.status p.headers)
  obtain ⟨done, hdone, hlast, _⟩ := send_ok hsend (.responseBody p.body false)
  refine ⟨done, ?_, by rw [hlast, hfirst, List.append_assoc]; rfl⟩
  rw [sendPage, hstart]
  exact hdone

theorem call_ok {c : Channel} (hsend : ∀ n, c.sendFault n = none)
    (hlatin : (Reply.toRequest h.request t a).response.headers.IsLatin1) :
    ∃ headers, (call h.toScope t a c).1.outcome = .ok () ∧
      (call h.toScope t a c).1.channel.sent = c.sent ++
        [.responseStart (Reply.toRequest h.request t a).response.status headers,
          .responseBody (Reply.toRequest h.request t a).response.body false] ∧
      Headers.ofBytes headers = (Reply.toRequest h.request t a).response.headers.forwarded := by
  obtain ⟨headers, hheaders, hread⟩ := encodeHeaders_eq_ok hlatin
  have hpage : pageOf (Reply.toRequest h.request t a).response =
      .ok ⟨(Reply.toRequest h.request t a).response.status, headers,
        (Reply.toRequest h.request t a).response.body⟩ := by
    rw [pageOf, hheaders]
  obtain ⟨c', hc, hsent⟩ := sendPage_ok hsend ⟨(Reply.toRequest h.request t a).response.status,
    headers, (Reply.toRequest h.request t a).response.body⟩
  rw [call_toScope, http, page_toScope, hpage]
  dsimp only
  rw [hc]
  exact ⟨headers, rfl, hsent, hread⟩

end Gateway
end AssetBundle
