import AssetBundle.Proofs.Connection.Sending
import AssetBundle.Proofs.Gateway.Wire
import AssetBundle.Proofs.Http.ResponseReading
import AssetBundle.Proofs.Http.Revalidation

/-!
# AssetBundle.Proofs.Http.HeadMethod

What a HEAD request gets. For one path and header block it is answered like the GET request, status
and header lines alike, and an asset that was not modified is described like the asset itself except
for its length (`toRequest_parity`). The answer is a head alone if there is an asset at the path;
the page for a missing one is sent with its body (`serve_head`).
-/

namespace AssetBundle

namespace Request

/-- Whether a header names versions. -/
def isCondition (field : Text × Text) : Bool := field.1 = ("if-none-match" : Text)

/-- The request without its lines that name versions. -/
def unconditional (request : Request) : Request :=
  { request with
    headerBlock := List.intercalate lineEnd <|
      (Sequence.splitOn lineEnd request.headerBlock).filter fun line =>
        !(readLine? line).any isCondition }

theorem fields_unconditional (request : Request) :
    request.unconditional.fields = request.fields.filter fun field => !isCondition field := by
  have hlines : ∀ line ∈ (Sequence.splitOn lineEnd request.headerBlock).filter
      (fun line => !(readLine? line).any isCondition), ¬ lineEnd <:+: line := fun line hline =>
    (Sequence.isPiece_of_mem_splitOn (by decide) (List.mem_filter.1 hline).1).unbroken
  rw [fields, unconditional, filterMap_readLine?_intercalate hlines, fields, List.filterMap_filter,
    List.filter_filterMap]
  congr 1
  funext line
  cases readLine? line with
  | none => rfl
  | some field => cases hfield : isCondition field <;> simp [hfield, Option.filter]

theorem isReading_unconditional {request : Request} :
    request.unconditional.IsReading ↔ request.IsReading := Iff.rfl

end Request

theorem Revalidation.notModified_unconditional (r : Record) (request : Request) :
    notModified r request.unconditional = false := by
  rw [notModified]
  split
  · rfl
  · rw [Request.fields_unconditional, List.any_eq_false]
    intro field hfield hmatch
    have hkept := (List.mem_filter.1 hfield).2
    rw [Request.isCondition, (Bool.and_eq_true_iff.1 hmatch).1] at hkept
    cases hkept

namespace Reply

open Response (sizeLine)

theorem toRequest_parity (path : Text) (block : Bytes) (t : Table) (a : RootAlias) :
    let get := toRequest ⟨"GET", path, block⟩ t a
    let head := toRequest ⟨"HEAD", path, block⟩ t a
    head.response.status = get.response.status ∧ head.response.headers = get.response.headers ∧
      head.rootAlias = get.rootAlias ∧ head.log = get.log ∧
      (get.response.status = 200 → head.response.body = [] ∧
        ∃ front, get.response.headers = front ++ [sizeLine get.response.body.length]) ∧
      (get.response.status = 304 → ∀ method : Text, method = "GET" ∨ method = "HEAD" →
        let request : Request := ⟨method, path, block⟩
        let own := toRequest request t a
        let plain := toRequest request.unconditional t a
        own.response.body = [] ∧ plain.response.status = 200 ∧ plain.rootAlias = own.rootAlias ∧
          ∃ front length, plain.response.headers = front ++ [sizeLine length] ∧
            own.response.headers = front ++ [sizeLine 0]) := by
  intro get head
  have hget : Request.IsReading ⟨"GET", path, block⟩ := .inl rfl
  have hhead : Request.IsReading ⟨"HEAD", path, block⟩ := .inr rfl
  have hstate : head.rootAlias = get.rootAlias ∧ head.log = get.log := by
    refine ⟨?_, ?_⟩ <;> rw [show head = _ from toRequest_of_reading hhead,
      show get = _ from toRequest_of_reading hget] <;> rfl
  -- Where a request is looked up depends on its path alone.
  cases hfind : t.toList.find? fun r => r.url = Request.target ⟨"GET", path, block⟩ t a with
  | none =>
    have hown : get.response = .ofError 404 := response_of_none hget hfind
    have hother : head.response = .ofError 404 := response_of_none hhead hfind
    rw [hown, hother]
    exact ⟨rfl, rfl, hstate.1, hstate.2, fun h => absurd h (by decide),
      fun h => absurd h (by decide)⟩
  | some r =>
    have hfront := Response.composeHeaders_eq r.headers
    have hown := response_of_some hget hfind
    have hother : head.response = _ := response_of_some hhead hfind
    change get.response = _ at hown
    have hblock : ∀ method, Revalidation.notModified r ⟨method, path, block⟩ =
        Revalidation.notModified r ⟨"GET", path, block⟩ := fun _ => rfl
    rw [hblock] at hother
    cases hmodified : Revalidation.notModified r ⟨"GET", path, block⟩ with
    | false =>
      rw [hmodified, if_neg Bool.false_ne_true] at hown hother
      rw [hown, hother]
      exact ⟨rfl, rfl, hstate.1, hstate.2, fun _ => ⟨rfl, _, hfront r.size⟩,
        fun h => absurd h (by simp)⟩
    | true =>
      rw [hmodified, if_pos rfl] at hown hother
      rw [hown, hother]
      refine ⟨rfl, rfl, hstate.1, hstate.2, fun h => absurd h (by simp), fun _ method hmethod => ?_⟩
      intro request own plain
      have halias : plain.rootAlias = own.rootAlias := by
        rw [show own = _ from toRequest_of_reading hmethod,
          show plain = _ from toRequest_of_reading (Request.isReading_unconditional.2 hmethod)]
        rfl
      have hsent : own.response = _ := response_of_some hmethod hfind
      have hplain : plain.response = _ :=
        response_of_some (Request.isReading_unconditional.2 hmethod) hfind
      rw [hblock, hmodified, if_pos rfl] at hsent
      rw [Revalidation.notModified_unconditional, if_neg Bool.false_ne_true] at hplain
      rw [hsent, hplain]
      exact ⟨rfl, rfl, halias, _, r.size, hfront r.size, hfront 0⟩

end Reply

/-- An encoded head ends in an empty line. -/
theorem Response.headEnd_suffix {r : Response} {head : Bytes} (h : r.encodeHead = .ok head) :
    Request.headEnd <:+ head := by
  rw [(Latin1.of_encodeOrFail h).2, bytes_headText]
  exact List.suffix_append _ _

namespace Exchange

open Request (headEnd)

variable {buffer : Bytes} {request : Request}

theorem socket_serve (hparse : Request.parse buffer = .ok request) (t : Table) (a : RootAlias)
    (s : Socket) :
    (serve buffer t a s).socket = (deliver (Reply.toRequest request t a).response s).2 := by
  rw [serve_eq, Reply.toBuffer, hparse]

/-- A buffer that is read as a request goes the same way if it is handled without a handshake. -/
theorem socket_handle {α : Type} (hparse : Request.parse buffer = .ok request) (t : Table)
    (a : RootAlias) (s : Socket) :
    (handle buffer t a (none : Option (Text × Handshake α)) s).socket =
      (serve buffer t a s).socket := by
  have hend : Sequence.contains headEnd buffer = true := by
    rw [Sequence.contains_iff_infix]
    by_contra hnone
    exact Request.isMalformed_iff.1 (.inl hnone) ⟨request, Request.parse_eq_ok_iff.1 hparse⟩
  rw [handle_none, if_pos hend]

/-- What is sent for a HEAD request. It is the head of the response alone if there is a record at
its path, and the head and the body of the page for a missing one if there is none. -/
theorem serve_head (α : Type) (hparse : Request.parse buffer = .ok request)
    (hmethod : request.method = "HEAD") (t : Table) (a : RootAlias) (s : Socket) :
    ∃ chunks, (serve buffer t a s).socket.sent = s.sent ++ chunks ∧
      (handle buffer t a (none : Option (Text × Handshake α)) s).socket =
        (serve buffer t a s).socket ∧
      (∀ r, t.find? (request.target t a) = some r → ∀ chunk ∈ chunks, chunks = [chunk] ∧
        (Reply.toRequest request t a).response.encodeHead = .ok chunk ∧ headEnd <:+ chunk ∧
        (Headers.isLineSet r.contentType = true → ∃ left, Sequence.IsCut headEnd chunk left [])) ∧
      (t.find? (request.target t a) = none →
        chunks <+: [Latin1.bytes (Response.ofError 404).headText, Latin1.bytes "Not Found\n"]) ∧
      ((∀ n, s.sendFault n = none) → (∀ r ∈ t.toList, r.headers.IsLatin1) →
        chunks.length = if (t.find? (request.target t a)).isSome then 1 else 2) := by
  have hreading : request.IsReading := .inr hmethod
  obtain ⟨chunks, hsent, hchunks⟩ := sent_deliver (Reply.toRequest request t a).response s
  have hserved : (serve buffer t a s).socket.sent = s.sent ++ chunks := by
    rw [socket_serve hparse, hsent]
  refine ⟨chunks, hserved, socket_handle hparse t a s, ?_, ?_, ?_⟩
  · intro r hfind chunk hchunk
    rw [t.find?_eq] at hfind
    obtain ⟨status, length, hresponse⟩ : ∃ status length, (Reply.toRequest request t a).response =
        ⟨status, Response.composeHeaders r.headers length, []⟩ := by
      rw [Reply.response_of_some hreading hfind, hmethod]
      split
      · exact ⟨304, 0, rfl⟩
      · exact ⟨200, r.size, rfl⟩
    rw [hresponse] at hchunks ⊢
    rcases hchunks with rfl | ⟨head, hhead, hprefix⟩
    · cases hchunk
    · have hown : chunks <+: [head] := hprefix
      obtain rfl : chunks = [head] := hown.eq_of_length_le (List.length_pos_of_mem hchunk)
      obtain rfl := List.mem_singleton.1 hchunk
      obtain ⟨hlatin, hbytes⟩ := Latin1.of_encodeOrFail hhead
      refine ⟨rfl, hhead, Response.headEnd_suffix hhead, fun hset => ?_⟩
      have hplain := Response.isPlain_composeHeaders (Headers.isPlain_of_parse hset r.parsed) length
      have hcut := Response.isCut_headText hplain hlatin []
      rw [← hbytes, List.append_nil] at hcut
      exact ⟨_, hcut⟩
  · intro hfind
    rw [t.find?_eq] at hfind
    rw [Reply.response_of_none hreading hfind] at hchunks
    rcases hchunks with rfl | ⟨head, hhead, hprefix⟩
    · exact List.nil_prefix
    · rw [(Latin1.of_encodeOrFail hhead).2] at hprefix
      exact hprefix
  · intro hsend hlatin
    obtain ⟨head, _, _, hall⟩ := serve_ok hparse hsend
      ((Reply.toRequest_answers request t a).isLatin1 hlatin)
    rw [hserved, List.append_right_inj] at hall
    rw [hall, t.find?_eq]
    cases hfind : t.toList.find? fun r => r.url = request.target t a with
    | none =>
      rw [Reply.response_of_none hreading hfind]
      rfl
    | some r =>
      rw [Reply.response_of_some hreading hfind, hmethod]
      split <;> rfl

/-- Nothing is at the path, and its page is sent. -/
theorem serve_head_missing :
    let buffer := ("HEAD /nope HTTP/1.1\r\n\r\n" : Text).flatMap Utf8.encodePoint
    (serve buffer (Table.singlePage [0x68, 0x69]) .initial (.ofIncoming [])).socket.sent =
      [Latin1.bytes (Response.ofError 404).headText, Latin1.bytes "Not Found\n"] := by
  intro buffer
  have hparse : Request.parse buffer = .ok ⟨"HEAD", "/nope", []⟩ := rfl
  have hlatin : ∀ r ∈ (Table.singlePage [0x68, 0x69]).toList, r.headers.IsLatin1 := by
    intro r hr line hline
    cases List.mem_singleton.1 hr
    cases List.mem_singleton.1 hline
    exact ⟨rfl, rfl⟩
  have hnone : (Table.singlePage [0x68, 0x69]).find?
      (Request.target ⟨"HEAD", "/nope", []⟩ (Table.singlePage [0x68, 0x69]) .initial) = none := by
    rw [Table.find?_eq]
    rfl
  obtain ⟨chunks, hsent, _, _, hmissing, hlength⟩ := serve_head Unit hparse rfl
    (Table.singlePage [0x68, 0x69]) .initial (.ofIncoming [])
  have htwo := hlength (fun _ => rfl) hlatin
  rw [hnone] at htwo
  rw [hsent, (hmissing hnone).eq_of_length htwo]
  rfl

end Exchange
end AssetBundle
