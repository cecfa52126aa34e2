import AssetBundle.Proofs.Connection.Sending
import AssetBundle.Proofs.Http.Decision
import AssetBundle.Proofs.Http.ResponseReading

/-!
# AssetBundle.Proofs.Http.Delivery

What is delivered is read back. Header lines that were read hold every name once, with its last line
(`isReadOf_ofList`), and no header line and no body can end a head early. So a response comes
through a connection unchanged, and so does every answer to a request, if the content types of the
assets are sets of complete lines or media types that stay in their lines (`parse_deliver`).
-/

namespace AssetBundle

namespace Fields

/-- Whether header lines that were read are those that were written, as a mapping from names in any
case: a name is there once, with its last line. -/
structure IsReadOf (read written : Headers) : Prop where
  nodup : (read.map fun h => Text.lower h.1).Nodup
  find? : ∀ name : Text, read.find? (fun h => Text.lower h.1 = Text.lower name) =
    (written.filter fun h => Text.lower h.1 = Text.lower name).getLast?

theorem isReadOf_ofList (hs : Headers) : IsReadOf (ofList hs) hs := by
  have hkeys : (ofList hs).map (fun h => Text.lower h.1) = (hs.foldl put []).map Prod.fst := by
    rw [ofList, List.map_map]
    exact List.map_congr_left fun pair hpair => (key_of_mem hs pair hpair).symm
  refine ⟨?_, fun _ => find?_ofList hs⟩
  rw [hkeys, foldl_put_eq]
  exact Keyed.nodup_keys_ofList _

end Fields

namespace Headers

variable {contentType : Text} {hs : Headers}

/-- Whether a content type is a set of complete lines, or a media type that is read back as the
value of its line. -/
def IsSendable (contentType : Text) : Prop :=
  lineEnd <:+ contentType ∨ (Text.trim contentType = contentType ∧ ¬ lineEnd <:+: contentType)

theorem isPlain_of_isSendable (hsendable : IsSendable contentType)
    (hparse : parse contentType = .ok hs) : ∀ h ∈ hs, IsPlain h := by
  by_cases hset : isLineSet contentType = true
  · exact isPlain_of_parse hset hparse
  · obtain ⟨htrim, hline⟩ :=
      hsendable.resolve_left fun hend => hset (List.isSuffixOf_iff_suffix.2 hend)
    rw [parse, if_neg hset] at hparse
    cases hparse
    have hname : IsPlain ("Content-Type", []) := isPlain_of_value (by decide) (by decide) rfl
    exact List.forall_mem_singleton.2
      ⟨hname.noColon, hname.nameInLine, hline, hname.trimmedName, htrim⟩

theorem isLatin1_of_parse (hlatin : Latin1.encodes contentType = true)
    (hparse : parse contentType = .ok hs) : hs.IsLatin1 := by
  have hall := List.all_eq_true.1 hlatin
  rw [parse] at hparse
  split at hparse
  · intro h hh
    rcases mem_of_parseLines hparse h hh with hnone | ⟨line, hline, hread⟩
    · cases hnone
    · rw [parseLine] at hread
      split at hread
      · next name value hcut =>
        obtain ⟨rfl, _⟩ := Sequence.cutAt?_singleton_iff.1 hcut
        cases hread
        -- The name and the value are parts of the line, and the line is one of the content type.
        have hkept : ∀ c ∈ name ++ 0x3A :: value, Latin1.encodable c = true := fun c hc =>
          hall c (Sequence.mem_of_mem_splitOn (List.mem_filter.1 hline).1 hc)
        have hname := (Sequence.trim_infix CodePoint.isBlank name).subset
        have hvalue := (Sequence.trim_infix CodePoint.isBlank value).subset
        exact ⟨List.all_eq_true.2 fun c hc => hkept c (List.mem_append_left _ (hname hc)),
          List.all_eq_true.2 fun c hc =>
            hkept c (List.mem_append_right _ (List.mem_cons_of_mem _ (hvalue hc)))⟩
      · cases hread
  · cases hparse
    exact List.forall_mem_singleton.2 ⟨rfl, hlatin⟩

end Headers

namespace Exchange

open Headers (IsPlain IsSendable)

variable {s : Socket}

theorem parse_chunksOf {response : Response} {head : Bytes}
    (hhead : response.encodeHead = .ok head) (hplain : ∀ h ∈ response.headers, Headers.IsPlain h)
    (hstatus : Integer.isTooLong response.status = false) :
    Response.parse (chunksOf head response).flatten =
      .ok ⟨response.status, Fields.ofList response.headers, response.body⟩ := by
  obtain ⟨hlatin, rfl⟩ := Latin1.of_encodeOrFail hhead
  rw [flatten_chunksOf, Response.parse_headText hplain hlatin hstatus]

/-- Whether a response comes through a connection: it is delivered, and reading what was sent for it
gives its status, its header lines by their names, and its body. -/
def ComesThrough (response : Response) (s : Socket) : Prop :=
  ∃ (s' : Socket) (chunks : List Bytes) (headers : Headers),
    deliver response s = (.ok (), s') ∧ s'.sent = s.sent ++ chunks ∧
      Response.parse chunks.flatten = .ok ⟨response.status, headers, response.body⟩ ∧
        Fields.IsReadOf headers response.headers

theorem comesThrough_of_isPlain {response : Response} (hsend : ∀ n, s.sendFault n = none)
    (hstatus : (Nat.toDigits 10 response.status.natAbs).length ≤ 4300)
    (hplain : ∀ h ∈ response.headers, IsPlain h) (hlatin : response.headers.IsLatin1) :
    ComesThrough response s := by
  have hhead := Response.encodeHead_eq_ok hlatin
  obtain ⟨s', hdeliver, hsent⟩ := deliver_ok hsend hhead
  have hparse := parse_chunksOf hhead hplain (decide_eq_false (Nat.not_lt.2 hstatus))
  exact ⟨s', _, _, hdeliver, hsent, hparse, Fields.isReadOf_ofList response.headers⟩

/-- What is answered to a request is plain if the assets are. -/
theorem isPlain_toRequest {t : Table} (hsendable : ∀ r ∈ t.toList, IsSendable r.contentType)
    (request : Request) (a : RootAlias) :
    ∀ h ∈ (Reply.toRequest request t a).response.headers, IsPlain h := by
  have hpage : ∀ status : Int, ∀ h ∈ (Response.ofError status).headers, IsPlain h := fun status =>
    Response.isPlain_composeHeaders (List.forall_mem_singleton.2
      (Headers.isPlain_of_value (by decide) (by decide) (by decide))) _
  by_cases hreading : request.IsReading
  · cases hfind : t.toList.find? fun r => r.url = request.target t a with
    | none =>
      rw [Reply.response_of_none hreading hfind]
      exact hpage 404
    | some r =>
      have hplain := Headers.isPlain_of_isSendable
        (hsendable r (List.mem_of_find?_eq_some hfind)) r.parsed
      rw [Reply.response_of_some hreading hfind]
      split <;> exact Response.isPlain_composeHeaders hplain _
  · rw [Reply.toRequest_of_not_reading hreading]
    exact hpage 405

/-- A response with plain header lines in Latin-1 comes through, whatever its body, and so does
what is answered to a request. -/
theorem parse_deliver (hsend : ∀ n, s.sendFault n = none) :
    (∀ response : Response, (Nat.toDigits 10 response.status.natAbs).length ≤ 4300 →
      (∀ h ∈ response.headers, IsPlain h) → response.headers.IsLatin1 → ComesThrough response s) ∧
    ∀ (request : Request) (t : Table) (a : RootAlias),
      (∀ r ∈ t.toList, IsSendable r.contentType ∧ r.headers.IsLatin1) →
        ComesThrough (Reply.toRequest request t a).response s := by
  refine ⟨fun response => comesThrough_of_isPlain hsend, fun request t a hassets => ?_⟩
  have hanswers := Reply.toRequest_answers request t a
  have hshort : ∀ status ∈ ([200, 304, 404, 405] : List Int),
      (Nat.toDigits 10 status.natAbs).length ≤ 4300 := by decide
  exact comesThrough_of_isPlain hsend (hshort _ hanswers.status_mem)
    (isPlain_toRequest (fun r hr => (hassets r hr).1) request a)
    (hanswers.isLatin1 fun r hr => (hassets r hr).2)

/-- A name in two spellings, a return inside a value, an empty header and a body that looks like the
end of a head come through, and so does an asset whose lines are padded with blanks. -/
theorem parse_deliver_repeated :
    let response : Response :=
      ⟨-7, [("Vary", "a\rb"), ([], []), ("VARY", "c")], Request.headEnd⟩
    let contentType : Text := " Vary : a\rb \r\n\r\n: \r\n"
    let r : Record := ⟨"/a", contentType, Request.headEnd, [("Vary", "a\rb"), ([], [])], by rfl⟩
    let s := Socket.ofIncoming []
    (∃ s' chunks headers, deliver response s = (.ok (), s') ∧ s'.sent = chunks ∧
      Response.parse chunks.flatten = .ok ⟨-7, headers, Request.headEnd⟩ ∧
        headers.find? (fun h => Text.lower h.1 = Text.lower "vary") =
          some (("VARY", "c") : Header)) ∧
      ComesThrough (Reply.toRequest ⟨"GET", "/a", []⟩ (.ofRecords [r]) .initial).response s := by
  intro response contentType r s
  obtain ⟨hresponse, hanswer⟩ := parse_deliver (s := s) fun _ => rfl
  have hplain : ∀ h ∈ response.headers, IsPlain h := by
    intro h hh
    have hparts : ∀ h ∈ response.headers, CodePoint.ofChar ':' ∉ h.1 ∧ ¬ Headers.lineEnd <:+: h.1 ∧
        ¬ Headers.lineEnd <:+: h.2 ∧ Text.trim h.1 = h.1 ∧ Text.trim h.2 = h.2 := by decide
    obtain ⟨hcolon, hname, hvalue, htrimName, htrimValue⟩ := hparts h hh
    exact ⟨hcolon, hname, hvalue, htrimName, htrimValue⟩
  have hlatin : response.headers.IsLatin1 := by
    have hencodes : ∀ h ∈ response.headers,
      Latin1.encodes h.1 = true ∧ Latin1.encodes h.2 = true := by decide
    exact hencodes
  obtain ⟨s', chunks, headers, hdeliver, hsent, hparse, hread⟩ :=
    hresponse response (by decide) hplain hlatin
  refine ⟨⟨s', chunks, headers, hdeliver, hsent, hparse, hread.find? "vary"⟩,
    hanswer _ _ _ fun r' hr' => ?_⟩
  cases List.mem_singleton.1 hr'
  exact ⟨.inl (List.isSuffixOf_iff_suffix.1 rfl), Headers.isLatin1_of_parse rfl r.parsed⟩

end Exchange
end AssetBundle
