import AssetBundle.Proofs.Gateway.Wire
import AssetBundle.Proofs.Http.Delivery
import AssetBundle.Proofs.Http.RequestReading
import AssetBundle.Proofs.Http.Revalidation

/-!
# AssetBundle.Proofs.Http.EntityTag

An entity tag on its way to a client and back. The tag of an asset is found in the response to a
plain request, whatever characters it has (`Record.HasTag.value?_ofList`). Sent back as the value of
an `If-None-Match` line it is found in the request again, but the value is taken for a list: a tag
with a comma falls apart and never matches (`lists_inQuotes_iff`). So just the tags without a comma
spare the client the asset (`revalidate_served`).
-/

namespace AssetBundle

namespace Text

/-- A text in double quotes. -/
def inQuotes (t : Text) : Text := ("\"" : Text) ++ (t ++ ("\"" : Text))

theorem mem_inQuotes {t : Text} {c : CodePoint} :
    c ∈ t.inQuotes ↔ c = CodePoint.ofChar '"' ∨ c ∈ t := by
  have hquote : ("\"" : Text) = [CodePoint.ofChar '"'] := rfl
  rw [inQuotes, hquote, List.mem_append, List.mem_append, List.mem_singleton]
  tauto

theorem encodes_inQuotes (t : Text) : Latin1.encodes t.inQuotes = Latin1.encodes t := by
  have hquote : Latin1.encodes ("\"" : Text) = true := rfl
  rw [inQuotes, Latin1.encodes_append, Latin1.encodes_append, hquote, Bool.true_and, Bool.and_true]

end Text

namespace Revalidation

open CaseMapping (upperPoint)

variable {tag : Text}

/-- Quotes at both ends keep the blanks between them. -/
theorem trim_inQuotes (tag : Text) : Text.trim tag.inQuotes = tag.inQuotes := by
  have hquote : CodePoint.isBlank (CodePoint.ofChar '"') = false := by decide
  refine Headers.trim_eq_self (fun c hc => ?_) fun c hc => ?_
  · cases hc
    exact hquote
  · rw [Text.inQuotes, ← List.append_assoc, List.getLast?_append] at hc
    cases hc
    exact hquote

theorem trim_quotes_inQuotes (hquote : CodePoint.ofChar '"' ∉ tag) :
    Sequence.trim Record.isDoubleQuote tag.inQuotes = tag := by
  have hends : ∀ c ∈ ("\"" : Text), Record.isDoubleQuote c = true :=
    List.all_eq_true.1 rfl
  refine Sequence.trim_append hends hends fun c hc => ?_
  rw [Bool.eq_false_iff]
  intro hc'
  obtain rfl : c = Quoted.doubleQuote := of_decide_eq_true hc'
  exact hquote hc

theorem tagBody_inQuotes (hquote : CodePoint.ofChar '"' ∉ tag) :
    tagBody tag.inQuotes = Text.upper tag := by
  have hmark : weakMark.isPrefixOf tag.inQuotes = false := rfl
  rw [tagBody, trim_inQuotes, hmark, if_neg Bool.false_ne_true, trim_quotes_inQuotes hquote]

/-- In Latin-1 nothing but a comma has one in its upper case. -/
theorem comma_mem_upper_iff {t : Text} (ht : Latin1.encodes t = true) :
    CodePoint.ofChar ',' ∈ Text.upper t ↔ CodePoint.ofChar ',' ∈ t := by
  have hascii : ∀ b : Fin 128, let c : CodePoint := b.castLE (by decide)
      CodePoint.ofChar ',' ∈ upperPoint c → c = CodePoint.ofChar ',' := by
    decide
  rw [Text.upper, List.mem_flatMap]
  constructor
  · rintro ⟨c, hc, hcomma⟩
    have hlow : c.val < 256 := of_decide_eq_true (List.all_eq_true.1 ht c hc)
    by_cases hc128 : c.val < 128
    · obtain rfl : c = CodePoint.ofChar ',' := hascii ⟨c.val, hc128⟩ hcomma
      exact hc
    · rcases CaseMapping.upperPoint_of_not_ascii (Nat.le_of_not_lt hc128) hlow with
        hsharp | ⟨d, hone, hhigh⟩
      · rw [hsharp] at hcomma
        exact absurd hcomma (by decide)
      · rw [hone, List.mem_singleton] at hcomma
        exact absurd hhigh (hcomma ▸ by decide)
  · exact fun h => ⟨_, h, by decide⟩

theorem exists_tagBody (element : Text) :
    ∃ rest, tagBody element = Text.upper rest ∧ rest <:+: element := by
  have htrim := Sequence.trim_infix CodePoint.isBlank element
  rw [tagBody]
  split
  · exact ⟨_, rfl, (Sequence.trim_infix _ _).trans ((List.drop_suffix 2 _).isInfix.trans htrim)⟩
  · exact ⟨_, rfl, (Sequence.trim_infix _ _).trans htrim⟩

/-- No element of a list has a comma, so none is a tag that has one. -/
theorem lists_of_comma (hcomma : CodePoint.ofChar ',' ∈ tag) (htag : Latin1.encodes tag = true)
    {value : Text} (hvalue : Latin1.encodes value = true) :
    lists (Text.upper tag) value = false := by
  rw [Bool.eq_false_iff]
  intro hlists
  obtain ⟨element, helement, hbody⟩ := List.mem_map.1 (lists_eq_true_iff.1 hlists)
  obtain ⟨rest, hrest, hinside⟩ := exists_tagBody element
  have hencodes : Latin1.encodes rest = true := List.all_eq_true.2 fun c hc =>
    List.all_eq_true.1 hvalue c (Sequence.mem_of_mem_splitOn helement (hinside.subset hc))
  rw [hrest] at hbody
  rw [← comma_mem_upper_iff htag, ← hbody, comma_mem_upper_iff hencodes] at hcomma
  obtain ⟨front, back, hwhole⟩ := List.append_of_mem (hinside.subset hcomma)
  refine (Sequence.isPiece_of_mem_splitOn (by decide) helement).unbroken ⟨front, back, ?_⟩
  rw [hwhole, List.append_assoc]
  rfl

theorem lists_inQuotes_iff (hquote : CodePoint.ofChar '"' ∉ tag)
    (htag : Latin1.encodes tag = true) :
    lists (Text.upper tag) tag.inQuotes = true ↔ CodePoint.ofChar ',' ∉ tag := by
  constructor
  · intro hlists hcomma
    rw [lists_of_comma hcomma htag (tag.encodes_inQuotes.trans htag)] at hlists
    cases hlists
  · intro hcomma
    have hone : CodePoint.ofChar ',' ∉ tag.inQuotes := by
      rw [Text.mem_inQuotes, not_or]
      exact ⟨by decide, hcomma⟩
    have hself : Sequence.splitOn comma tag.inQuotes = [tag.inQuotes] :=
      Sequence.splitOn_singleton_self hone
    rw [lists_eq_true_iff, hself, List.map_singleton, tagBody_inQuotes hquote]
    exact List.mem_singleton_self _

end Revalidation

/-- Whether a record has just one entity tag, which is the given text in quotes. -/
def Record.HasTag (r : Record) (tag : Text) : Prop :=
  ∃ name, (r.headers.filter fun h => Text.isWord "etag" h.1) = [(name, tag.inQuotes)]

variable {r : Record} {tag : Text}

namespace Record

theorem HasTag.encodes (h : r.HasTag tag) (hlatin : r.headers.IsLatin1) :
    Latin1.encodes tag = true := by
  obtain ⟨name, htag⟩ := h
  have hmem : (name, tag.inQuotes) ∈ r.headers :=
    (List.mem_filter.1 (htag ▸ List.mem_singleton_self (name, tag.inQuotes))).1
  rw [← tag.encodes_inQuotes]
  exact (hlatin _ hmem).2

theorem HasTag.value? (h : r.HasTag tag) : Headers.value? "etag" r.headers = some tag.inQuotes := by
  obtain ⟨name, htag⟩ := h
  rw [Headers.value?, ← List.head?_filter, htag]
  rfl

theorem HasTag.validator? (h : r.HasTag tag) (hquote : CodePoint.ofChar '"' ∉ tag)
    (hlength : tag.length = validatorLength) : r.validator? = some tag := by
  rw [Record.validator?, h.value?]
  dsimp only
  rw [Revalidation.trim_quotes_inQuotes hquote, if_pos hlength]

/-- A bare media type has no entity tag. -/
theorem HasTag.isLineSet (h : r.HasTag tag) : Headers.isLineSet r.contentType = true := by
  obtain ⟨name, htag⟩ := h
  by_contra hbare
  have hparsed := r.parsed
  rw [Headers.parse, if_neg hbare] at hparsed
  rw [← Except.ok.inj hparsed] at htag
  cases htag

/-- The header lines that are added are no entity tags, so the one of the record is found in its
response. -/
theorem HasTag.value?_ofList (h : r.HasTag tag) (length : Int) :
    Headers.value? "etag" (Fields.ofList (Response.composeHeaders r.headers length)) =
      some tag.inQuotes := by
  obtain ⟨name, htag⟩ := h
  have hfilter : (Response.composeHeaders r.headers length).filter
      (fun h => Text.isWord "etag" h.1) = [(name, tag.inQuotes)] := by
    have hcaching : (Response.cachingLines r.headers).filter
        (fun h => Text.isWord "etag" h.1) = [] := by
      rw [List.filter_eq_nil_iff]
      intro line hline
      rw [Response.eq_of_mem_cachingLines hline]
      decide
    rw [Response.composeHeaders_eq, List.filter_append, List.filter_cons_of_neg (by decide),
      List.filter_append, hcaching, htag]
    rfl
  rw [Fields.value?_ofList rfl, hfilter]
  rfl

end Record

namespace Revalidation

theorem notModified_of_fields {request : Request}
    (h : ∀ field ∈ request.fields, field.1 ≠ "if-none-match") : notModified r request = false := by
  rw [notModified]
  split
  · rfl
  · rw [List.any_eq_false]
    intro field hfield hmatch
    rw [Bool.and_eq_true, decide_eq_true_eq] at hmatch
    exact h field hfield hmatch.1

theorem notModified_of_comma (hvalidator : r.validator? = some tag)
    (hcomma : CodePoint.ofChar ',' ∈ tag) (htag : Latin1.encodes tag = true) (request : Request) :
    notModified r request = false := by
  rw [notModified, hvalidator]
  dsimp only
  rw [List.any_eq_false]
  intro field hfield hmatch
  obtain ⟨name, value, _, rfl⟩ := Request.mem_fields_iff.1 hfield
  rw [Bool.and_eq_true] at hmatch
  have hnone := lists_of_comma hcomma htag (Latin1.encodes_decode (Bytes.trim value))
  rw [← Request.readField, hmatch.2] at hnone
  cases hnone

theorem notModified_of_mem (hvalidator : r.validator? = some tag)
    (hquote : CodePoint.ofChar '"' ∉ tag) (hcomma : CodePoint.ofChar ',' ∉ tag)
    (htag : Latin1.encodes tag = true) {request : Request}
    (hfield : (("if-none-match" : Text), tag.inQuotes) ∈ request.fields) :
    notModified r request = true := by
  rw [notModified, hvalidator]
  dsimp only
  rw [List.any_eq_true]
  refine ⟨_, hfield, ?_⟩
  rw [(lists_inQuotes_iff hquote htag).2 hcomma]
  rfl

end Revalidation

namespace Request

/-- A request for a url with the given header lines. -/
def getFor (url : Text) (lines : List Bytes) : Bytes :=
  List.intercalate lineEnd ((Latin1.bytes "GET" ++
    0x20 :: (Latin1.bytes url ++ 0x20 :: Latin1.bytes "HTTP/1.1")) :: lines) ++ headEnd

def conditionLine (value : Text) : Bytes :=
  Latin1.bytes "If-None-Match" ++ 0x3A :: 0x20 :: Latin1.bytes value

variable {url : Text} {lines : List Bytes}

theorem parse_getFor (hurl : url.IsToken) (hlines : ∀ l ∈ lines, IsLine l) :
    parse (getFor url lines) = .ok ⟨"GET", url, List.intercalate lineEnd lines⟩ := by
  have hversion : (13 : UInt8) ∉ Latin1.bytes "HTTP/1.1" := by decide
  have hmethod : (32 : UInt8) ∉ Latin1.bytes "GET" ∧ (13 : UInt8) ∉ Latin1.bytes "GET" := by decide
  have hparse := parse_lines hmethod hurl.bytes hversion hlines []
  rw [List.append_nil, Latin1.decode_bytes hurl.encodes] at hparse
  exact hparse

theorem isLine_conditionLine (hreturn : CodePoint.ofChar '\r' ∉ tag)
    (htag : Latin1.encodes tag = true) : IsLine (conditionLine tag.inQuotes) := by
  have hbytes : 13 ∉ Latin1.bytes tag.inQuotes := by
    intro hmem
    have hpoint : Latin1.point 13 ∈ Latin1.decode (Latin1.bytes tag.inQuotes) :=
      List.mem_map_of_mem hmem
    rw [Latin1.decode_bytes (tag.encodes_inQuotes.trans htag), Text.mem_inQuotes] at hpoint
    exact hpoint.elim (by decide) hreturn
  refine .of_not_mem (List.append_ne_nil_of_right_ne_nil _ (List.cons_ne_nil _ _)) ?_
  rw [conditionLine, List.mem_append, List.mem_cons, List.mem_cons, not_or, not_or, not_or]
  exact ⟨by decide, by decide, by decide, hbytes⟩

theorem readLine?_conditionLine (htag : Latin1.encodes tag = true) :
    readLine? (conditionLine tag.inQuotes) = some (("if-none-match" : Text), tag.inQuotes) := by
  have htrim : Bytes.trim (Latin1.bytes tag.inQuotes) = Latin1.bytes tag.inQuotes := by
    have hends : Latin1.bytes tag.inQuotes = [0x22] ++ Latin1.bytes tag ++ [0x22] := by
      rw [Text.inQuotes, Latin1.bytes_append, Latin1.bytes_append, ← List.append_assoc]
      rfl
    rw [hends]
    refine Sequence.trim_eq_self (fun b hb => ?_) fun b hb => ?_
    · cases hb
      rfl
    · rw [List.getLast?_concat] at hb
      cases hb
      rfl
  have hcolon : (0x3A : UInt8) ∉ Latin1.bytes "If-None-Match" := by decide
  have hread := RawRequest.readLine?_lineOf
    (f := (Latin1.bytes "If-None-Match", Latin1.bytes tag.inQuotes)) hcolon
  rw [RawRequest.readPair, htrim, Latin1.decode_bytes (tag.encodes_inQuotes.trans htag)] at hread
  exact hread

theorem fields_getFor (hlines : ∀ l ∈ lines, IsLine l) :
    fields ⟨"GET", url, List.intercalate lineEnd lines⟩ = lines.filterMap readLine? :=
  filterMap_readLine?_intercalate fun l hl => (hlines l hl).unbroken

/-- Whether a line of a head does not name versions. -/
def IsUnconditional (line : Bytes) : Prop :=
  ∀ field, readLine? line = some field → field.1 ≠ "if-none-match"

end Request

open Request (IsLine IsUnconditional getFor conditionLine)

variable {url : Text} {lines front back : List Bytes}

namespace Revalidation

theorem notModified_of_unconditional (hlines : ∀ l ∈ lines, IsLine l ∧ IsUnconditional l) :
    notModified r ⟨"GET", url, List.intercalate Request.lineEnd lines⟩ = false := by
  refine notModified_of_fields fun field hfield => ?_
  rw [Request.fields_getFor fun l hl => (hlines l hl).1] at hfield
  obtain ⟨l, hl, hread⟩ := List.mem_filterMap.1 hfield
  exact (hlines l hl).2 field hread

/-- A request with the tag of an asset has the asset exactly if the tag has no comma. -/
theorem notModified_conditionLine (hvalidator : r.validator? = some tag)
    (hquote : CodePoint.ofChar '"' ∉ tag) (htag : Latin1.encodes tag = true)
    (hlines : ∀ l ∈ front ++ conditionLine tag.inQuotes :: back, IsLine l) :
    notModified r ⟨"GET", url,
        List.intercalate Request.lineEnd (front ++ conditionLine tag.inQuotes :: back)⟩ = true ↔
      CodePoint.ofChar ',' ∉ tag := by
  constructor
  · intro hmodified hcomma
    rw [notModified_of_comma hvalidator hcomma htag] at hmodified
    cases hmodified
  · intro hcomma
    refine notModified_of_mem hvalidator hquote hcomma htag ?_
    rw [Request.fields_getFor hlines, List.mem_filterMap]
    exact ⟨_, List.mem_append_right _ List.mem_cons_self, Request.readLine?_conditionLine htag⟩

end Revalidation

namespace Exchange

variable {t : Table}

theorem response_getFor (hfind : t.find? url = some r) (hroot : url ≠ [] ∧ url ≠ "/")
    (hquery : 0x3F ∉ url) (lines : List Bytes) (a : RootAlias) :
    (Reply.toRequest ⟨"GET", url, List.intercalate Request.lineEnd lines⟩ t a).response =
      if Revalidation.notModified r ⟨"GET", url, List.intercalate Request.lineEnd lines⟩ then
        ⟨304, Response.composeHeaders r.headers 0, []⟩
      else ⟨200, Response.composeHeaders r.headers r.size, r.payload⟩ := by
  refine Reply.response_of_some (.inl rfl) ?_
  rw [Request.target_eq_fullPath hquery hroot.1 hroot.2, ← t.find?_eq]
  exact hfind

/-- A client asks for an asset, takes the entity tag of the response, and asks again with it. It is
spared the asset exactly if the tag has no comma. -/
theorem revalidate_served (hfind : t.find? url = some r) (hlatin : r.headers.IsLatin1)
    (htag : r.HasTag tag) (hlength : tag.length = Record.validatorLength)
    (hquote : CodePoint.ofChar '"' ∉ tag) (hreturn : CodePoint.ofChar '\r' ∉ tag)
    (hurl : url.IsToken) (hroot : url ≠ [] ∧ url ≠ "/") (hquery : 0x3F ∉ url)
    (hlines : ∀ l ∈ lines, IsLine l ∧ IsUnconditional l) (hfront : ∀ l ∈ front, IsLine l)
    (hback : ∀ l ∈ back, IsLine l) (a : RootAlias) (s : Socket)
    (hsend : ∀ n, s.sendFault n = none) :
    ∃ chunks response value, (serve (getFor url lines) t a s).socket.sent = s.sent ++ chunks ∧
      Response.parse chunks.flatten = .ok response ∧
      response.status = 200 ∧ response.body = r.payload ∧
      Headers.value? "etag" response.headers = some value ∧
      (serve (getFor url (front ++ conditionLine value :: back)) t a s).outcome =
        .ok (if tag.contains (CodePoint.ofChar ',') then
          ⟨200, Response.composeHeaders r.headers r.size, r.payload⟩
        else ⟨304, Response.composeHeaders r.headers 0, []⟩) := by
  have hencodes := htag.encodes hlatin
  have hall : ∀ l ∈ front ++ conditionLine tag.inQuotes :: back, IsLine l :=
    List.forall_mem_append.2 ⟨hfront, List.forall_mem_cons.2
      ⟨Request.isLine_conditionLine hreturn hencodes, hback⟩⟩
  have hsent : ∀ lines, (Reply.toRequest ⟨"GET", url, List.intercalate Request.lineEnd lines⟩
      t a).response.headers.IsLatin1 := by
    intro lines
    rw [response_getFor hfind hroot hquery]
    split <;> exact Response.isLatin1_composeHeaders hlatin _
  obtain ⟨head, _, hhead, hchunks⟩ := serve_ok
    (Request.parse_getFor hurl fun l hl => (hlines l hl).1) hsend (hsent lines)
  obtain ⟨_, hserved, _⟩ := serve_ok (Request.parse_getFor hurl hall) hsend (hsent _)
  rw [response_getFor hfind hroot hquery, Revalidation.notModified_of_unconditional hlines,
    if_neg Bool.false_ne_true] at hhead hchunks
  have hstatus : Integer.isTooLong 200 = false := by decide +kernel
  have hread := parse_chunksOf hhead (Response.isPlain_composeHeaders
    (Headers.isPlain_of_parse htag.isLineSet r.parsed) r.size) hstatus
  refine ⟨_, _, tag.inQuotes, hchunks, hread, rfl, rfl, htag.value?_ofList r.size, ?_⟩
  rw [hserved, response_getFor hfind hroot hquery]
  simp only [Revalidation.notModified_conditionLine (htag.validator? hquote hlength) hquote hencodes
    hall, ite_not, List.contains_iff_mem]

/-- A tag with commas is sent back behind another header, and the asset is sent again. -/
theorem revalidate_served_comma :
    let tag : Text := "0123456789,0123456789,0123456789,0123456"
    let r : Record := ⟨"/a",
      "Content-Type: text/plain\r\nEtag: \"0123456789,0123456789,0123456789,0123456\"\r\n",
      [0x68, 0x69], [("Content-Type", "text/plain"), ("Etag", tag.inQuotes)], by rfl⟩
    let t := Table.ofRecords [r]
    let s := Socket.ofIncoming []
    ∃ response value, Response.parse
        (serve (getFor "/a" []) t .initial s).socket.sent.flatten = .ok response ∧
      Headers.value? "etag" response.headers = some value ∧
      (serve (getFor "/a" [Latin1.bytes "Host: x", conditionLine value]) t .initial s).outcome =
        .ok ⟨200, Response.composeHeaders r.headers r.size, [0x68, 0x69]⟩ := by
  intro tag r t s
  have hfind : t.find? "/a" = some r := by
    rw [Table.find?_eq]
    rfl
  have hlatin : r.headers.IsLatin1 := by
    intro line hline
    rcases List.mem_cons.1 hline with rfl | hline
    · exact ⟨rfl, rfl⟩
    · cases List.mem_singleton.1 hline
      exact ⟨rfl, rfl⟩
  have htoken : ("/a" : Text).IsToken := by
    have hall : (("/a" : Text).all fun c => c.val < 256 && c.val ≠ 32 && c.val ≠ 13) = true := rfl
    simpa [Text.IsToken, and_assoc] using hall
  have hhost : ∀ l ∈ [Latin1.bytes "Host: x"], IsLine l := by
    intro l hl
    cases List.mem_singleton.1 hl
    exact .of_not_mem (by decide) (by decide)
  obtain ⟨chunks, response, value, hsent, hparse, _, _, hvalue, hserved⟩ :=
    revalidate_served hfind hlatin ⟨"Etag", rfl⟩ rfl (by decide) (by decide) htoken (by decide)
      (by decide) (fun l hl => absurd hl List.not_mem_nil) hhost
      (fun l hl => absurd hl List.not_mem_nil) .initial s fun _ => rfl
  refine ⟨response, value, ?_, hvalue, hserved.trans ?_⟩
  · rw [hsent]
    exact hparse
  · rfl

end Exchange
end AssetBundle
