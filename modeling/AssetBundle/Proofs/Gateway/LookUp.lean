import AssetBundle.Proofs.Bundle.Paths
import AssetBundle.Proofs.Gateway.Scope
import AssetBundle.Proofs.Http.Decision
import AssetBundle.Proofs.Http.Revalidation

/-!
# AssetBundle.Proofs.Gateway.LookUp

Which record a gateway's request is answered with. The path of the description is put in front of
its query and cut off again at the first question mark, so a path is looked up as it is if it has
none (`takeWhile_fullPath`), and a path with a question mark of its own is cut short. In particular
every asset of a built table whose path has no question mark is sent to the one who asks for that
path (`call_looks_up`).
-/

namespace AssetBundle

/-- The path at which a requested path is looked up: that of the alias in place of the root. -/
def RootAlias.pathOf (a : RootAlias) (t : Table) (path : Text) : Text :=
  if path = [] ∨ path = "/" then (a.resolve t).1 else path

namespace HttpScope

variable {h : HttpScope}

theorem takeWhile_fullPath (h : HttpScope) :
    h.request.fullPath.takeWhile (· ≠ 0x3F) = h.path.takeWhile (· ≠ 0x3F) := by
  have hquery : (Latin1.decode h.queryPart).takeWhile (· ≠ 0x3F) = [] := by
    rw [queryPart]
    split <;> rfl
  rw [request, List.takeWhile_append, hquery]
  split
  · next hall =>
    rw [List.append_nil]
    exact ((List.takeWhile_prefix _).eq_of_length hall).symm
  · rfl

theorem takeWhile_path (hpath : 0x3F ∉ h.path) : h.path.takeWhile (· ≠ 0x3F) = h.path := by
  rw [List.takeWhile_eq_self_iff]
  intro c hc
  simpa using fun hmark : c = 0x3F => hpath (hmark ▸ hc)

theorem target_request (h : HttpScope) (t : Table) (a : RootAlias) :
    h.request.target t a = a.pathOf t (h.path.takeWhile (· ≠ 0x3F)) := by
  rw [Request.target, RootAlias.pathOf, ← takeWhile_fullPath]
  rfl

/-- If the headers of a description each stay in a line, these are the lines of its request. -/
theorem hasLine_request_iff (hheaders : ∀ f ∈ h.headers, 13 ∉ f.1 ∧ 13 ∉ f.2 ∧ 0x3A ∉ f.1)
    {name value : Bytes} : Request.HasLine h.request.headerBlock name value ↔
      ∃ f ∈ h.headers, f.1 = name ∧ 0x20 :: f.2 = value := by
  have hreturn : ∀ line ∈ h.lines, ¬ Request.lineEnd <:+: line := fun _ hline =>
    Sequence.not_infix_of_not_mem <|
      not_mem_of_mem_lines (fun f hf => ⟨(hheaders f hf).1, (hheaders f hf).2.1⟩) hline
  -- Without headers the block is one empty line, which is not a header's.
  have hpieces : ∀ line, line ≠ [] → (line ∈ h.lines ↔
      Sequence.IsPiece Request.lineEnd h.request.headerBlock line) := by
    intro line hline
    rw [Request.lineEnd, ← Sequence.mem_splitOn_iff (by decide), request]
    cases hlines : h.lines with
    | nil => simpa [Request.lineEnd, Sequence.splitOn, Sequence.splitOn.go] using hline
    | cons first rest =>
      rw [hlines] at hreturn
      rw [Request.lineEnd, Sequence.splitOn_intercalate (by decide) hreturn]
  constructor
  · rintro ⟨hline, hcolon⟩
    obtain ⟨f, hf, hwhole⟩ := List.mem_map.1 ((hpieces _ (by simp)).2 hline)
    have hcut := Sequence.cutAt?_singleton hcolon value
    rw [← hwhole, lineOf, Scope.separator, List.cons_append,
      Sequence.cutAt?_singleton (hheaders f hf).2.2] at hcut
    cases hcut
    exact ⟨f, hf, rfl, rfl⟩
  · rintro ⟨f, hf, rfl, rfl⟩
    exact ⟨(hpieces _ (by simp)).1 (List.mem_map_of_mem hf), (hheaders f hf).2.2⟩

theorem isConditional_request_iff
    (hheaders : ∀ f ∈ h.headers, 13 ∉ f.1 ∧ 13 ∉ f.2 ∧ 0x3A ∉ f.1) :
    h.request.IsConditional ↔ ∃ f ∈ h.headers, Request.IsNamed "if-none-match" f.1 := by
  constructor
  · rintro ⟨name, value, hline, hname⟩
    obtain ⟨f, hf, rfl, _⟩ := (hasLine_request_iff hheaders).1 hline
    exact ⟨f, hf, hname⟩
  · rintro ⟨f, hf, hname⟩
    exact ⟨f.1, _, (hasLine_request_iff hheaders).2 ⟨f, hf, rfl, rfl⟩, hname⟩

end HttpScope

namespace Gateway

/-- Who gets a path is answered with the first record at this path up to its first question mark,
which is the whole path if it has none. The assets of a built table are found there. -/
theorem call_looks_up {h : HttpScope} (hget : h.method = "GET") (t : Table) (a : RootAlias) :
    (∃ url response,
      url = a.pathOf t (h.path.takeWhile (· ≠ 0x3F)) ∧
      (0x3F ∉ h.path → url = a.pathOf t h.path) ∧
      ((∀ r ∈ t.toList, r.url ≠ url) → response = .ofError 404) ∧
      (∀ r, (t.toList.find? fun r => r.url = url) = some r →
        response = if Revalidation.notModified r h.request then
          ⟨304, Response.composeHeaders r.headers 0, []⟩
        else ⟨200, Response.composeHeaders r.headers r.size, r.payload⟩) ∧
      (page h.toScope t a).1 = pageOf response) ∧
    (Bundle.IsBuilt t → ∀ r ∈ t.toList, h.path = r.url → 0x3F ∉ r.url →
      ¬ h.request.IsConditional → ∀ c : Channel, (∀ n, c.sendFault n = none) →
        ∃ headers, (call h.toScope t a c).1.outcome = .ok () ∧
          (call h.toScope t a c).1.channel.sent =
            c.sent ++ [.responseStart 200 headers, .responseBody r.payload false]) := by
  have hreading : h.request.IsReading := .inl hget
  have htarget := h.target_request t a
  have hreply := Reply.toRequest_of_reading (t := t) (a := a) hreading
  have hfound : ∀ r, (t.toList.find? fun r => r.url = h.request.target t a) = some r →
      (Reply.toRequest h.request t a).response =
        if Revalidation.notModified r h.request then
          ⟨304, Response.composeHeaders r.headers 0, []⟩
        else ⟨200, Response.composeHeaders r.headers r.size, r.payload⟩ := by
    intro r hr
    rw [hreply, Reply.lookUp_of_some hreading hr, if_pos (show h.request.method = "GET" from hget)]
  refine ⟨⟨h.request.target t a, _, htarget, ?_, ?_, hfound, by rw [page_toScope]⟩, ?_⟩
  · intro hpath
    rw [htarget, HttpScope.takeWhile_path hpath]
  · intro hnone
    rw [hreply]
    exact Reply.lookUp_of_none (List.find?_eq_none.2 fun r hr => by simpa using hnone r hr)
  · intro hbuilt r hr hpath hmark hconditional c hsend
    have hurl : h.request.target t a = r.url := by
      rw [htarget, HttpScope.takeWhile_path (hpath ▸ hmark), RootAlias.pathOf, hpath,
        if_neg (Bundle.not_root_of_isBuilt hbuilt hr)]
    have hown := hfound r (by rw [hurl]; exact Bundle.find?_of_isBuilt hbuilt hr)
    rw [Revalidation.notModified_of_not_conditional hconditional] at hown
    obtain ⟨headers, hcalled, hmessages, _⟩ := call_ok h t a hsend
      ((Reply.toRequest_answers h.request t a).isLatin1 (Bundle.isLatin1_of_isBuilt hbuilt))
    rw [hown] at hmessages
    exact ⟨headers, hcalled, hmessages⟩

/-- The page of a built table, asked for with a query that is a question mark itself. -/
theorem call_looks_up_oneFile :
    let h : HttpScope := ⟨"GET", "/a.html", some [0x3F], [([0x41], [0x62])]⟩
    let c : Channel := ⟨[], .noTerminator, fun _ => none, 0, []⟩
    ∃ t r headers, Bundle.IsBuilt t ∧ t.toList = [r] ∧ r.url = "/a.html" ∧
      Gzip.decompress r.payload = .ok [60, 112, 62] ∧
      (call h.toScope t .initial c).1.channel.sent =
        [.responseStart 200 headers, .responseBody r.payload false] := by
  intro h c
  have hread : Bundle.contentsOf Bundle.oneFile (Path.join "www" "a.html") =
      .ok (.ok [60, 112, 62]) := rfl
  obtain ⟨r, hrecord⟩ :
      ∃ r, (Bundle.record Bundle.oneFile "www" "a.html" .standard).1 = .ok (some r) :=
    Bundle.exists_record rfl hread rfl rfl (by decide) (.inl rfl)
  have hrecords : (Bundle.records (fun _ => Bundle.oneFile) "www" .standard [] ["a.html"]).1 =
      .ok [("a.html", r)] := by
    cases hrun : Bundle.record Bundle.oneFile "www" "a.html" .standard with
    | mk outcome log =>
      rw [hrun] at hrecord
      cases hrecord
      rw [Bundle.records, hrun]
      rfl
  have hbuilt : Bundle.IsBuilt (.ofRecords [r]) :=
    Bundle.isBuilt_of_records (by simp) hrecords
  have hurl : r.url = "/a.html" := by
    obtain ⟨start, hstart, hurl⟩ := Bundle.url_of_record hrecord
    cases hstart
    exact hurl
  have hcontents : Gzip.decompress r.payload = .ok [60, 112, 62] := by
    obtain ⟨_, contents, hname, hcontents, hasset⟩ := Bundle.record_ok hrecord
    cases hread.symm.trans hcontents
    exact (Bundle.assetOf_faithful hname hasset).expands
  have hplain : ¬ h.request.IsConditional := by
    rw [HttpScope.isConditional_request_iff (by decide)]
    rintro ⟨f, hf, hnamed⟩
    cases List.mem_singleton.1 hf
    rw [← Revalidation.readName_condition_iff] at hnamed
    revert hnamed
    decide
  obtain ⟨_, hfound⟩ := call_looks_up (h := h) rfl (.ofRecords [r]) .initial
  obtain ⟨headers, _, hmessages⟩ := hfound hbuilt r List.mem_cons_self hurl.symm
    (by rw [hurl]; decide) hplain c fun _ => rfl
  exact ⟨_, r, headers, hbuilt, rfl, hurl, hcontents, hmessages⟩

end Gateway
end AssetBundle
