import AssetBundle.Proofs.Asset.Headers
import AssetBundle.Proofs.Connection.Chunks

/-!
# AssetBundle.Proofs.Http.Response

Responses on the wire. A head can be encoded if its header lines are in Latin-1
(`encodeHead_eq_ok`): the status line and all header lines that are added here are. On a
connection that takes everything, delivering a response sends its head and then its body
(`deliver_ok`).
-/

namespace AssetBundle

/-- A reason phrase is made of visible ASCII and spaces. -/
theorem Status.visible_reason (status : Int) :
    ((reason status).all fun c => 32 ≤ c.val && c.val < 127) = true := by
  have hphrases : (phrases.all fun entry =>
      (Text.ofString entry.2).all fun c => 32 ≤ c.val && c.val < 127) = true := by
    decide +kernel
  cases status with
  | ofNat n =>
    rw [reason]
    split
    · next phrase hphrase =>
      exact List.all_eq_true.1 hphrases (n, phrase) (Keyed.mem_of_lookup hphrase)
    · rfl
  | negSucc n => rfl

theorem Status.encodes_reason (status : Int) : Latin1.encodes (reason status) = true := by
  refine List.all_eq_true.2 fun c hc => decide_eq_true ?_
  have hvisible := List.all_eq_true.1 (visible_reason status) c hc
  rw [Bool.and_eq_true, decide_eq_true_eq, decide_eq_true_eq] at hvisible
  omega

theorem Status.not_mem_reason (status : Int) : CodePoint.ofChar '\r' ∉ reason status :=
  fun hmem => absurd (List.all_eq_true.1 (visible_reason status) _ hmem) (by decide)

namespace Response

def closingLine : Header := ("Connection", "close")

def cachingLine : Header := ("Cache-Control", "no-cache")

def sizeLine (length : Int) : Header := ("Content-Length", Text.ofInt length)

/-- The line that forbids to keep an asset unchecked, if it is needed. -/
def cachingLines (hs : Headers) : Headers :=
  if Headers.has "etag" hs || Headers.has "cache-control" hs then [] else [cachingLine]

/-- The length stands last, and nothing before it depends on it. -/
theorem composeHeaders_eq (hs : Headers) (length : Int) :
    composeHeaders hs length = closingLine :: (cachingLines hs ++ hs) ++ [sizeLine length] := by
  rw [List.cons_append, List.append_assoc]
  rfl

theorem eq_of_mem_cachingLines {hs : Headers} {line : Header} (h : line ∈ cachingLines hs) :
    line = cachingLine := by
  rw [cachingLines] at h
  split at h
  · cases h
  · exact List.mem_singleton.1 h

theorem mem_composeHeaders {hs : Headers} {length : Int} {line : Header}
    (h : line ∈ composeHeaders hs length) :
    line = closingLine ∨ line = cachingLine ∨ line ∈ hs ∨ line = sizeLine length := by
  rw [composeHeaders_eq, List.mem_append, List.mem_cons, List.mem_append, List.mem_singleton] at h
  rcases h with (h | h | h) | h
  · exact .inl h
  · exact .inr (.inl (eq_of_mem_cachingLines h))
  · exact .inr (.inr (.inl h))
  · exact .inr (.inr (.inr h))

theorem isLatin1_composeHeaders {hs : Headers} (h : hs.IsLatin1) (length : Int) :
    (composeHeaders hs length).IsLatin1 := by
  intro line hline
  rcases mem_composeHeaders hline with rfl | rfl | hline | rfl
  · exact ⟨rfl, rfl⟩
  · exact ⟨rfl, rfl⟩
  · exact h line hline
  · exact ⟨rfl, Latin1.encodes_ofInt length⟩

theorem isLatin1_ofError (status : Int) : (ofError status).headers.IsLatin1 := by
  apply isLatin1_composeHeaders
  intro line hline
  rw [List.mem_singleton.1 hline]
  exact ⟨rfl, rfl⟩

theorem encodes_headText {r : Response} (h : r.headers.IsLatin1) :
    Latin1.encodes r.headText = true := by
  have hversion : Latin1.encodes ("HTTP/1.1 " : Text) = true := rfl
  have hblank : Latin1.encodes (" " : Text) = true := rfl
  have hend : Latin1.encodes Headers.lineEnd = true := rfl
  simp [headText, hversion, hblank, hend, Latin1.encodes_ofInt, Status.encodes_reason,
    Headers.encodes_print h]

/-- A head can be encoded if its header lines can. -/
theorem encodeHead_eq_ok {r : Response} (h : r.headers.IsLatin1) :
    r.encodeHead = .ok (Latin1.bytes r.headText) :=
  Latin1.encodeOrFail_eq_ok (encodes_headText h)

end Response

/-- A response that can be encoded is sent, head and body, where no send fails. -/
theorem Exchange.deliver_ok {r : Response} {s : Socket} {head : Bytes}
    (hsend : ∀ n, s.sendFault n = none) (hhead : r.encodeHead = .ok head) :
    ∃ s', deliver r s = (.ok (), s') ∧
      s'.sent = s.sent ++ head :: if r.body.isEmpty then [] else [r.body] := by
  refine ⟨s.afterSends (chunksOf head r).length (chunksOf head r), ?_, Socket.sent_afterSends ..⟩
  rw [deliver_of_ok hhead, Socket.sendAll_of_sendsNext fun j _ => hsend _]
  rfl

end AssetBundle
