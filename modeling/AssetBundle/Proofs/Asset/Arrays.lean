import AssetBundle.Proofs.Http.Response
import AssetBundle.Proofs.Text.Utf8

/-!
# AssetBundle.Proofs.Asset.Arrays

Tables that are made of arrays. A content is a text or bytes, and what is stored of a text is its
form in UTF-8. The declared sizes are compared with the contents as they are given, a text with its
number of code points, and not with what is stored (`checkSizes_eq`). So a record has the size that
is declared for it exactly if its content is bytes or ASCII, and any other record is longer, and is
served as such (`ofArrays_sizes`).
-/

namespace AssetBundle

/-- A content of an asset as it stands in an array. -/
inductive Content where
  | text (t : Text)
  | bytes (s : Bytes)

namespace Content

def toValue : Content → Value
  | .text t => .text t
  | .bytes s => .bytes s

/-- The number of its code points or bytes. -/
def length : Content → Nat
  | .text t => t.length
  | .bytes s => s.length

/-- The payload that is made of it. -/
def stored : Content → Bytes
  | .text t => t.flatMap Utf8.encodePoint
  | .bytes s => s

/-- Whether each of its elements is stored as one byte. -/
def IsNarrow : Content → Prop
  | .text t => ∀ c ∈ t, c.val < 128
  | .bytes _ => True

theorem length_le_length_stored (c : Content) : c.length ≤ c.stored.length := by
  cases c with
  | text t => exact Utf8.length_le_length_encode t
  | bytes s => exact Nat.le_refl _

theorem length_eq_length_stored_iff (c : Content) : c.length = c.stored.length ↔ c.IsNarrow := by
  cases c with
  | text t => exact Utf8.length_eq_length_encode_iff t
  | bytes s => exact iff_of_true rfl trivial

theorem payload_eq {c : Content} {payload : Bytes} (h : Record.payloadOf c.toValue = .ok payload) :
    payload = c.stored := by
  cases c with
  | text t => exact Utf8.eq_of_encodeOrFail h
  | bytes s => exact (Except.ok.inj h).symm

end Content

theorem Record.ofValues_eq_ok {url contentType : Text} {c : Content} {r : Record}
    (h : ofValues (.text url) (.text contentType) c.toValue = .ok r) :
    r.url = url ∧ r.contentType = contentType ∧ r.payload = c.stored := by
  rw [ofValues] at h
  cases hpayload : payloadOf c.toValue with
  | error e =>
    rw [hpayload] at h
    cases h
  | ok payload =>
    rw [hpayload] at h
    dsimp only at h
    rw [ofParts] at h
    split at h
    · cases h
      exact ⟨rfl, rfl, Content.payload_eq hpayload⟩
    · cases h

namespace Table

theorem sizesOf_contents (contents : List Content) :
    sizesOf (contents.map Content.toValue) = .ok (contents.map Content.length) := by
  induction contents with
  | nil => rfl
  | cons c contents ih =>
    have hsize : c.toValue.size? = some c.length := by cases c <;> rfl
    rw [List.map_cons, sizesOf, hsize]
    dsimp only
    rw [ih]
    rfl

theorem sizesAgree_iff (sizes : List Int) (actual : List Nat) :
    sizesAgree (sizes.map .int) actual = true ↔ sizes = actual.map Int.ofNat := by
  induction sizes generalizing actual with
  | nil => cases actual <;> simp [sizesAgree]
  | cons n sizes ih =>
    cases actual with
    | nil => simp [sizesAgree]
    | cons m actual =>
      rw [List.map_cons, sizesAgree, Bool.and_eq_true, ih, List.map_cons, List.cons.injEq,
        Value.equalsNat, Value.toInt?, decide_eq_true_eq, Option.some.injEq]

/-- Declared sizes have to be those of the contents as they are given. -/
theorem checkSizes_eq (contents : List Content) (sizes : List Int) :
    checkSizes (contents.map Content.toValue) (.list (sizes.map .int)) =
      if sizes = contents.map fun c => (c.length : Int) then .ok () else .error .arraySizes := by
  have hagree := sizesAgree_iff sizes (contents.map Content.length)
  rw [List.map_map] at hagree
  unfold checkSizes
  dsimp only [Value.elements?]
  rw [sizesOf_contents]
  exact if_congr hagree rfl rfl

/-- Records are made of their parts in order. -/
theorem recordsOf_eq_ok {urls contentTypes : List Text} {contents : List Content}
    {records : List Record} (htypes : urls.length = contentTypes.length)
    (hcontents : contentTypes.length = contents.length)
    (h : recordsOf (urls.map .text) (contentTypes.map .text) (contents.map Content.toValue) =
      .ok records) :
    records.map Record.url = urls ∧ records.map Record.contentType = contentTypes ∧
      records.map Record.payload = contents.map Content.stored := by
  induction urls generalizing contentTypes contents records with
  | nil =>
    obtain rfl := List.length_eq_zero_iff.1 htypes.symm
    obtain rfl := List.length_eq_zero_iff.1 hcontents.symm
    cases h
    exact ⟨rfl, rfl, rfl⟩
  | cons url urls ih =>
    obtain ⟨contentType, contentTypes, rfl⟩ := List.exists_cons_of_length_eq_add_one htypes.symm
    obtain ⟨c, contents, rfl⟩ := List.exists_cons_of_length_eq_add_one hcontents.symm
    rw [List.map_cons, List.map_cons, List.map_cons, recordsOf] at h
    cases hmade : Record.ofValues (.text url) (.text contentType) c.toValue with
    | error e =>
      rw [hmade] at h
      cases h
    | ok r =>
      rw [hmade] at h
      dsimp only at h
      cases hrest : recordsOf (urls.map .text) (contentTypes.map .text)
          (contents.map Content.toValue) with
      | error e =>
        rw [hrest] at h
        cases h
      | ok rest =>
        rw [hrest] at h
        cases h
        obtain ⟨hurl, htype, hpayload⟩ := Record.ofValues_eq_ok hmade
        obtain ⟨hurls, htypes, hpayloads⟩ :=
          ih (Nat.succ.inj htypes) (Nat.succ.inj hcontents) hrest
        simp [hurl, htype, hpayload, hurls, htypes, hpayloads]

variable {urls contentTypes : List Text} {contents : List Content} {sizes : List Int}

/-- Whether arrays have one length, and the declared sizes are the actual ones. -/
structure Fits (urls contentTypes : List Text) (contents : List Content) (sizes actual : List Int) :
    Prop where
  urls : urls.length = contentTypes.length
  contents : contentTypes.length = contents.length
  sizes : sizes = actual

theorem ofArrays_eq :
    ofArrays (urls.map .text) (contentTypes.map .text) (contents.map Content.toValue)
      (.list (sizes.map .int)) =
      if urls.length ≠ contentTypes.length ∨ contentTypes.length ≠ contents.length then
        .error .arrayLengths
      else if sizes = contents.map fun c => (c.length : Int) then
        (recordsOf (urls.map .text) (contentTypes.map .text)
          (contents.map Content.toValue)).map ofRecords
      else .error .arraySizes := by
  rw [ofArrays, List.length_map, List.length_map, List.length_map, checkSizes_eq]
  by_cases hlengths : urls.length ≠ contentTypes.length ∨ contentTypes.length ≠ contents.length
  · rw [if_pos hlengths, if_pos hlengths]
  · rw [if_neg hlengths, if_neg hlengths]
    by_cases hsizes : sizes = contents.map fun c => (c.length : Int)
    · rw [if_pos hsizes, if_pos hsizes]
      dsimp only
      cases recordsOf (urls.map .text) (contentTypes.map .text) (contents.map Content.toValue) <;>
        rfl
    · rw [if_neg hsizes, if_neg hsizes]

theorem fits_of_ofArrays {t : Table}
    (h : ofArrays (urls.map .text) (contentTypes.map .text) (contents.map Content.toValue)
      (.list (sizes.map .int)) = .ok t) :
    Fits urls contentTypes contents sizes (contents.map fun c => (c.length : Int)) ∧
      recordsOf (urls.map .text) (contentTypes.map .text) (contents.map Content.toValue) =
        .ok t.toList := by
  rw [ofArrays_eq] at h
  split at h
  · cases h
  · next hlengths =>
    rw [not_or, not_not, not_not] at hlengths
    split at h
    · next hsizes =>
      refine ⟨⟨hlengths.1, hlengths.2, hsizes⟩, ?_⟩
      cases hrecords : recordsOf (urls.map .text) (contentTypes.map .text)
          (contents.map Content.toValue) with
      | error e =>
        rw [hrecords] at h
        cases h
      | ok records =>
        rw [hrecords] at h
        cases h
        rfl
    · cases h

theorem ofArrays_of_not_fits
    (h : ¬ Fits urls contentTypes contents sizes (contents.map fun c => (c.length : Int))) :
    ∃ e, ofArrays (urls.map .text) (contentTypes.map .text) (contents.map Content.toValue)
      (.list (sizes.map .int)) = .error e ∧ e.kind = "ValueError" := by
  rw [ofArrays_eq]
  split
  · exact ⟨_, rfl, rfl⟩
  · next hlengths =>
    rw [not_or, not_not, not_not] at hlengths
    rw [if_neg fun hsizes => h ⟨hlengths.1, hlengths.2, hsizes⟩]
    exact ⟨_, rfl, rfl⟩

/-- A table of arrays has one record for each element, in order. Each declared size is the number of
code points or bytes of the content; the record is no shorter, it is as long exactly if the content
is narrow, and it is served with its own length. Arrays that do not fit together are refused, and
with narrow contents these are the ones whose declared sizes are not those of the payloads. -/
theorem ofArrays_sizes (urls contentTypes : List Text) (contents : List Content)
    (sizes : List Int) :
    let made := ofArrays (urls.map .text) (contentTypes.map .text) (contents.map Content.toValue)
      (.list (sizes.map .int))
    (∀ t, made = .ok t →
      t.urls = urls ∧ t.toList.map Record.contentType = contentTypes ∧
      t.toList.map Record.payload = contents.map Content.stored ∧
      sizes = contents.map (fun c => (c.length : Int)) ∧
      (∀ (i : Nat) (n : Int) (c : Content) (r : Record), sizes[i]? = some n →
        contents[i]? = some c → t.toList[i]? = some r →
          n ≤ r.size ∧ (n = r.size ↔ c.IsNarrow)) ∧
      ∀ r ∈ t.toList, ∀ request, Revalidation.notModified r request = false →
        (Reply.forRecord r request).headers.getLast? =
          some (("Content-Length" : Text), Text.ofInt r.payload.length)) ∧
    (¬ Fits urls contentTypes contents sizes (contents.map fun c => (c.length : Int)) →
      ∃ e, made = .error e ∧ e.kind = "ValueError") ∧
    ((∀ c ∈ contents, c.IsNarrow) →
      ¬ Fits urls contentTypes contents sizes (contents.map fun c => (c.stored.length : Int)) →
        ∃ e, made = .error e ∧ e.kind = "ValueError") := by
  refine ⟨fun t hmade => ?_, ofArrays_of_not_fits, fun hnarrow hnot => ?_⟩
  · obtain ⟨hfits, hrecords⟩ := fits_of_ofArrays hmade
    obtain ⟨hurls, htypes, hpayloads⟩ := recordsOf_eq_ok hfits.urls hfits.contents hrecords
    refine ⟨hurls, htypes, hpayloads, hfits.sizes, fun i n c r hn hc hr => ?_,
      fun r _ request hmodified => ?_⟩
    · have hpayload : r.payload = c.stored := by
        simpa [hc, hr] using congrArg (·[i]?) hpayloads
      have hsize : n = (c.length : Int) := by
        simpa [hn, hc] using congrArg (·[i]?) hfits.sizes
      rw [hsize, Record.size, hpayload, ← c.length_eq_length_stored_iff]
      exact ⟨Int.ofNat_le.2 c.length_le_length_stored, Int.ofNat_inj⟩
    · rw [Reply.forRecord, hmodified, if_neg Bool.false_ne_true, Response.composeHeaders_eq,
        List.getLast?_concat]
      rfl
  · have hsame : contents.map (fun c => (c.length : Int)) =
        contents.map fun c => (c.stored.length : Int) :=
      List.map_congr_left fun c hc =>
        congrArg Int.ofNat (c.length_eq_length_stored_iff.2 (hnarrow c hc))
    rw [← hsame] at hnot
    exact ofArrays_of_not_fits hnot

/-- A letter that is declared as one and stored as two bytes. -/
theorem ofArrays_sizes_wide :
    let made (size : Int) := ofArrays [.text "/a"] [.text "text/plain"] [.text "é"]
      (.list [.int size])
    (∃ t r, made 1 = .ok t ∧ t.toList = [r] ∧ r.payload = [0xC3, 0xA9] ∧ (1 : Int) ≠ r.size) ∧
      ∃ e, made 2 = .error e ∧ e.kind = "ValueError" := by
  intro made
  let r : Record :=
    ⟨"/a", "text/plain", [0xC3, 0xA9], [("Content-Type", "text/plain")], by rfl⟩
  have hmade : made 1 = .ok (ofRecords [r]) := rfl
  have hwide : ¬ (Content.text "é").IsNarrow := fun h => absurd (h 0xE9 (by decide)) (by decide)
  have hone := ofArrays_sizes ["/a"] ["text/plain"] [.text "é"] [1]
  have htwo := ofArrays_sizes ["/a"] ["text/plain"] [.text "é"] [2]
  obtain ⟨_, _, _, _, hsizes, _⟩ := hone.1 _ hmade
  obtain ⟨_, hsize⟩ := hsizes 0 1 (.text "é") r rfl rfl rfl
  exact ⟨⟨_, r, hmade, rfl, rfl, fun h => hwide (hsize.1 h)⟩,
    htwo.2.1 fun hfits => absurd hfits.sizes (by decide)⟩

end Table
end AssetBundle
