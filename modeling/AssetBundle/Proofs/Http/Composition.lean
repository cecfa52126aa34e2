import AssetBundle.Proofs.Http.Response
import AssetBundle.Proofs.Number.Integer
import AssetBundle.Proofs.Text.Case

/-!
# AssetBundle.Proofs.Http.Composition

From the header lines that are stored with an asset to those on the wire. An asset that is made of
composed lines has just these lines, and so they go out as they were composed: the line that
forbids to keep an asset unchecked is added to no other lines but those that neither identify the
asset nor speak of the cache (`composeHeaders_cases`). `compiled_headers` follows the lines all the
way.
-/

namespace AssetBundle

theorem Headers.has_iff {word : Text}
    (hword : (word.all fun d => d.val < 128 && d.val ≠ 107) = true) {hs : Headers} :
    has word hs = true ↔ ∃ line ∈ hs, Text.lower line.1 = word := by
  rw [has, List.any_eq_true]
  exact exists_congr fun line => and_congr_right fun _ => (Text.lower_eq_word_iff hword).symm

namespace Response

open Headers (typeLine tagLine ageValue codingLines)

/-- Whether a line identifies the asset or speaks of the cache, in any case of its name. -/
def IsCacheLine (line : Header) : Prop :=
  Text.lower line.1 = "etag" ∨ Text.lower line.1 = "cache-control"

theorem has_cacheLine_iff {hs : Headers} :
    (Headers.has "etag" hs || Headers.has "cache-control" hs) = true ↔
      ∃ line ∈ hs, IsCacheLine line := by
  rw [Bool.or_eq_true, Headers.has_iff (by decide), Headers.has_iff (by decide)]
  simp only [IsCacheLine, and_or_left, exists_or]

/-- Lines go out as they are and in order. One is added in front of them if none is about the
cache. -/
theorem composeHeaders_cases (hs : Headers) (length : Int) :
    ((∃ line ∈ hs, IsCacheLine line) →
      composeHeaders hs length = closingLine :: (hs ++ [sizeLine length])) ∧
    ((¬ ∃ line ∈ hs, IsCacheLine line) →
      composeHeaders hs length = closingLine :: cachingLine :: (hs ++ [sizeLine length])) := by
  rw [composeHeaders_eq, cachingLines]
  constructor
  · intro hline
    rw [if_pos (has_cacheLine_iff.2 hline)]
    rfl
  · intro hnone
    rw [if_neg (mt has_cacheLine_iff.1 hnone)]
    rfl

variable {contentType validator : Text} {age : Option Nat}

/-- An asset that is made of the lines for a media type, a validator and a maximum age has these
lines, is known by the validator, and is compressed if it is said to be. -/
theorem compiled_headers
    (htype : CodePoint.ofChar '\r' ∉ contentType ∧ Text.trim contentType = contentType)
    (hvalidator : validator.length = 40 ∧ CodePoint.ofChar '"' ∉ validator ∧
      CodePoint.ofChar '\r' ∉ validator)
    (hage : ∀ n ∈ age, (Text.ofNat n).length ≤ Integer.digitLimit) (compressed : Bool) (url : Text)
    (payload : Bytes) :
    (∃ hs r, Headers.revalidating contentType validator compressed (ageValue age) = .ok hs ∧
      Record.ofParts url (Headers.print hs) payload = .ok r ∧ r.headers = hs ∧
      hs = typeLine contentType :: tagLine validator ::
        (age.toList.map (fun n => Headers.cachingLine (Text.ofNat n)) ++ codingLines compressed) ∧
      r.validator? = some validator ∧ r.isCompressed = compressed ∧
      ∀ length, composeHeaders r.headers length = closingLine :: (hs ++ [sizeLine length])) ∧
    ∀ (other : Headers) (length : Int),
      ((∃ line ∈ other, IsCacheLine line) →
        composeHeaders other length = closingLine :: (other ++ [sizeLine length])) ∧
      ((¬ ∃ line ∈ other, IsCacheLine line) →
        composeHeaders other length =
          closingLine :: cachingLine :: (other ++ [sizeLine length])) := by
  refine ⟨?_, composeHeaders_cases⟩
  have hlines := Headers.revalidating_ageValue contentType validator compressed age fun n hn =>
    Integer.isTooLong_eq_false_iff.2 (hage n hn)
  have hplain : Headers.IsPlain (typeLine contentType) :=
    Headers.isPlain_of_value (by decide) htype.1 htype.2
  have hparse := Headers.parse_print_revalidating hplain hvalidator.2.2 hlines
  refine ⟨_, _, hlines, Record.ofParts_eq hparse url payload, rfl, rfl, ?_, ?_, fun length => ?_⟩
  · exact Record.validator?_of_headers rfl hvalidator.1 hvalidator.2.1
  · refine Record.isCompressed_of_headers rfl fun line hline => ?_
    obtain ⟨n, _, rfl⟩ := List.mem_map.1 hline
    exact ⟨_, rfl⟩
  · -- The line of the validator is one about the cache, so none is added.
    exact (composeHeaders_cases _ length).1 ⟨tagLine validator, by simp, .inl rfl⟩

/-- A compressed page that may be kept for an hour. -/
theorem compiled_headers_page :
    let validator : Text := List.replicate 40 (CodePoint.ofChar 'A')
    ∃ hs r, Headers.revalidating "text/html" validator true (.int 3600) = .ok hs ∧
      Record.ofParts "/" (Headers.print hs) [1, 2] = .ok r ∧ r.validator? = some validator ∧
      r.isCompressed = true ∧
      composeHeaders r.headers 2 = [closingLine, typeLine "text/html", tagLine validator,
        Headers.cachingLine "3600", Headers.codingLine, sizeLine 2] := by
  intro validator
  have hage : ∀ n ∈ some 3600, (Text.ofNat n).length ≤ Integer.digitLimit := by
    intro n hn
    cases hn
    decide
  obtain ⟨⟨hs, r, hlines, hrecord, _, rfl, hvalidator, hcompressed, hcompose⟩, _⟩ :=
    @compiled_headers "text/html" validator (some 3600) (by decide) (by decide) hage true "/" [1, 2]
  refine ⟨_, r, hlines, hrecord, hvalidator, hcompressed, ?_⟩
  rw [hcompose]
  rfl

end Response
end AssetBundle
