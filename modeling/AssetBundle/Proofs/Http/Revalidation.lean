import AssetBundle.Http.Reply
import AssetBundle.Proofs.Http.Request
import AssetBundle.Proofs.Text.Case

/-!
# AssetBundle.Proofs.Http.Revalidation

Which requests are answered without the asset. An element of a list of entity tags names a
validator if, between blanks, it is the whole validator behind at most one mark for weak
comparison and within any double quotes (`tagBody_eq_iff`). An asset has not been modified exactly
if some `If-None-Match` line of the request has such an element (`notModified_iff`).
-/

namespace AssetBundle

/-- A blank of a byte string is a blank of the text, and no capital. -/
theorem Latin1.point_of_isBlank {b : UInt8} (h : Bytes.isBlank b = true) :
    (point b).isBlank = true ∧ (point b).lowerAscii = point b := by
  have hval : b.toNat = 32 ∨ 9 ≤ b.toNat ∧ b.toNat ≤ 13 := by
    simpa [Bytes.isBlank, ← UInt8.toNat_inj, UInt8.le_iff_toNat_le] using h
  have hpoint : (point b).val = b.toNat := rfl
  constructor
  · rw [CodePoint.isBlank, CodePoint.within, List.any_eq_true]
    rcases hval with hval | hval
    · exact ⟨(28, 32), by decide, by simp [hpoint, hval]⟩
    · exact ⟨(9, 13), by decide, by simp [hpoint, hval]⟩
  · exact CodePoint.lowerAscii_of_not_capital (by omega)

namespace Request

/-- Whether a header name is the given word, in any case of its letters, with blanks around it. -/
def IsNamed (word : Text) (name : Bytes) : Prop :=
  ∃ front own back, name = front ++ (own ++ back) ∧ (∀ b ∈ front, Bytes.isBlank b = true) ∧
    (∀ b ∈ back, Bytes.isBlank b = true) ∧ Text.isWord word (Latin1.decode own) = true

/-- Whether a request has a line that names versions. -/
def IsConditional (request : Request) : Prop :=
  ∃ name value, HasLine request.headerBlock name value ∧ IsNamed "if-none-match" name

theorem readName_eq_iff {word : Text}
    (hword : (word.all fun c => c.val < 128 && !c.isBlank) = true) {name : Bytes} :
    readName name = word ↔ IsNamed word name := by
  have hascii : ∀ c ∈ word, c.val < 128 ∧ c.isBlank = false := by simpa using hword
  rw [readName, readField, CaseMapping.map_lowerPoint_eq_iff (fun c hc => (hascii c hc).1)
    (Latin1.encodes_decode _)]
  constructor
  · intro h
    obtain ⟨front, back, hname, hfront, hback⟩ := Sequence.exists_of_trim Bytes.isBlank name
    exact ⟨front, _, back, hname, hfront, hback, h⟩
  · rintro ⟨front, own, back, rfl, hfront, hback, hown⟩
    have hkept : ∀ b ∈ own, Bytes.isBlank b = false := by
      intro b hb
      rw [Bool.eq_false_iff]
      intro hbad
      obtain ⟨hpoint, hsame⟩ := Latin1.point_of_isBlank hbad
      have hmem : Latin1.point b ∈ word := by
        rw [← of_decide_eq_true hown, ← hsame]
        exact List.mem_map_of_mem (List.mem_map_of_mem hb)
      rw [(hascii _ hmem).2] at hpoint
      cases hpoint
    rwa [Bytes.trim, Sequence.trim_append hfront hback hkept]

end Request

namespace Revalidation

open Sequence (IsPiece)

/-- Whether an element of a list names a validator: the validator in any case of its letters, in
double quotes or without, behind a mark for weak comparison or without, with blanks around. -/
inductive Names (validator : Text) : Text → Prop
  | mk {front mark opening tag closing back : Text}
      (hfront : ∀ c ∈ front, c.isBlank = true) (hback : ∀ c ∈ back, c.isBlank = true)
      (hmark : mark = [] ∨ mark = weakMark)
      (hopening : ∀ c ∈ opening, Record.isDoubleQuote c = true)
      (hclosing : ∀ c ∈ closing, Record.isDoubleQuote c = true)
      (htag : Text.lowerAscii tag = Text.lowerAscii validator) :
      Names validator (front ++ ((mark ++ (opening ++ (tag ++ closing))) ++ back))

variable {validator element : Text}

theorem names_of_tagBody (hdigits : ∀ c ∈ validator, c.isHexDigit = true)
    (helement : Latin1.encodes element = true) (h : tagBody element = Text.upper validator) :
    Names validator element := by
  obtain ⟨front, back, htrim, hfront, hback⟩ :=
    Sequence.exists_of_trim CodePoint.isBlank element
  obtain ⟨mark, rest, hmark, hrest, hbody⟩ : ∃ mark rest, (mark = [] ∨ mark = weakMark) ∧
      Text.trim element = mark ++ rest ∧
      Text.upper (Sequence.trim Record.isDoubleQuote rest) = Text.upper validator := by
    rw [tagBody] at h
    split at h
    · next hprefix =>
      obtain ⟨rest, hrest⟩ := List.isPrefixOf_iff_prefix.1 hprefix
      rw [← hrest] at h
      exact ⟨weakMark, rest, .inr rfl, hrest.symm, h⟩
    · exact ⟨[], _, .inl rfl, rfl, h⟩
  obtain ⟨opening, closing, hquoted, hopening, hclosing⟩ :=
    Sequence.exists_of_trim Record.isDoubleQuote rest
  have hwhole : element = front ++ ((mark ++ (opening ++
      (Sequence.trim Record.isDoubleQuote rest ++ closing))) ++ back) := by
    rw [← hquoted, ← hrest]
    exact htrim
  have hkept : Latin1.encodes (Sequence.trim Record.isDoubleQuote rest) = true := by
    rw [hwhole] at helement
    simp only [Latin1.encodes_append, Bool.and_eq_true] at helement
    exact helement.2.1.2.2.1
  rw [hwhole]
  exact .mk hfront hback hmark hopening hclosing ((Text.upper_eq_upper_iff hdigits hkept).1 hbody)

/-- Digits and double quotes are not trimmed, and begin no mark. -/
theorem not_blank_of_inner {c : CodePoint}
    (h : Record.isDoubleQuote c = true ∨ c.isHexDigit = true) :
    c.isBlank = false ∧ c ≠ CodePoint.ofChar 'W' := by
  rcases h with h | h
  · rw [of_decide_eq_true h]
    decide
  · rw [CodePoint.isHexDigit_iff] at h
    refine ⟨CodePoint.not_blank_of_visible (by omega) (by omega), ?_⟩
    rintro rfl
    exact absurd h (by decide)

theorem tagBody_of_names (hdigits : ∀ c ∈ validator, c.isHexDigit = true)
    (helement : Latin1.encodes element = true) (h : Names validator element) :
    tagBody element = Text.upper validator := by
  cases h with
  | @mk front mark opening tag closing back hfront hback hmark hopening hclosing htag =>
    have htagHex : ∀ c ∈ tag, c.isHexDigit = true := by
      intro c hc
      have hmem : c.lowerAscii ∈ Text.lowerAscii validator := htag ▸ List.mem_map_of_mem hc
      obtain ⟨d, hd, hdc⟩ := List.mem_map.1 hmem
      rw [← CodePoint.isHexDigit_lowerAscii_iff, ← hdc, CodePoint.isHexDigit_lowerAscii_iff]
      exact hdigits d hd
    have hquoted : Sequence.trim Record.isDoubleQuote (opening ++ (tag ++ closing)) = tag := by
      refine Sequence.trim_append hopening hclosing fun c hc => ?_
      rw [Bool.eq_false_iff]
      intro hquote
      have := htagHex c hc
      rw [of_decide_eq_true hquote] at this
      exact absurd this (by decide)
    have hinner : ∀ c ∈ opening ++ (tag ++ closing),
        c.isBlank = false ∧ c ≠ CodePoint.ofChar 'W' := by
      intro c hc
      rw [List.mem_append, List.mem_append] at hc
      rcases hc with hc | hc | hc
      · exact not_blank_of_inner (.inl (hopening c hc))
      · exact not_blank_of_inner (.inr (htagHex c hc))
      · exact not_blank_of_inner (.inl (hclosing c hc))
    have htrim : Text.trim (front ++ ((mark ++ (opening ++ (tag ++ closing))) ++ back)) =
        mark ++ (opening ++ (tag ++ closing)) := by
      refine Sequence.trim_append hfront hback (List.forall_mem_append.2 ⟨?_, fun c hc =>
        (hinner c hc).1⟩)
      rcases hmark with rfl | rfl
      · simp
      · have hmark : (weakMark.all fun c => !c.isBlank) = true := by decide
        simpa using hmark
    have hupper : Text.upper tag = Text.upper validator := by
      simp only [Latin1.encodes_append, Bool.and_eq_true] at helement
      exact (Text.upper_eq_upper_iff hdigits helement.2.1.2.2.1).2 htag
    rw [tagBody, htrim]
    rcases hmark with rfl | rfl
    · have hnone : weakMark.isPrefixOf (opening ++ (tag ++ closing)) = false := by
        rw [Bool.eq_false_iff]
        intro hprefix
        have hfirst := (List.isPrefixOf_iff_prefix.1 hprefix).subset
          (show CodePoint.ofChar 'W' ∈ weakMark by decide)
        exact (hinner _ hfirst).2 rfl
      rw [List.nil_append, hnone, if_neg Bool.false_ne_true, hquoted, hupper]
    · have hfound : weakMark.isPrefixOf (weakMark ++ (opening ++ (tag ++ closing))) = true :=
        List.isPrefixOf_iff_prefix.2 (List.prefix_append _ _)
      rw [hfound, if_pos rfl, show (weakMark ++ (opening ++ (tag ++ closing))).drop 2 =
        opening ++ (tag ++ closing) from rfl, hquoted, hupper]

theorem tagBody_eq_iff (hdigits : ∀ c ∈ validator, c.isHexDigit = true)
    (helement : Latin1.encodes element = true) :
    tagBody element = Text.upper validator ↔ Names validator element :=
  ⟨names_of_tagBody hdigits helement, tagBody_of_names hdigits helement⟩

theorem lists_eq_true_iff {tag value : Text} :
    lists tag value = true ↔ tag ∈ (Sequence.splitOn comma value).map tagBody := by
  simp [lists]

theorem tagBody_trim {s t : Text} (h : Text.trim s = Text.trim t) : tagBody s = tagBody t := by
  rw [tagBody, tagBody, h]

/-- A header value has the same tags before its ends are trimmed. -/
theorem map_tagBody_trim (value : Bytes) :
    (Sequence.splitOn comma (Latin1.decode (Bytes.trim value))).map tagBody =
      (Sequence.splitOn comma (Latin1.decode value)).map tagBody := by
  obtain ⟨front, back, hvalue, hfront, hback⟩ := Sequence.exists_of_trim Bytes.isBlank value
  have hblank : ∀ {s : Bytes}, (∀ b ∈ s, Bytes.isBlank b = true) →
      ∀ c ∈ Latin1.decode s, c.isBlank = true := by
    intro s hs c hc
    obtain ⟨b, hb, rfl⟩ := List.mem_map.1 hc
    exact (Latin1.point_of_isBlank (hs b hb)).1
  have hcomma : ∀ {s : Bytes}, (∀ b ∈ s, Bytes.isBlank b = true) →
      CodePoint.ofChar ',' ∉ Latin1.decode s :=
    fun hs hmem => absurd (hblank hs _ hmem) (by decide)
  have hdecoded : Latin1.decode value =
      Latin1.decode front ++ (Latin1.decode (Bytes.trim value) ++ Latin1.decode back) := by
    rw [← Latin1.decode_append, ← Latin1.decode_append]
    exact congrArg _ hvalue
  have hseenFront : ∀ s, tagBody (Latin1.decode front ++ s) = tagBody s :=
    fun s => tagBody_trim (Sequence.trim_append_front (hblank hfront) s)
  have hseenBack : ∀ s, tagBody (s ++ Latin1.decode back) = tagBody s :=
    fun s => tagBody_trim (Sequence.trim_append_back (hblank hback) s)
  rw [hdecoded, comma]
  exact ((Sequence.map_splitOn_front (hcomma hfront) hseenFront _).trans
    (Sequence.map_splitOn_back (hcomma hback) hseenBack _)).symm

/-- A header value lists a validator exactly if one of its elements names it. Blanks at the ends of
the value belong to its first and last element. -/
theorem lists_iff (hdigits : ∀ c ∈ validator, c.isHexDigit = true) (value : Bytes) :
    lists (Text.upper validator) (Request.readField value) = true ↔
      ∃ element, IsPiece comma (Latin1.decode value) element ∧ Names validator element := by
  have hpieces := map_tagBody_trim value
  have hencodes : ∀ {element}, IsPiece comma (Latin1.decode value) element →
      Latin1.encodes element = true := by
    rintro element ⟨⟨front, back, hwhole, _⟩, _⟩
    have hall := Latin1.encodes_decode value
    rw [hwhole] at hall
    simp only [Latin1.encodes_append, Bool.and_eq_true] at hall
    exact hall.2.1
  rw [lists_eq_true_iff, Request.readField, hpieces, List.mem_map]
  constructor
  · rintro ⟨element, helement, hbody⟩
    have hpiece := (Sequence.mem_splitOn_iff (by simp)).1 helement
    exact ⟨element, hpiece, (tagBody_eq_iff hdigits (hencodes hpiece)).1 hbody⟩
  · rintro ⟨element, hpiece, hnames⟩
    exact ⟨element, (Sequence.mem_splitOn_iff (by simp)).2 hpiece,
      (tagBody_eq_iff hdigits (hencodes hpiece)).2 hnames⟩

theorem readName_condition_iff {name : Bytes} :
    Request.readName name = "if-none-match" ↔ Request.IsNamed "if-none-match" name :=
  Request.readName_eq_iff (by decide)

theorem notModified_of_not_conditional {r : Record} {request : Request}
    (h : ¬ request.IsConditional) : notModified r request = false := by
  rw [notModified]
  split
  · rfl
  · rw [List.any_eq_false]
    intro field hfield hmatch
    obtain ⟨name, value, hline, rfl⟩ := Request.mem_fields_iff.1 hfield
    rw [Bool.and_eq_true, decide_eq_true_eq] at hmatch
    exact h ⟨name, value, hline, readName_condition_iff.1 hmatch.1⟩

/-- An asset has not been modified exactly if a line of the request lists its validator. -/
theorem notModified_iff {r : Record} (hvalidator : r.validator? = some validator)
    (hdigits : ∀ c ∈ validator, c.isHexDigit = true) (request : Request) :
    notModified r request = true ↔ ∃ name value element,
      Request.HasLine request.headerBlock name value ∧ Request.IsNamed "if-none-match" name ∧
        IsPiece comma (Latin1.decode value) element ∧ Names validator element := by
  rw [notModified, hvalidator]
  dsimp only
  rw [List.any_eq_true]
  constructor
  · rintro ⟨field, hfield, hmatch⟩
    obtain ⟨name, value, hline, rfl⟩ := Request.mem_fields_iff.1 hfield
    rw [Bool.and_eq_true, decide_eq_true_eq, lists_iff hdigits] at hmatch
    obtain ⟨hname, element, hpiece, hnames⟩ := hmatch
    exact ⟨name, value, element, hline,
      readName_condition_iff.1 hname, hpiece, hnames⟩
  · rintro ⟨name, value, element, hline, hname, hpiece, hnames⟩
    refine ⟨_, Request.mem_fields_iff.2 ⟨name, value, hline, rfl⟩, ?_⟩
    rw [Bool.and_eq_true, decide_eq_true_eq, lists_iff hdigits]
    exact ⟨readName_condition_iff.2 hname, element, hpiece, hnames⟩

/-- A weak tag in small letters, behind another tag, in a line between others. -/
theorem notModified_weak :
    let r : Record := ⟨"/", "Etag: \"00112233445566778899AABBCCDDEEFF00112233\"\r\n", [],
      [("Etag", "\"00112233445566778899AABBCCDDEEFF00112233\"")], by rfl⟩
    let front := ("A: b\r\n" : Text).flatMap Utf8.encodePoint
    let name := ("if-NONE-match " : Text).flatMap Utf8.encodePoint
    let value := ("\t\"x\" ,W/\"00112233445566778899aabbccddeeff00112233\" " : Text).flatMap
      Utf8.encodePoint
    let back := ("\r\nC: d" : Text).flatMap Utf8.encodePoint
    notModified r ⟨"GET", "/", front ++ ((name ++ 0x3A :: value) ++ back)⟩ = true := by
  intro r front name value back
  have hvalidator : r.validator? = some "00112233445566778899AABBCCDDEEFF00112233" := by rfl
  have hdigits : ("00112233445566778899AABBCCDDEEFF00112233" : Text).all CodePoint.isHexDigit =
      true := by decide
  have hline : Request.HasLine (front ++ ((name ++ 0x3A :: value) ++ back)) name value :=
    ⟨⟨⟨front, back, rfl, .inr (List.isSuffixOf_iff_suffix.1 (by decide +kernel)),
      .inr (List.isPrefixOf_iff_prefix.1 (by decide +kernel))⟩,
      Sequence.cutAt?_eq_none_iff.1 (by decide +kernel)⟩, by decide +kernel⟩
  have hname : Request.IsNamed "if-none-match" name :=
    ⟨[], ("if-NONE-match" : Text).flatMap Utf8.encodePoint, [0x20], by decide +kernel, by simp,
      List.all_eq_true.1 (by decide), by decide +kernel⟩
  have hnames := @Names.mk "00112233445566778899AABBCCDDEEFF00112233" [] weakMark "\""
    "00112233445566778899aabbccddeeff00112233" "\"" " " (List.all_eq_true.1 rfl)
    (List.all_eq_true.1 rfl) (.inr rfl) (List.all_eq_true.1 rfl) (List.all_eq_true.1 rfl)
    (by decide)
  exact (notModified_iff hvalidator (List.all_eq_true.1 hdigits) _).2
    ⟨name, value, _, hline, hname, ⟨⟨"\t\"x\" ,", [], by decide +kernel,
      .inr (List.isSuffixOf_iff_suffix.1 (by decide)), .inl rfl⟩,
      Sequence.cutAt?_eq_none_iff.1 (by decide +kernel)⟩, hnames⟩

end Revalidation
end AssetBundle
