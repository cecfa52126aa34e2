import AssetBundle.Asset.ContentType
import AssetBundle.Asset.Record
import AssetBundle.Asset.Validator
import AssetBundle.Keyed
import AssetBundle.Proofs.Cutting
import AssetBundle.Proofs.Text.Latin1

/-!
# AssetBundle.Proofs.Asset.Headers

Header lines that are printed are read back (`parse_print`): no line ends inside a name or a value,
a name ends at the first colon, and trimming drops just the blank that was printed behind the
colon. All lines that were read from a set of complete lines are such (`isPlain_of_parse`). So
are those that are composed for an asset (`parse_print_revalidating`), whose validator and coding
are read off them again (`Record.validator?_of_headers`, `Record.isCompressed_of_headers`). Those of
a compiled asset can be encoded in Latin-1 (`isLatin1_revalidating`).
-/

namespace AssetBundle

/-- The content type of a name is one of those that are admitted. -/
theorem ContentType.mem_of_ofName? {name contentType : Text}
    (h : ofName? name = some contentType) : ∃ entry ∈ admitted, entry.2 = contentType := by
  rw [ofName?] at h
  split at h
  · cases h
  · exact ⟨_, Keyed.mem_of_lookup h, rfl⟩

namespace Headers

/-- Whether a line is read back as it is: nothing in it ends the name or the line early, and no
blank stands at the ends of name and value. -/
structure IsPlain (h : Header) : Prop where
  noColon : CodePoint.ofChar ':' ∉ h.1
  nameInLine : ¬ lineEnd <:+: h.1
  valueInLine : ¬ lineEnd <:+: h.2
  trimmedName : Text.trim h.1 = h.1
  trimmedValue : Text.trim h.2 = h.2

/-- A header line without its end. -/
def lineOf (h : Header) : Text := h.1 ++ ((": " : Text) ++ h.2)

theorem printLine_eq (h : Header) : printLine h = lineOf h ++ lineEnd := by
  simp [printLine, lineOf, List.append_assoc]

theorem parseLine_lineOf {h : Header} (hplain : IsPlain h) : parseLine (lineOf h) = .ok h := by
  have hcut : Sequence.cutAt? colon (lineOf h) = some (h.1, CodePoint.ofChar ' ' :: h.2) :=
    Sequence.cutAt?_singleton hplain.noColon _
  have hvalue : Text.trim (CodePoint.ofChar ' ' :: h.2) = Text.trim h.2 := rfl
  rw [parseLine, hcut]
  dsimp only
  rw [hplain.trimmedName, hvalue, hplain.trimmedValue]

/-- No line ends across the colon or the blank behind it. -/
theorem unbroken_lineOf {h : Header} (hplain : IsPlain h) : ¬ lineEnd <:+: lineOf h := by
  intro hend
  rcases Sequence.infix_of_infix_append_cons (by decide) hend with hname | hrest
  · exact hplain.nameInLine hname
  · have hblank : lineEnd <:+: [] ++ CodePoint.ofChar ' ' :: h.2 := hrest
    rcases Sequence.infix_of_infix_append_cons (by decide) hblank with hnone | hvalue
    · exact absurd (hnone.subset List.mem_cons_self) List.not_mem_nil
    · exact hplain.valueInLine hvalue

/-- Whether header lines can be encoded. -/
def IsLatin1 (hs : Headers) : Prop :=
  ∀ h ∈ hs, Latin1.encodes h.1 = true ∧ Latin1.encodes h.2 = true

variable {hs : Headers}

theorem encodes_print (h : IsLatin1 hs) : Latin1.encodes (print hs) = true := by
  rw [Latin1.encodes, print, List.all_flatMap, List.all_eq_true]
  intro line hline
  obtain ⟨hname, hvalue⟩ := h line hline
  have hcolon : Latin1.encodes (": " : Text) = true := rfl
  have hend : Latin1.encodes lineEnd = true := rfl
  change Latin1.encodes (printLine line) = true
  simp [printLine, hname, hvalue, hcolon, hend]

/-- The pieces of printed lines, with an empty one behind the last end. -/
theorem splitOn_print (hplain : ∀ h ∈ hs, IsPlain h) :
    Sequence.splitOn lineEnd (print hs) = hs.map lineOf ++ [[]] := by
  have hlines : print hs = (hs.map lineOf).flatMap fun line => line ++ lineEnd := by
    rw [print, List.flatMap_map, funext printLine_eq]
  rw [hlines, lineEnd]
  refine Sequence.splitOn_unlines (by decide) fun line hline => ?_
  obtain ⟨h, hh, rfl⟩ := List.mem_map.1 hline
  exact unbroken_lineOf (hplain h hh)

theorem parseLines_map (hplain : ∀ h ∈ hs, IsPlain h) :
    ∀ done, parseLines done (hs.map lineOf) = .ok (done.reverse ++ hs) := by
  induction hs with
  | nil => intro done; simp [parseLines]
  | cons h hs ih =>
    intro done
    rw [List.map_cons, parseLines, parseLine_lineOf (hplain h (by simp))]
    dsimp only
    rw [ih fun h hh => hplain h (by simp [hh])]
    simp

theorem isLineSet_print (hne : hs ≠ []) : isLineSet (print hs) = true := by
  obtain ⟨front, last, rfl⟩ := (List.eq_nil_or_concat hs).resolve_left hne
  rw [isLineSet, List.isSuffixOf_iff_suffix]
  refine ⟨print front ++ lineOf last, ?_⟩
  simp [print, printLine_eq, List.append_assoc]

theorem parse_print (hne : hs ≠ []) (hplain : ∀ h ∈ hs, IsPlain h) :
    parse (print hs) = .ok hs := by
  have hlines : ((hs.map lineOf ++ [[]]).filter fun line => !line.isEmpty) = hs.map lineOf := by
    rw [List.filter_append, List.filter_eq_self.2]
    · simp
    · intro line hline
      obtain ⟨⟨name, value⟩, _, rfl⟩ := List.mem_map.1 hline
      cases name <;> rfl
  rw [parse, isLineSet_print hne, if_pos rfl, splitOn_print hplain, hlines, parseLines_map hplain]
  rfl

theorem isPlain_of_parseLine {line : Text} {h : Header} (hline : ¬ lineEnd <:+: line)
    (hparse : parseLine line = .ok h) : IsPlain h := by
  rw [parseLine] at hparse
  split at hparse
  · next name value hcut =>
    obtain ⟨rfl, hcolon⟩ := Sequence.cutAt?_singleton_iff.1 hcut
    cases hparse
    have hname := Sequence.trim_infix CodePoint.isBlank name
    have hvalue := Sequence.trim_infix CodePoint.isBlank value
    refine ⟨fun hmem => hcolon (hname.subset hmem), fun hend => hline ?_, fun hend => hline ?_,
      Sequence.trim_trim _ _, Sequence.trim_trim _ _⟩
    · exact (hend.trans hname).trans (List.prefix_append _ _).isInfix
    · exact (hend.trans hvalue).trans ⟨name ++ [0x3A], [], by simp⟩
  · cases hparse

theorem mem_of_parseLines {lines : List Text} :
    ∀ {done hs : Headers}, parseLines done lines = .ok hs → ∀ h ∈ hs,
      h ∈ done ∨ ∃ line ∈ lines, parseLine line = .ok h := by
  induction lines with
  | nil =>
    intro done hs hparse h hh
    cases hparse
    exact .inl (List.mem_reverse.1 hh)
  | cons line lines ih =>
    intro done hs hparse h hh
    rw [parseLines] at hparse
    split at hparse
    · next header hheader =>
      rcases ih hparse h hh with hdone | ⟨other, hother, hread⟩
      · rcases List.mem_cons.1 hdone with rfl | hdone
        · exact .inr ⟨line, List.mem_cons_self, hheader⟩
        · exact .inl hdone
      · exact .inr ⟨other, List.mem_cons_of_mem _ hother, hread⟩
    · cases hparse

/-- Lines that were read from a set of complete lines are read back if they are printed. -/
theorem isPlain_of_parse {contentType : Text} {hs : Headers} (hset : isLineSet contentType = true)
    (hparse : parse contentType = .ok hs) : ∀ h ∈ hs, IsPlain h := by
  intro h hh
  rw [parse, if_pos hset] at hparse
  rcases mem_of_parseLines hparse h hh with hnone | ⟨line, hline, hread⟩
  · cases hnone
  · have hpiece := Sequence.isPiece_of_mem_splitOn (by decide) (List.mem_filter.1 hline).1
    exact isPlain_of_parseLine hpiece.unbroken hread

/-- No blank is taken from a text that neither begins nor ends with one. -/
theorem trim_eq_self {t : Text} (hhead : ∀ c, t.head? = some c → c.isBlank = false)
    (hlast : ∀ c, t.getLast? = some c → c.isBlank = false) : Text.trim t = t :=
  Sequence.trim_eq_self hhead hlast

theorem isPlain_of_value {name value : Text}
    (hname : CodePoint.ofChar ':' ∉ name ∧ CodePoint.ofChar '\r' ∉ name ∧ Text.trim name = name)
    (hline : CodePoint.ofChar '\r' ∉ value) (htrim : Text.trim value = value) :
    IsPlain (name, value) :=
  ⟨hname.1, Sequence.not_infix_of_not_mem hname.2.1, Sequence.not_infix_of_not_mem hline, hname.2.2,
    htrim⟩

theorem isPlain_contentType {name contentType : Text}
    (h : ContentType.ofName? name = some contentType) : IsPlain ("Content-Type", contentType) := by
  have hadmitted : ∀ entry ∈ ContentType.admitted,
      CodePoint.ofChar '\r' ∉ entry.2 ∧ Text.trim entry.2 = entry.2 := by decide
  obtain ⟨entry, hentry, rfl⟩ := ContentType.mem_of_ofName? h
  obtain ⟨hline, htrim⟩ := hadmitted entry hentry
  exact isPlain_of_value (by decide) hline htrim

/-- A text in double quotes is a value, whatever blanks it begins or ends with. -/
theorem isPlain_quoted {name t : Text}
    (hname : CodePoint.ofChar ':' ∉ name ∧ CodePoint.ofChar '\r' ∉ name ∧ Text.trim name = name)
    (ht : CodePoint.ofChar '\r' ∉ t) :
    IsPlain (name, ("\"" : Text) ++ (t ++ ("\"" : Text))) := by
  refine isPlain_of_value hname ?_ (trim_eq_self ?_ ?_)
  · rw [List.mem_append, List.mem_append, not_or, not_or]
    exact ⟨by decide, ht, by decide⟩
  · intro c hc
    cases hc
    decide
  · intro c hc
    rw [← List.append_assoc, List.getLast?_append] at hc
    cases hc
    decide

/-- A maximum age ends in a digit, and no line ends in it. -/
theorem age_eq_ok {v : Value} {age : Text} (h : formatAge v = .ok age) :
    CodePoint.ofChar '\r' ∉ age ∧ ∃ c, age.getLast? = some c ∧ c.isDecimal = true := by
  have hnat : ∀ n : Nat, CodePoint.ofChar '\r' ∉ Text.ofNat n ∧
      ∃ c, (Text.ofNat n).getLast? = some c ∧ c.isDecimal = true := by
    intro n
    refine ⟨fun hmem => absurd (Text.isDecimal_of_mem_ofNat hmem) (by decide), ?_⟩
    obtain ⟨c, hc⟩ := Option.isSome_iff_exists.1
      (List.getLast?_isSome.2 (Text.ofNat_ne_nil n))
    exact ⟨c, hc, Text.isDecimal_of_mem_ofNat (List.mem_of_getLast? hc)⟩
  cases v with
  | bool b =>
    cases b <;> cases h
    · exact ⟨by decide, _, rfl, by decide⟩
    · exact ⟨by decide, _, rfl, by decide⟩
  | int n =>
    rw [formatAge] at h
    split at h
    · cases h
    · cases h
      cases n with
      | ofNat n => exact hnat n
      | negSucc n =>
        obtain ⟨hline, c, hc, hdecimal⟩ := hnat (n + 1)
        refine ⟨?_, c, ?_, hdecimal⟩
        · rw [Text.ofInt, List.mem_cons, not_or]
          exact ⟨by decide, hline⟩
        · rw [Text.ofInt, List.getLast?_cons, hc]
          rfl
  | _ => cases h

def cachingLine (age : Text) : Header :=
  ("Cache-Control", "public, must-revalidate, max-age=" ++ age)

theorem isPlain_caching {v : Value} {age : Text} (h : formatAge v = .ok age) :
    IsPlain (cachingLine age) := by
  obtain ⟨hline, last, hlast, hdecimal⟩ := age_eq_ok h
  refine isPlain_of_value (by decide) ?_ (trim_eq_self ?_ ?_)
  · rw [List.mem_append, not_or]
    exact ⟨by decide, hline⟩
  · intro c hc
    cases hc
    decide
  · intro c hc
    rw [List.getLast?_append, hlast] at hc
    cases hc
    exact CodePoint.not_blank_of_isDecimal hdecimal

def typeLine (contentType : Text) : Header := ("Content-Type", contentType)

def tagLine (validator : Text) : Header :=
  ("Etag", ("\"" : Text) ++ (validator ++ ("\"" : Text)))

def codingLine : Header := ("Content-Encoding", "gzip")

def codingLines (compressed : Bool) : Headers := if compressed then [codingLine] else []

theorem eq_of_mem_codingLines {compressed : Bool} {line : Header}
    (h : line ∈ codingLines compressed) : line = codingLine := by
  rw [codingLines] at h
  split at h
  · exact List.mem_singleton.1 h
  · cases h

section Revalidating

variable {contentType validator : Text} {compressed : Bool} {maxAge : Value} {hs : Headers}

/-- The lines of an asset: media type and validator first, and the coding last. -/
theorem revalidating_eq_ok (h : revalidating contentType validator compressed maxAge = .ok hs) :
    ∃ caching : Headers,
      (∀ line ∈ caching, ∃ age, formatAge maxAge = .ok age ∧ line = cachingLine age) ∧
      hs = typeLine contentType :: tagLine validator :: (caching ++ codingLines compressed) := by
  unfold revalidating at h
  dsimp only at h
  split at h
  · cases h
    exact ⟨[], by simp, rfl⟩
  · split at h
    · cases h
    · next age hage =>
      cases h
      refine ⟨[cachingLine age], ?_, rfl⟩
      intro line hline
      cases List.mem_singleton.1 hline
      exact ⟨age, hage, rfl⟩

/-- A maximum age as it is given from outside, if one is. -/
def ageValue : Option Nat → Value
  | none => .none
  | some n => .int n

/-- The lines of an asset whose maximum age, if there is one, is short enough to be written. -/
theorem revalidating_ageValue (contentType validator : Text) (compressed : Bool) (age : Option Nat)
    (hage : ∀ n ∈ age, Integer.isTooLong n = false) :
    revalidating contentType validator compressed (ageValue age) =
      .ok (typeLine contentType :: tagLine validator ::
        (age.toList.map (fun n => cachingLine (Text.ofNat n)) ++ codingLines compressed)) := by
  cases age with
  | none => rfl
  | some n =>
    have hformat : formatAge (.int n) = .ok (Text.ofNat n) := by
      rw [formatAge, hage n rfl]
      rfl
    unfold revalidating ageValue
    dsimp only
    rw [hformat]
    rfl

theorem parse_print_revalidating (htype : IsPlain (typeLine contentType))
    (hvalidator : CodePoint.ofChar '\r' ∉ validator)
    (h : revalidating contentType validator compressed maxAge = .ok hs) :
    parse (print hs) = .ok hs := by
  obtain ⟨caching, hcaching, rfl⟩ := revalidating_eq_ok h
  refine parse_print (by simp) ?_
  rw [List.forall_mem_cons, List.forall_mem_cons, List.forall_mem_append]
  refine ⟨htype, isPlain_quoted (by decide) hvalidator, ?_, ?_⟩
  · intro line hline
    obtain ⟨age, hage, rfl⟩ := hcaching line hline
    exact isPlain_caching hage
  · intro line hline
    rw [eq_of_mem_codingLines hline]
    exact isPlain_of_value (by decide) (by decide) (by decide)

theorem encodes_age {v : Value} {age : Text} (h : formatAge v = .ok age) :
    Latin1.encodes age = true := by
  cases v with
  | bool b => cases b <;> cases h <;> rfl
  | int n =>
    rw [formatAge] at h
    split at h
    · cases h
    · cases h
      exact Latin1.encodes_ofInt n
  | _ => cases h

theorem isLatin1_revalidating {name : Text} (hname : ContentType.ofName? name = some contentType)
    (hvalidator : Latin1.encodes validator = true)
    (h : revalidating contentType validator compressed maxAge = .ok hs) : IsLatin1 hs := by
  have hadmitted : ∀ entry ∈ ContentType.admitted, Latin1.encodes entry.2 = true := by decide
  have hquote : Latin1.encodes ("\"" : Text) = true := rfl
  have hstart : Latin1.encodes ("public, must-revalidate, max-age=" : Text) = true := rfl
  obtain ⟨caching, hcaching, rfl⟩ := revalidating_eq_ok h
  obtain ⟨entry, hentry, rfl⟩ := ContentType.mem_of_ofName? hname
  rw [IsLatin1, List.forall_mem_cons, List.forall_mem_cons, List.forall_mem_append]
  refine ⟨⟨rfl, hadmitted entry hentry⟩, ⟨rfl, by simp [tagLine, hquote, hvalidator]⟩, ?_, ?_⟩
  · intro line hline
    obtain ⟨age, hage, rfl⟩ := hcaching line hline
    exact ⟨rfl, by simp [cachingLine, hstart, encodes_age hage]⟩
  · intro line hline
    rw [eq_of_mem_codingLines hline]
    exact ⟨rfl, rfl⟩

end Revalidating

end Headers

namespace Record

open Headers (typeLine tagLine cachingLine codingLines)

variable {r : Record} {contentType validator : Text} {compressed : Bool}

theorem ofParts_eq {hs : Headers} (h : Headers.parse contentType = .ok hs) (url : Text)
    (payload : Bytes) :
    ofParts url contentType payload = .ok ⟨url, contentType, payload, hs, h⟩ := by
  rw [ofParts]
  split
  · next other hother =>
    cases hother.symm.trans h
    rfl
  · next e he => cases he.symm.trans h

/-- The validator is found behind the media type, and without its quotes. -/
theorem validator?_of_headers {rest : Headers}
    (h : r.headers = typeLine contentType :: tagLine validator :: rest)
    (hlength : validator.length = validatorLength) (hquote : CodePoint.ofChar '"' ∉ validator) :
    r.validator? = some validator := by
  have hvalue : Headers.value? "etag" r.headers =
      some (("\"" : Text) ++ (validator ++ ("\"" : Text))) := by
    rw [h]
    rfl
  have hquotes : ∀ c ∈ ("\"" : Text), isDoubleQuote c = true := by
    intro c hc
    cases List.mem_singleton.1 hc
    rfl
  have htrim : Sequence.trim isDoubleQuote (("\"" : Text) ++ (validator ++ ("\"" : Text))) =
      validator := by
    refine Sequence.trim_append hquotes hquotes fun c hc => decide_eq_false ?_
    rintro rfl
    exact hquote hc
  rw [validator?, hvalue]
  dsimp only
  rw [htrim, if_pos hlength]

/-- A record is compressed if there is a line for the coding behind those for the cache. -/
theorem isCompressed_of_headers {caching : Headers}
    (h : r.headers =
      typeLine contentType :: tagLine validator :: (caching ++ codingLines compressed))
    (hcaching : ∀ line ∈ caching, ∃ age, line = cachingLine age) : r.isCompressed = compressed := by
  have hnone : caching.find? (fun line => Text.isWord "content-encoding" line.1) = none := by
    rw [List.find?_eq_none]
    intro line hline
    obtain ⟨age, rfl⟩ := hcaching line hline
    exact Bool.false_ne_true
  have hfind : r.headers.find? (fun line => Text.isWord "content-encoding" line.1) =
      (codingLines compressed).find? fun line => Text.isWord "content-encoding" line.1 := by
    rw [h, List.find?_cons_of_neg (by exact Bool.false_ne_true),
      List.find?_cons_of_neg (by exact Bool.false_ne_true), List.find?_append, hnone]
    rfl
  rw [isCompressed, Headers.value?, hfind]
  cases compressed <;> rfl

end Record
end AssetBundle
