import AssetBundle.Proofs.Http.Request
import AssetBundle.Proofs.Http.Response
import AssetBundle.Proofs.Keyed
import AssetBundle.Proofs.Number.Integer
import AssetBundle.Proofs.Text.Case

/-!
# AssetBundle.Proofs.Http.ResponseReading

Reading undoes writing. A head with plain header lines ends where it was ended (`isCut_headText`),
and reading finds the status, the header lines and the body (`parse_headText`). Of a repeated name
it keeps the last line (`find?_ofList`).
-/

namespace AssetBundle

namespace Fields

variable {key : Text}

theorem foldl_put_eq (hs : Headers) :
    hs.foldl put [] = Keyed.ofList (hs.map fun h => (Text.lower h.1, h)) := by
  rw [Keyed.ofList, List.foldl_map]
  rfl

/-- The field of a name is the last line of that name. -/
theorem lookup_foldl_put (hs : Headers) :
    (hs.foldl put []).lookup key = (hs.filter fun h => Text.lower h.1 = key).getLast? := by
  rw [foldl_put_eq, Keyed.lookup_ofList, List.filter_map, List.getLast?_map, Option.map_map]
  exact Option.map_id'

theorem key_of_mem (hs : Headers) : ∀ pair ∈ hs.foldl put [], pair.1 = Text.lower pair.2.1 := by
  intro pair hpair
  rw [foldl_put_eq] at hpair
  obtain ⟨h, _, rfl⟩ := List.mem_map.1 (Keyed.mem_of_mem_ofList hpair)
  rfl

theorem find?_ofList (hs : Headers) :
    (ofList hs).find? (fun h => Text.lower h.1 = key) =
      (hs.filter fun h => Text.lower h.1 = key).getLast? := by
  have hlookup : ∀ {pairs : List (Text × Header)}, (∀ pair ∈ pairs, pair.1 = Text.lower pair.2.1) →
      (pairs.map Prod.snd).find? (fun h => Text.lower h.1 = key) = pairs.lookup key := by
    intro pairs
    induction pairs with
    | nil => intro _; rfl
    | cons pair pairs ih =>
      intro hpairs
      rw [List.forall_mem_cons] at hpairs
      obtain ⟨own, h⟩ := pair
      have hown : own = Text.lower h.1 := hpairs.1
      have hsame : (key == own) = decide (Text.lower h.1 = key) := by
        rw [hown, Bool.eq_iff_iff, beq_iff_eq, decide_eq_true_eq, eq_comm]
      rw [List.map_cons, List.find?_cons, List.lookup_cons, ih hpairs.2, hsame]
  rw [ofList, hlookup (key_of_mem hs), lookup_foldl_put]

/-- A header whose name has no small k is found by its last line. -/
theorem value?_ofList {word : Text}
    (hword : (word.all fun d => d.val < 128 && d.val ≠ 107) = true) (hs : Headers) :
    Headers.value? word (ofList hs) =
      (hs.filter fun h => Text.isWord word h.1).getLast?.map Prod.snd := by
  have hname : (fun h : Header => Text.isWord word h.1) =
      fun h => decide (Text.lower h.1 = word) := by
    funext h
    rw [Bool.eq_iff_iff, decide_eq_true_eq]
    exact (Text.lower_eq_word_iff hword).symm
  rw [Headers.value?, hname, find?_ofList]

end Fields

namespace Response

open Sequence (IsCut)
open Headers (IsPlain lineOf lineEnd)

variable {r : Response}

def statusLine (r : Response) : Text :=
  ("HTTP/1.1" : Text) ++ 0x20 :: (Text.ofInt r.status ++ 0x20 :: Status.reason r.status)

/-- The lines of a head, without their ends. -/
def headLines (r : Response) : List Text := r.statusLine :: r.headers.map lineOf

theorem headText_eq (r : Response) :
    r.headText = List.intercalate lineEnd r.headLines ++ (lineEnd ++ lineEnd) := by
  have hprint : Headers.print r.headers =
      (r.headers.map lineOf).flatMap fun line => line ++ lineEnd := by
    rw [Headers.print, List.flatMap_map, funext Headers.printLine_eq]
  have hstatus : ("HTTP/1.1 " : Text) ++ Text.ofInt r.status ++ (" " : Text) ++
      Status.reason r.status = r.statusLine := by
    rw [List.append_assoc, List.append_assoc]
    rfl
  calc
    r.headText = r.headLines.flatMap (fun line => line ++ lineEnd) ++ lineEnd := by
      rw [headText, hstatus, hprint, headLines, List.flatMap_cons, List.append_assoc,
        List.append_assoc]
    _ = List.intercalate lineEnd r.headLines ++ (lineEnd ++ lineEnd) := by
      rw [headLines, Sequence.flatMap_append_eq_intercalate, List.append_assoc]

/-- No line is empty or ends early in a head. -/
theorem unbroken_of_mem_headLines (hplain : ∀ h ∈ r.headers, IsPlain h) {line : Text}
    (hline : line ∈ r.headLines) : line ≠ [] ∧ ¬ lineEnd <:+: line := by
  rcases List.mem_cons.1 hline with rfl | hline
  · refine ⟨List.append_ne_nil_of_right_ne_nil _ (List.cons_ne_nil _ _),
      Sequence.not_infix_of_not_mem ?_⟩
    rw [statusLine, List.mem_append, List.mem_cons, List.mem_append, List.mem_cons]
    rintro (h | h | h | h | h)
    · exact absurd h (by decide)
    · exact absurd h (by decide)
    · exact Text.not_mem_ofInt (by decide) h
    · exact absurd h (by decide)
    · exact Status.not_mem_reason _ h
  · obtain ⟨h, hh, rfl⟩ := List.mem_map.1 hline
    exact ⟨List.append_ne_nil_of_right_ne_nil _ (List.cons_ne_nil _ _),
      Headers.unbroken_lineOf (hplain h hh)⟩

theorem encodes_headLines (hlatin : Latin1.encodes r.headText = true) :
    Latin1.encodes (List.intercalate lineEnd r.headLines) = true := by
  rw [headText_eq, Latin1.encodes_append, Bool.and_eq_true] at hlatin
  exact hlatin.1

theorem bytes_headText (r : Response) :
    Latin1.bytes r.headText =
      List.intercalate Request.lineEnd (r.headLines.map Latin1.bytes) ++ Request.headEnd := by
  rw [headText_eq, Latin1.bytes_append, headLines, Latin1.bytes_intercalate]
  rfl

/-- A head ends where it was ended. -/
theorem isCut_headText (hplain : ∀ h ∈ r.headers, IsPlain h)
    (hlatin : Latin1.encodes r.headText = true) (rest : Bytes) :
    IsCut Request.headEnd (Latin1.bytes r.headText ++ rest)
      (List.intercalate Request.lineEnd (r.headLines.map Latin1.bytes)) rest := by
  have hlines : ∀ l ∈ r.headLines.map Latin1.bytes, Request.IsLine l := by
    intro l hl
    obtain ⟨line, hline, rfl⟩ := List.mem_map.1 hl
    obtain ⟨hne, hunbroken⟩ := unbroken_of_mem_headLines hplain hline
    refine ⟨by simpa [Latin1.bytes] using hne, fun hend => hunbroken ?_⟩
    have hdecoded : Latin1.decode Request.lineEnd <:+: Latin1.decode (Latin1.bytes line) :=
      hend.map Latin1.point
    have hencodes : Latin1.encodes line = true := List.all_eq_true.2 fun c hc =>
      List.all_eq_true.1 (encodes_headLines hlatin) c (Sequence.mem_intercalate_of_mem hc hline)
    rwa [Latin1.decode_bytes hencodes] at hdecoded
  rw [bytes_headText, List.append_assoc]
  exact Request.isCut_headEnd hlines rest

theorem isPlain_composeHeaders {hs : Headers} (hplain : ∀ h ∈ hs, IsPlain h) (length : Int) :
    ∀ h ∈ composeHeaders hs length, IsPlain h := by
  intro h hh
  rcases mem_composeHeaders hh with rfl | rfl | hh | rfl
  · exact Headers.isPlain_of_value (by decide) (by decide) (by decide)
  · exact Headers.isPlain_of_value (by decide) (by decide) (by decide)
  · exact hplain h hh
  · have hvisible : ∀ c ∈ Text.ofInt length, c.isBlank = false := by
      intro c hc
      rcases Text.isDecimal_of_mem_ofInt hc with hdigit | rfl
      · exact CodePoint.not_blank_of_isDecimal hdigit
      · decide
    exact Headers.isPlain_of_value (by decide) (Text.not_mem_ofInt (by decide))
      (Headers.trim_eq_self (fun c hc => hvisible c (List.mem_of_head? hc))
        fun c hc => hvisible c (List.mem_of_getLast? hc))

theorem readLine_lineOf {h : Header} (hplain : IsPlain h) : readLine (lineOf h) = h := by
  have hparse := Headers.parseLine_lineOf hplain
  rw [Headers.parseLine] at hparse
  rw [readLine]
  cases hcut : Sequence.cutAt? Headers.colon (lineOf h) with
  | none =>
    rw [hcut] at hparse
    cases hparse
  | some cut =>
    rw [hcut] at hparse
    exact Except.ok.inj hparse

/-- The lines of a head are read back from its bytes. -/
theorem splitOn_headLines (hplain : ∀ h ∈ r.headers, IsPlain h)
    (hlatin : Latin1.encodes r.headText = true) :
    Sequence.splitOn lineEnd (Latin1.decode
      (List.intercalate Request.lineEnd (r.headLines.map Latin1.bytes))) = r.headLines := by
  have hbytes : List.intercalate Request.lineEnd (r.headLines.map Latin1.bytes) =
      Latin1.bytes (List.intercalate lineEnd r.headLines) := by
    rw [headLines, Latin1.bytes_intercalate]
    rfl
  rw [hbytes, Latin1.decode_bytes (encodes_headLines hlatin)]
  exact Sequence.splitOn_intercalate (by decide)
    fun line hline => (unbroken_of_mem_headLines hplain hline).2

/-- The status is the second word of its line, whatever the reason behind it. -/
theorem words_statusLine (r : Response) :
    ∃ word words, Sequence.splitOn [0x20] (r.statusLine ++ [0x20]) =
      ("HTTP/1.1" : Text) :: Text.ofInt r.status :: word :: words := by
  obtain ⟨word, words, hreason⟩ : ∃ word words,
      Sequence.splitOn [0x20] (Status.reason r.status ++ [0x20]) = word :: words := by
    rw [Sequence.splitOn_eq (by simp)]
    split
    · exact ⟨_, _, rfl⟩
    · exact ⟨_, _, rfl⟩
  refine ⟨word, words, ?_⟩
  rw [statusLine, List.append_assoc, List.cons_append, List.append_assoc, List.cons_append,
    Sequence.splitOn_singleton_cons (by decide),
    Sequence.splitOn_singleton_cons (Text.not_mem_ofInt (by decide)), hreason]

/-- Reading what was written gives the status, the last header line of each name, and the body. -/
theorem parse_headText (hplain : ∀ h ∈ r.headers, IsPlain h)
    (hlatin : Latin1.encodes r.headText = true)
    (hstatus : Integer.isTooLong r.status = false) (body : Bytes) :
    parse (Latin1.bytes r.headText ++ body) =
      .ok ⟨r.status, Fields.ofList r.headers, body⟩ := by
  have hcut := (Sequence.cutAt?_eq_some_iff (by decide)).2 (isCut_headText hplain hlatin body)
  have hheaders : (r.headers.map lineOf).map readLine = r.headers := by
    rw [List.map_map]
    exact (List.map_congr_left fun h hh => readLine_lineOf (hplain h hh)).trans (List.map_id _)
  obtain ⟨word, words, hwords⟩ := words_statusLine r
  rw [parse, hcut]
  dsimp only
  rw [splitOn_headLines hplain hlatin, headLines]
  dsimp only
  rw [hwords]
  dsimp only
  rw [if_neg (by simp), Integer.readOrFail_ofInt hstatus, hheaders]

end Response
end AssetBundle
