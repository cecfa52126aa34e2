import AssetBundle.Proofs.Bundle.Reading

/-!
# AssetBundle.Proofs.Bundle.Layout

The lines of a definition. Whatever texts and bytes a definition is made of, all of its lines are
printable, so they are the lines that were meant: `lines_unlines`. A text that is quoted in a line
is read off that line up to the comma behind it (`read_itemText`), the bytes of a line are read up
to the quote at its end (`read_hexLine`), and all lines together are read as the value that was
written. `definitions_hold` says all this of tuples and of byte strings.
-/

namespace AssetBundle

namespace Text

variable {t line : Text} {done : List Text}

theorem lines_go_append (h : ∀ c ∈ t, isLineBreak c = false) (line rest : Text) :
    lines.go line done (t ++ rest) = lines.go (t.reverse ++ line) done rest := by
  induction t generalizing line with
  | nil => rfl
  | cons c t ih =>
    obtain ⟨hc, ht⟩ := List.forall_mem_cons.1 h
    have hreturn : c.val ≠ 13 := by
      intro h
      rw [isLineBreak, h] at hc
      cases hc
    rw [List.cons_append, lines.go, hc, if_neg Bool.false_ne_true, ih ht]
    · simp
    · exact fun _ h => absurd h hreturn

theorem lines_go_lineFeed (line rest : Text) (done : List Text) :
    lines.go line done (Literal.lineFeed ++ rest) = lines.go [] (line.reverse :: done) rest := by
  rw [Literal.lineFeed, List.singleton_append, lines.go]
  · rfl
  · exact fun _ h => absurd h (by decide)

theorem lines_go_unlines {written : List Text}
    (h : ∀ line ∈ written, ∀ c ∈ line, isLineBreak c = false) :
    lines.go [] done (Literal.unlines written) = done.reverse ++ written := by
  induction written generalizing done with
  | nil => simp [lines.go]
  | cons line written ih =>
    obtain ⟨hline, hwritten⟩ := List.forall_mem_cons.1 h
    rw [Literal.unlines_cons, lines_go_append hline, lines_go_lineFeed, ih hwritten]
    simp

/-- Lines that have no line break of any kind are the lines of the text that they make up. -/
theorem lines_unlines {written : List Text}
    (h : ∀ line ∈ written, ∀ c ∈ line, isLineBreak c = false) :
    lines (Literal.unlines written) = written :=
  lines_go_unlines h

end Text

namespace Literal

/-- The literal in the line of an item is the text that was quoted, and ends at the comma. -/
theorem read_itemText (t : Text) :
    (Reader.behind? Reader.indent (itemText (Quoted.text t))).bind Quoted.read =
      some (t, Reader.comma) := by
  have hcomma : Reader.comma.head? ≠ some (Quoted.quoteFor t) := by
    rw [Quoted.quoteFor]
    split <;> decide
  have hbehind : Reader.behind? Reader.indent (itemText (Quoted.text t)) =
      some (Quoted.text t ++ Reader.comma) := Reader.behind?_append Reader.indent _
  rw [hbehind, Option.bind_some, Quoted.read_text_append t _ hcomma]

theorem hexBytes_hexLine (run : Bytes) :
    (Reader.behind? Reader.byteStart (hexLine run)).bind (Reader.hexBytes []) = some run := by
  have hbehind : Reader.behind? Reader.byteStart (hexLine run) =
      some (run.flatMap hexByte ++ [Quoted.doubleQuote]) := Reader.behind?_append Reader.byteStart _
  rw [hbehind, Option.bind_some, Reader.hexBytes_hexByte]
  rfl

/-- Each byte is written as the escape of the code point of the same number. -/
theorem body_hexByte (run : Bytes) (done : Text) :
    Quoted.body (.written Quoted.doubleQuote) done .plain
        (run.flatMap hexByte ++ [Quoted.doubleQuote]) =
      some (done.reverse ++ Latin1.decode run, []) := by
  induction run generalizing done with
  | nil =>
    rw [List.flatMap_nil, List.nil_append, Quoted.body_close, Latin1.decode, List.map_nil,
      List.append_nil]
  | cons b run ih =>
    have hb : (Latin1.point b).val < Quoted.hexRoom 2 := b.toNat_lt
    have hbyte : hexByte b =
        Quoted.backslash :: CodePoint.ofChar 'x' :: Quoted.hex 2 (Latin1.point b).val := rfl
    rw [List.flatMap_cons, List.append_assoc, hbyte, List.cons_append, List.cons_append,
      Quoted.body_backslash done _ (by decide)]
    have hescape := Quoted.body_numbered done (run.flatMap hexByte ++ [Quoted.doubleQuote])
      (.written Quoted.doubleQuote) 2 (Latin1.point b) (by decide) hb
    refine hescape.trans ?_
    rw [ih, List.reverse_cons, List.append_assoc]
    rfl

/-- Behind its mark a line of bytes is a literal, of the code points of the same numbers. -/
theorem read_hexLine (run : Bytes) :
    (Reader.behind? "    b" (hexLine run)).bind Quoted.read = some (Latin1.decode run, []) := by
  have hbehind : Reader.behind? "    b" (hexLine run) =
      some (Quoted.doubleQuote :: (run.flatMap hexByte ++ [Quoted.doubleQuote])) :=
    Reader.behind?_append "    b" _
  have hopen : Quoted.opening? false
      (Quoted.doubleQuote :: (run.flatMap hexByte ++ [Quoted.doubleQuote])) =
        some (.written Quoted.doubleQuote, run.flatMap hexByte ++ [Quoted.doubleQuote]) := by
    cases run with
    | nil => rfl
    | cons b run => exact Quoted.opening?_written (by decide) (fun h => absurd h.1 (by decide)) _
  rw [hbehind, Option.bind_some, Quoted.read_quote (by decide), hopen, Option.bind_some,
    body_hexByte]
  rfl

/-- A definition in lines: none of them has a line break of any kind, they are what stands between
the opening and the closing, and they are read as the value of the name. -/
structure Defines (written name : Text) (lines : List Text) (v : Value) : Prop where
  whole : written = opening name ++ (unlines lines ++ closing)
  lines_eq : Text.lines (unlines lines) = lines
  unbroken : ∀ line ∈ lines, ∀ c ∈ line, Text.isLineBreak c = false
  read : Reader.read [] none (block name lines) = some [(name, v)]

theorem Defines.of_isPrintable {written name : Text} {lines : List Text} {v : Value}
    (hwritten : written = unlines (block name lines))
    (hlines : ∀ line ∈ lines, Text.isPrintable line = true)
    (hread : Reader.read [] none (block name lines ++ []) = Reader.read [(name, v)] none []) :
    Defines written name lines v := by
  have hunbroken : ∀ line ∈ lines, ∀ c ∈ line, Text.isLineBreak c = false := fun line hline =>
    Text.not_isLineBreak_of_isPrintable (hlines line hline)
  rw [List.append_nil] at hread
  exact ⟨hwritten.trans (unlines_block name lines), Text.lines_unlines hunbroken, hunbroken, hread⟩

theorem withComments_map {α : Type} (comment item : α → Text) (xs : List α) :
    withComments (xs.map item) (xs.map comment) = .ok (xs.map fun x => (comment x, item x)) := by
  induction xs with
  | nil => rfl
  | cons x xs ih => rw [List.map_cons, List.map_cons, withComments, ih]; rfl

theorem defines_commentedTuple (name : Text) (strings : List (Text × Text)) :
    Defines (commentedTuple name (strings.map fun s => (s.1, Quoted.text s.2))) name
      (strings.flatMap fun s => [commentText s.1, itemText (Quoted.text s.2)])
      (.list (strings.map fun s => .text s.2)) := by
  refine .of_isPrintable ?_ ?_ ?_
  · rw [commentedTuple_eq, List.flatMap_map]
  · exact isPrintable_commentedItems strings Prod.fst Prod.snd
  · exact Reader.read_items fun s _ p => Reader.foldlM_commentedItem s.1 s.2 p

theorem defines_tuple (name : Text) (strings : List Text) :
    Defines (tuple name (strings.map Quoted.text)) name
      (strings.map fun s => itemText (Quoted.text s)) (.list (strings.map .text)) := by
  have hlines : (strings.map fun s => itemText (Quoted.text s)) =
      (strings.map Quoted.text).map itemText := by
    rw [List.map_map]
    rfl
  rw [hlines]
  refine .of_isPrintable (tuple_eq name _) ?_ ?_
  · refine isPrintable_items fun item hitem => ?_
    obtain ⟨s, _, rfl⟩ := List.mem_map.1 hitem
    exact Quoted.isPrintable_text s
  · exact Reader.read_tuple (fun s _ => Reader.isItem_text s) (fun s _ => Reader.item_text s)

theorem defines_bytes (name : Text) (s : Bytes) :
    Defines (bytes name s) name ((runs s).map hexLine) (.bytes s) :=
  .of_isPrintable (bytes_eq name s) (isPrintable_hexLines _) (Reader.read_bytes name s [])

theorem length_runs (s : Bytes) :
    (runs s).length = if s = [] then 1 else (s.length + 15) / 16 := by
  rw [runs]
  split
  · next h => rw [if_pos (List.isEmpty_iff.1 h)]; rfl
  · next h =>
    rw [if_neg (by simpa using h), Sequence.length_chunks (by decide)]
    rfl

theorem length_le_of_mem_runs {s run : Bytes} (h : run ∈ runs s) : run.length ≤ 16 := by
  rw [runs] at h
  split at h
  · rw [List.mem_singleton.1 h]
    decide
  · exact Sequence.length_le_of_mem_chunks (by decide) h

/-- Whatever texts are written as comments and items, a tuple has one line for each comment and one
for each item, in which the item is read back; and whatever bytes a byte string has, it is written
in lines of sixteen bytes, in each of which the bytes are read back. No line is broken. -/
theorem definitions_hold :
    (∀ (name : Text) (strings : List (Text × Text)),
      ∃ items, withComments (strings.map fun s => Quoted.text s.2) (strings.map Prod.fst) =
          .ok items ∧
        Defines (commentedTuple name items) name
          (strings.flatMap fun s => [commentText s.1, itemText (Quoted.text s.2)])
          (.list (strings.map fun s => .text s.2))) ∧
    (∀ (name : Text) (strings : List Text),
      Defines (tuple name (strings.map Quoted.text)) name
        (strings.map fun s => itemText (Quoted.text s)) (.list (strings.map .text))) ∧
    (∀ t, (Reader.behind? Reader.indent (itemText (Quoted.text t))).bind Quoted.read =
      some (t, Reader.comma)) ∧
    ∀ (name : Text) (s : Bytes), ∃ runs : List Bytes,
      Defines (bytes name s) name (runs.map hexLine) (.bytes s) ∧
      runs.length = (if s = [] then 1 else (s.length + 15) / 16) ∧
      (∀ run ∈ runs, run.length ≤ 16) ∧ runs.flatten = s ∧
      ∀ run ∈ runs,
        (Reader.behind? Reader.byteStart (hexLine run)).bind (Reader.hexBytes []) = some run ∧
        (Reader.behind? "    b" (hexLine run)).bind Quoted.read =
          some (Latin1.decode run, []) := by
  refine ⟨fun name strings => ?_, defines_tuple, read_itemText, fun name s => ?_⟩
  · exact ⟨_, withComments_map Prod.fst (fun s => Quoted.text s.2) strings,
      defines_commentedTuple name strings⟩
  · exact ⟨runs s, defines_bytes name s, length_runs s, fun _ h => length_le_of_mem_runs h,
      flatten_runs s, fun run _ => ⟨hexBytes_hexLine run, read_hexLine run⟩⟩

end Literal

end AssetBundle
