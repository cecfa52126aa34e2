import AssetBundle.Http.Request
import AssetBundle.Proofs.Cutting

/-!
# AssetBundle.Proofs.Http.Request

Which buffers are requests. A head ends at the first empty line, its request line at the first
line end, and a request line has a method, a path and a rest with spaces between them. Reading
finds these parts exactly if they are there (`parse_eq_ok_iff`), and it fails exactly for a buffer
without a head or with fewer than two spaces in the request line (`parse_fails_iff`). Lines that are
written with ends between them are found again (`hasHead_lines`, `parse_lines`). The headers of a
request are the lines of its block that have a colon (`mem_fields_iff`).
-/

namespace AssetBundle
namespace Request

open Sequence (IsCut cutAt? cutAt?_eq_some_iff cutAt?_eq_none_iff cutAt?_singleton_iff)

variable {buffer : Bytes}

/-- Whether a buffer begins with a head that has the given request line and header block. -/
inductive HasHead (buffer : Bytes) : Bytes → Bytes → Prop
  | lineAlone {line rest : Bytes} (hhead : IsCut headEnd buffer line rest)
      (hline : ¬ lineEnd <:+: line) : HasHead buffer line []
  | withBlock {head rest line headers : Bytes} (hhead : IsCut headEnd buffer head rest)
      (hline : IsCut lineEnd head line headers) : HasHead buffer line headers

/-- Whether a buffer begins with the head of a request. -/
inductive Asks (buffer : Bytes) : Request → Prop
  | mk {line headers method path version : Bytes} (hhead : HasHead buffer line headers)
      (hline : line = method ++ 0x20 :: (path ++ 0x20 :: version))
      (hmethod : 0x20 ∉ method) (hpath : 0x20 ∉ path) :
      Asks buffer ⟨Latin1.decode method, Latin1.decode path, headers⟩

/-- Whether a buffer has no head, or one with fewer than two spaces in its request line. -/
def IsMalformed (buffer : Bytes) : Prop :=
  ¬ headEnd <:+: buffer ∨ ∃ line headers, HasHead buffer line headers ∧ line.count 0x20 < 2

/-- The parts of a head, as reading finds them. -/
def headOf? (buffer : Bytes) : Option (Bytes × Bytes) :=
  (cutAt? headEnd buffer).map fun cut => (cutAt? lineEnd cut.1).getD (cut.1, [])

theorem headOf?_eq_some_iff {line headers : Bytes} :
    headOf? buffer = some (line, headers) ↔ HasHead buffer line headers := by
  have hhead : headEnd ≠ [] := by decide
  have hend : lineEnd ≠ [] := by decide
  constructor
  · intro h
    obtain ⟨⟨head, rest⟩, hcut, hparts⟩ := Option.map_eq_some_iff.1 h
    rw [cutAt?_eq_some_iff hhead] at hcut
    cases hline : cutAt? lineEnd head with
    | none =>
      rw [hline] at hparts
      cases hparts
      exact .lineAlone hcut (cutAt?_eq_none_iff.1 hline)
    | some parts =>
      rw [hline] at hparts
      cases hparts
      exact .withBlock hcut ((cutAt?_eq_some_iff hend).1 hline)
  · intro h
    cases h with
    | lineAlone hcut hline =>
      rw [headOf?, (cutAt?_eq_some_iff hhead).2 hcut, Option.map_some,
        cutAt?_eq_none_iff.2 hline]
      rfl
    | withBlock hcut hline =>
      rw [headOf?, (cutAt?_eq_some_iff hhead).2 hcut, Option.map_some,
        (cutAt?_eq_some_iff hend).2 hline]
      rfl

theorem headOf?_eq_none_iff : headOf? buffer = none ↔ ¬ headEnd <:+: buffer := by
  rw [headOf?, Option.map_eq_none_iff, cutAt?_eq_none_iff]

theorem parse_eq (buffer : Bytes) :
    parse buffer =
      match headOf? buffer with
      | none => .error .noTerminator
      | some (line, headers) =>
        match cutAt? space line with
        | none => .error .requestLine
        | some (method, rest) =>
          match cutAt? space rest with
          | none => .error .requestLine
          | some (path, _) => .ok ⟨Latin1.decode method, Latin1.decode path, headers⟩ := by
  rw [parse, headOf?]
  cases cutAt? headEnd buffer <;> rfl

/-- Reading finds a request exactly if there is one. -/
theorem parse_eq_ok_iff {request : Request} :
    parse buffer = .ok request ↔ Asks buffer request := by
  rw [parse_eq]
  constructor
  · intro h
    split at h
    · cases h
    · next line headers hhead =>
      split at h
      · cases h
      · next method rest hmethod =>
        split at h
        · cases h
        · next path version hpath =>
          obtain ⟨hline, hmethod⟩ := cutAt?_singleton_iff.1 hmethod
          obtain ⟨hrest, hpath⟩ := cutAt?_singleton_iff.1 hpath
          cases h
          exact .mk (headOf?_eq_some_iff.1 hhead) (by rw [hline, hrest]) hmethod hpath
  · intro h
    cases h with
    | mk hhead hline hmethod hpath =>
      rw [headOf?_eq_some_iff.2 hhead]
      dsimp only
      rw [space, cutAt?_singleton_iff.2 ⟨hline, hmethod⟩]
      dsimp only
      rw [cutAt?_singleton_iff.2 ⟨rfl, hpath⟩]

/-- A line is cut at two spaces exactly if it has two. -/
theorem exists_parts_iff {line : Bytes} :
    (∃ method path version : Bytes, line = method ++ 0x20 :: (path ++ 0x20 :: version) ∧
      0x20 ∉ method ∧ 0x20 ∉ path) ↔ 2 ≤ line.count 0x20 := by
  constructor
  · rintro ⟨method, path, version, rfl, _, _⟩
    simp [List.count_append]
    omega
  · intro h
    obtain ⟨method, rest, rfl, hmethod⟩ :=
      List.eq_append_cons_of_mem (List.count_pos_iff.1 (show 0 < line.count 0x20 by omega))
    rw [List.count_append, List.count_cons_self, List.count_eq_zero.2 hmethod] at h
    obtain ⟨path, version, rfl, hpath⟩ :=
      List.eq_append_cons_of_mem (List.count_pos_iff.1 (show 0 < rest.count 0x20 by omega))
    exact ⟨method, path, version, rfl, hmethod, hpath⟩

/-- A buffer that is malformed asks for nothing, and any other one asks for something. -/
theorem isMalformed_iff : IsMalformed buffer ↔ ¬ ∃ request, Asks buffer request := by
  constructor
  · rintro (hend | ⟨line, headers, hhead, hcount⟩) ⟨_, hasks⟩
    · cases hasks with
      | mk hhead _ _ _ =>
        rw [← headOf?_eq_none_iff, headOf?_eq_some_iff.2 hhead] at hend
        cases hend
    · cases hasks with
      | mk hother hline hmethod hpath =>
        have hsame := (headOf?_eq_some_iff.2 hhead).symm.trans (headOf?_eq_some_iff.2 hother)
        cases hsame
        exact absurd (exists_parts_iff.1 ⟨_, _, _, hline, hmethod, hpath⟩) (by omega)
  · intro h
    cases hhead : headOf? buffer with
    | none => exact .inl (headOf?_eq_none_iff.1 hhead)
    | some parts =>
      refine .inr ⟨parts.1, parts.2, headOf?_eq_some_iff.1 hhead, Nat.lt_of_not_le fun hcount => ?_⟩
      obtain ⟨method, path, version, hline, hmethod, hpath⟩ := exists_parts_iff.2 hcount
      exact h ⟨_, .mk (headOf?_eq_some_iff.1 hhead) hline hmethod hpath⟩

/-- Reading fails exactly for a malformed buffer. -/
theorem parse_fails_iff : (∃ e, parse buffer = .error e) ↔ IsMalformed buffer := by
  rw [isMalformed_iff]
  simp only [← parse_eq_ok_iff]
  cases parse buffer <;> simp

/-- Whether bytes can be a line of a head: there are some, and no line ends among them. -/
structure IsLine (line : Bytes) : Prop where
  nonempty : line ≠ []
  unbroken : ¬ lineEnd <:+: line

theorem IsLine.of_not_mem {line : Bytes} (hne : line ≠ []) (hline : 13 ∉ line) : IsLine line :=
  ⟨hne, fun hend => hline (hend.subset (by decide))⟩

theorem isCut_headEnd {line : Bytes} {lines : List Bytes}
    (hlines : ∀ l ∈ line :: lines, IsLine l) (rest : Bytes) :
    IsCut headEnd (List.intercalate lineEnd (line :: lines) ++ (headEnd ++ rest))
      (List.intercalate lineEnd (line :: lines)) rest := by
  -- An empty line ends no sooner than a line does.
  have hinside : ∀ {l : Bytes}, IsLine l → ∀ s k, k < l.length →
      ¬ headEnd <+: (l ++ (lineEnd ++ s)).drop k := by
    intro l hl s k hk hprefix
    exact (Sequence.isCut_of_unbroken (by decide) hl.unbroken s).first k hk
      ((List.prefix_append lineEnd lineEnd).trans hprefix)
  induction lines generalizing line with
  | nil =>
    rw [List.intercalate_singleton]
    exact ⟨rfl, hinside (hlines line List.mem_cons_self) (lineEnd ++ rest)⟩
  | cons next lines ih =>
    obtain ⟨hline, hrest⟩ := List.forall_mem_cons.1 hlines
    have hnext := hrest next List.mem_cons_self
    obtain ⟨s, hs⟩ : ∃ s, List.intercalate lineEnd (next :: lines) ++ (headEnd ++ rest) =
        next ++ (lineEnd ++ s) := by
      cases lines with
      | nil => exact ⟨lineEnd ++ rest, by rw [List.intercalate_singleton]; rfl⟩
      | cons last lines =>
        exact ⟨_, by rw [List.intercalate_cons_cons, List.append_assoc, List.append_assoc]⟩
    -- Behind the end of a line stands a byte of the next one, so the head goes on.
    have hend : ∀ k, k < lineEnd.length →
        ¬ headEnd <+: (lineEnd ++ (next ++ (lineEnd ++ s))).drop k := by
      intro k hk hprefix
      match k, hk with
      | 0, _ =>
        exact (Sequence.isCut_of_unbroken (by decide) hnext.unbroken s).first 0
          (List.length_pos_iff.2 hnext.nonempty)
          ((List.prefix_append_right_inj lineEnd).1 hprefix)
      | 1, _ => simp [headEnd, lineEnd] at hprefix
    have hbehind := ih hrest
    rw [hs] at hbehind
    have hwhole := (hbehind.behind hend).behind (hinside hline _)
    rw [List.intercalate_cons_cons]
    simpa only [List.append_assoc, ← hs] using hwhole

/-- Lines with ends between them, and an empty line behind them, are read as a head. -/
theorem hasHead_lines {line : Bytes} {lines : List Bytes}
    (hlines : ∀ l ∈ line :: lines, IsLine l) (rest : Bytes) :
    HasHead (List.intercalate lineEnd (line :: lines) ++ (headEnd ++ rest)) line
      (List.intercalate lineEnd lines) := by
  have hhead := isCut_headEnd hlines rest
  have hline := (hlines line List.mem_cons_self).unbroken
  cases lines with
  | nil =>
    rw [List.intercalate_singleton] at hhead ⊢
    exact .lineAlone hhead hline
  | cons next lines =>
    refine .withBlock hhead ?_
    rw [List.intercalate_cons_cons, List.append_assoc]
    exact Sequence.isCut_of_unbroken (by decide) hline _

/-- Lines that are written with an end behind each, and an empty line, are lines with ends between
them and the end of a head. -/
theorem unlines_eq (line : Bytes) (lines : List Bytes) (rest : Bytes) :
    line ++ (lineEnd ++ (lines.flatMap (fun l => l ++ lineEnd) ++ (lineEnd ++ rest))) =
      List.intercalate lineEnd (line :: lines) ++ (headEnd ++ rest) := by
  calc
    line ++ (lineEnd ++ (lines.flatMap (fun l => l ++ lineEnd) ++ (lineEnd ++ rest))) =
        (line :: lines).flatMap (fun l => l ++ lineEnd) ++ (lineEnd ++ rest) := by
      rw [List.flatMap_cons, List.append_assoc, List.append_assoc]
    _ = List.intercalate lineEnd (line :: lines) ++ (headEnd ++ rest) := by
      rw [Sequence.flatMap_append_eq_intercalate, List.append_assoc]
      rfl

/-- A request line and header lines with ends between them, and an empty line behind them, are read
as a request. -/
theorem parse_lines {method path version : Bytes} (hmethod : 32 ∉ method ∧ 13 ∉ method)
    (hpath : 32 ∉ path ∧ 13 ∉ path) (hversion : 13 ∉ version) {lines : List Bytes}
    (hlines : ∀ l ∈ lines, IsLine l) (rest : Bytes) :
    parse (List.intercalate lineEnd ((method ++ 0x20 :: (path ++ 0x20 :: version)) :: lines) ++
      (headEnd ++ rest)) =
        .ok ⟨Latin1.decode method, Latin1.decode path, List.intercalate lineEnd lines⟩ := by
  have hline : IsLine (method ++ 0x20 :: (path ++ 0x20 :: version)) :=
    .of_not_mem (by simp) (by simp [hmethod.2, hpath.2, hversion])
  exact parse_eq_ok_iff.2 <|
    .mk (hasHead_lines (List.forall_mem_cons.2 ⟨hline, hlines⟩) rest) rfl hmethod.1 hpath.1

/-- Whether a header block has a line with this name, which ends at its first colon, and value. -/
structure HasLine (block name value : Bytes) : Prop where
  line : Sequence.IsPiece lineEnd block (name ++ 0x3A :: value)
  noColon : 0x3A ∉ name

theorem readLine?_eq_some_iff {line : Bytes} {field : Text × Text} :
    readLine? line = some field ↔ ∃ name value, line = name ++ 0x3A :: value ∧ 0x3A ∉ name ∧
      field = (readName name, readField value) := by
  rw [readLine?]
  constructor
  · intro h
    split at h
    · next name value hcut =>
      obtain ⟨hline, hname⟩ := cutAt?_singleton_iff.1 hcut
      cases h
      exact ⟨name, value, hline, hname, rfl⟩
    · cases h
  · rintro ⟨name, value, hline, hname, rfl⟩
    rw [colon, cutAt?_singleton_iff.2 ⟨hline, hname⟩]

/-- Lines that are joined to a block are its lines again. A block of no line is one empty line,
which is no header. -/
theorem filterMap_readLine?_intercalate {lines : List Bytes}
    (hlines : ∀ line ∈ lines, ¬ lineEnd <:+: line) :
    (Sequence.splitOn lineEnd (List.intercalate lineEnd lines)).filterMap readLine? =
      lines.filterMap readLine? := by
  cases lines with
  | nil => rfl
  | cons line lines => rw [lineEnd, Sequence.splitOn_intercalate (by decide) hlines]

/-- The headers of a request are the lines of its block that have a colon. -/
theorem mem_fields_iff {request : Request} {field : Text × Text} :
    field ∈ request.fields ↔ ∃ name value, HasLine request.headerBlock name value ∧
      field = (readName name, readField value) := by
  have hpiece : ∀ line, line ∈ Sequence.splitOn lineEnd request.headerBlock ↔
      Sequence.IsPiece lineEnd request.headerBlock line :=
    fun line => Sequence.mem_splitOn_iff (by decide)
  rw [fields, List.mem_filterMap]
  constructor
  · rintro ⟨line, hline, hread⟩
    obtain ⟨name, value, rfl, hname, hfield⟩ := readLine?_eq_some_iff.1 hread
    exact ⟨name, value, ⟨(hpiece _).1 hline, hname⟩, hfield⟩
  · rintro ⟨name, value, ⟨hline, hname⟩, hfield⟩
    exact ⟨_, (hpiece _).2 hline, readLine?_eq_some_iff.2 ⟨name, value, rfl, hname, hfield⟩⟩

end Request
end AssetBundle
