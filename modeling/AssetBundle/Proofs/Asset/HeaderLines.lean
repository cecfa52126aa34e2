import AssetBundle.Proofs.Asset.Headers

/-!
# AssetBundle.Proofs.Asset.HeaderLines

Reading a set of header lines, and writing it again. Reading fails at the first line that has no
colon, and names that line (`parseLines_eq_error_iff`). What is read can be written and read again,
so reading and writing undo each other (`parse_undoes_print`).
-/

namespace AssetBundle
namespace Headers

variable {text line : Text} {hs : Headers} {e : Failure}

theorem parseLine_eq_error_iff :
    parseLine line = .error e ↔ CodePoint.ofChar ':' ∉ line ∧ e = .headerLine line := by
  rw [parseLine]
  cases hcut : Sequence.cutAt? colon line with
  | none =>
    have hcolon : CodePoint.ofChar ':' ∉ line := by
      intro hmem
      obtain ⟨front, back, rfl⟩ := List.append_of_mem hmem
      exact Sequence.cutAt?_eq_none_iff.1 hcut ⟨front, back, List.append_assoc front colon back⟩
    simp [hcolon, eq_comm]
  | some parts =>
    have hcolon : CodePoint.ofChar ':' ∈ line := by
      rw [(Sequence.cutAt?_singleton_iff.1 hcut).1]
      exact List.mem_append_right _ List.mem_cons_self
    simp [hcolon]

/-- Reading lines fails at the first one that has no colon. -/
theorem parseLines_eq_error_iff {lines : List Text} {done : Headers} :
    parseLines done lines = .error e ↔
      ∃ line, lines.find? (fun line => !line.contains (CodePoint.ofChar ':')) = some line ∧
        e = .headerLine line := by
  induction lines generalizing done with
  | nil => simp [parseLines]
  | cons line lines ih =>
    rw [parseLines]
    cases hline : parseLine line with
    | error failure =>
      obtain ⟨hcolon, rfl⟩ := parseLine_eq_error_iff.1 hline
      simp [hcolon, eq_comm]
    | ok h =>
      have hcolon : CodePoint.ofChar ':' ∈ line := by
        by_contra hnone
        cases hline.symm.trans (parseLine_eq_error_iff.2 ⟨hnone, rfl⟩)
      simp [hcolon, ih]

/-- Whether a text holds a line, neither empty nor with a colon, between its line ends. -/
structure HasStray (text line : Text) : Prop where
  piece : Sequence.IsPiece lineEnd text line
  nonempty : line ≠ []
  noColon : CodePoint.ofChar ':' ∉ line

theorem hasStray_iff :
    HasStray text line ↔
      line ∈ ((Sequence.splitOn lineEnd text).filter fun line => !line.isEmpty) ∧
        CodePoint.ofChar ':' ∉ line := by
  have hpiece : line ∈ Sequence.splitOn lineEnd text ↔ Sequence.IsPiece lineEnd text line :=
    Sequence.mem_splitOn_iff (by decide)
  rw [List.mem_filter, hpiece]
  constructor
  · rintro ⟨hpiece, hnonempty, hcolon⟩
    exact ⟨⟨hpiece, by simpa using hnonempty⟩, hcolon⟩
  · rintro ⟨⟨hpiece, hnonempty⟩, hcolon⟩
    exact ⟨hpiece, by simpa using hnonempty, hcolon⟩

/-- A set of lines that fails to be read has a line that is to blame, and the failure names it. -/
theorem hasStray_of_parse (hset : isLineSet text = true) (h : parse text = .error e) :
    ∃ line, HasStray text line ∧ e = .headerLine line := by
  rw [parse, if_pos hset, parseLines_eq_error_iff] at h
  obtain ⟨line, hfind, rfl⟩ := h
  have hcolon : CodePoint.ofChar ':' ∉ line := by simpa using List.find?_some hfind
  exact ⟨line, hasStray_iff.2 ⟨List.mem_of_find?_eq_some hfind, hcolon⟩, rfl⟩

theorem exists_error_of_hasStray (hset : isLineSet text = true) (hstray : HasStray text line) :
    ∃ e, parse text = .error e := by
  obtain ⟨hmem, hcolon⟩ := hasStray_iff.1 hstray
  have hsome : ((Sequence.splitOn lineEnd text).filter fun line => !line.isEmpty).find?
      (fun line => !line.contains (CodePoint.ofChar ':')) |>.isSome :=
    List.find?_isSome.2 ⟨line, hmem, by simpa using hcolon⟩
  obtain ⟨first, hfirst⟩ := Option.isSome_iff_exists.1 hsome
  refine ⟨.headerLine first, ?_⟩
  rw [parse, if_pos hset, parseLines_eq_error_iff]
  exact ⟨first, hfirst, rfl⟩

/-- Lines that are printed are read back, and a set of lines that was read is read back once it is
printed. It fails to be read exactly if it holds a line without a colon. -/
theorem parse_undoes_print :
    (∀ hs : Headers, hs ≠ [] → (∀ h ∈ hs, IsPlain h) → parse (print hs) = .ok hs) ∧
    ∀ text, lineEnd <:+ text →
      ((∃ e, parse text = .error e) ↔ ∃ line, HasStray text line) ∧
      (∀ e, parse text = .error e →
        e.kind = "ValueError" ∧ ∃ line, HasStray text line ∧ e = .headerLine line) ∧
      ∀ hs, parse text = .ok hs → hs ≠ [] →
        (∀ h ∈ hs, IsPlain h) ∧ parse (print hs) = .ok hs := by
  refine ⟨fun hs => parse_print, fun text htext => ?_⟩
  have hset : isLineSet text = true := List.isSuffixOf_iff_suffix.2 htext
  refine ⟨⟨?_, ?_⟩, ?_, ?_⟩
  · rintro ⟨e, h⟩
    obtain ⟨line, hstray, _⟩ := hasStray_of_parse hset h
    exact ⟨line, hstray⟩
  · rintro ⟨line, hstray⟩
    exact exists_error_of_hasStray hset hstray
  · intro e h
    obtain ⟨line, hstray, rfl⟩ := hasStray_of_parse hset h
    exact ⟨rfl, line, hstray, rfl⟩
  · intro hs h hne
    have hplain := isPlain_of_parse hset h
    exact ⟨hplain, parse_print hne hplain⟩

/-- A line without a colon between two lines that have one. -/
example : parse "A: 1\r\nB\r\n:\r\n" = .error (.headerLine "B") := rfl

end Headers
end AssetBundle
