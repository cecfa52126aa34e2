/-!
# AssetBundle.Sequence

Searching, cutting, trimming and joining of lists. Text is a list of code points and a payload is
a list of bytes, so every scan of a request line, a header block or a file name is one of these.

* `cutAt?` splits a list around the first occurrence of a separator. Nothing is lost
  (`eq_append_of_cutAt?`), and there is a cut exactly if the separator occurs
  (`contains_iff_infix`).
* `splitOn` repeats the cut until no separator is left; joining the pieces gives the list back
  (`intercalate_splitOn`).
* `trim` drops what satisfies a predicate from both ends.
-/

namespace AssetBundle
namespace Sequence

variable {α : Type} [BEq α]

/-- Walks right with the elements already passed, newest first. -/
def cutAt?.go (sep passed : List α) : List α → Option (List α × List α)
  | [] => if sep.isEmpty then some (passed.reverse, []) else none
  | x :: rest =>
    if sep.isPrefixOf (x :: rest) then some (passed.reverse, (x :: rest).drop sep.length)
    else cutAt?.go sep (x :: passed) rest

/-- What stands before and after the first occurrence of the separator. -/
def cutAt? (sep s : List α) : Option (List α × List α) := cutAt?.go sep [] s

/-- The part before the first separator: the whole list when there is none. -/
def before (sep s : List α) : List α :=
  match cutAt? sep s with
  | some (left, _) => left
  | none => s

def contains (sep s : List α) : Bool := (cutAt? sep s).isSome

def splitOn.go (sep : List α) (pieces : List (List α)) : Nat → List α → List (List α)
  | 0, s => (s :: pieces).reverse
  | fuel + 1, s =>
    match cutAt? sep s with
    | some (left, right) => splitOn.go sep (left :: pieces) fuel right
    | none => (s :: pieces).reverse

/-- The pieces between the separators, read from the left. A list of `n` elements holds at most
`n` separators, which bounds the number of cuts. -/
def splitOn (sep s : List α) : List (List α) := splitOn.go sep [] s.length s

theorem eq_append_of_cutAt?_go [LawfulBEq α] {sep left right : List α} :
    ∀ {s passed : List α}, cutAt?.go sep passed s = some (left, right) →
      passed.reverse ++ s = left ++ (sep ++ right) := by
  intro s
  induction s with
  | nil =>
    intro passed h
    cases sep with
    | nil =>
      simp [cutAt?.go] at h
      simp [← h.1, ← h.2]
    | cons a sep => simp [cutAt?.go] at h
  | cons x rest ih =>
    intro passed h
    rw [cutAt?.go] at h
    split at h
    · next found =>
      obtain ⟨tail, htail⟩ := List.isPrefixOf_iff_prefix.1 found
      rw [← htail, List.drop_left] at h
      simp only [Option.some.injEq, Prod.mk.injEq] at h
      rw [← htail, h.1, h.2]
    · have := ih h
      simpa using this

/-- A cut loses nothing: the two sides with the separator between them are the whole list. -/
theorem eq_append_of_cutAt? [LawfulBEq α] {sep s left right : List α}
    (h : cutAt? sep s = some (left, right)) : s = left ++ (sep ++ right) := by
  simpa using eq_append_of_cutAt?_go h

/-- A list that cannot be cut does not contain the separator. -/
theorem not_infix_of_cutAt?_go [LawfulBEq α] {sep : List α} :
    ∀ {s passed : List α}, cutAt?.go sep passed s = none → ¬ sep <:+: s := by
  intro s
  induction s with
  | nil =>
    intro passed h hin
    cases sep with
    | nil => simp [cutAt?.go] at h
    | cons a sep => simp at hin
  | cons x rest ih =>
    intro passed h hin
    rw [cutAt?.go] at h
    split at h
    · simp at h
    · next found =>
      rcases List.infix_cons_iff.1 hin with hp | hin
      · exact found (List.isPrefixOf_iff_prefix.2 hp)
      · exact ih h hin

/-- A list contains a separator exactly if it can be cut there. -/
theorem contains_iff_infix [LawfulBEq α] {sep s : List α} :
    contains sep s = true ↔ sep <:+: s := by
  constructor
  · intro h
    obtain ⟨⟨left, right⟩, hcut⟩ := Option.isSome_iff_exists.1 h
    exact ⟨left, right, by rw [eq_append_of_cutAt? hcut, List.append_assoc]⟩
  · intro hin
    cases hcut : cutAt? sep s with
    | none => exact absurd hin (not_infix_of_cutAt?_go hcut)
    | some cut => simp [contains, hcut]

omit [BEq α] in
/-- Joining does not see where the last separator came from. -/
theorem intercalate_concat_pair (sep left right : List α) (pieces : List (List α)) :
    List.intercalate sep (pieces ++ [left, right]) =
      List.intercalate sep (pieces ++ [left ++ (sep ++ right)]) := by
  induction pieces with
  | nil => simp [List.intercalate]
  | cons piece rest ih =>
    cases rest with
    | nil => simp [List.intercalate]
    | cons next rest =>
      simp only [List.intercalate, List.cons_append, List.intersperse_cons_cons,
        List.flatten_cons] at ih ⊢
      rw [ih]

theorem intercalate_splitOn_go [LawfulBEq α] {sep : List α} :
    ∀ (fuel : Nat) (s : List α) (pieces : List (List α)),
      List.intercalate sep (splitOn.go sep pieces fuel s) =
        List.intercalate sep (pieces.reverse ++ [s]) := by
  intro fuel
  induction fuel with
  | zero => intro s pieces; simp [splitOn.go]
  | succ fuel ih =>
    intro s pieces
    rw [splitOn.go]
    split
    · next left right hcut =>
      rw [ih right (left :: pieces), eq_append_of_cutAt? hcut, List.reverse_cons,
        List.append_assoc]
      exact intercalate_concat_pair sep left right pieces.reverse
    · simp

/-- Joining the pieces with the separator gives the list back. -/
theorem intercalate_splitOn [LawfulBEq α] (sep s : List α) :
    List.intercalate sep (splitOn sep s) = s := by
  rw [splitOn, intercalate_splitOn_go]
  simp [List.intercalate]

def replaceAll (old new s : List α) : List α := List.intercalate new (splitOn old s)

/-- What stands before and after the last occurrence of a single element. -/
def cutAtLast? (x : α) (s : List α) : Option (List α × List α) :=
  match cutAt? [x] s.reverse with
  | some (right, left) => some (left.reverse, right.reverse)
  | none => none

section

variable {β : Type}

def trimLeft (drop : β → Bool) (s : List β) : List β := s.dropWhile drop

def trimRight (drop : β → Bool) (s : List β) : List β := (s.reverse.dropWhile drop).reverse

def trim (drop : β → Bool) (s : List β) : List β := trimRight drop (trimLeft drop s)

def chunks.go (n : Nat) (done : List (List β)) : Nat → List β → List (List β)
  | 0, _ => done.reverse
  | fuel + 1, s =>
    if s.isEmpty then done.reverse else chunks.go n (s.take n :: done) fuel (s.drop n)

/-- Consecutive runs of `n` elements, the last one perhaps shorter. -/
def chunks (n : Nat) (s : List β) : List (List β) := chunks.go n [] s.length s

theorem flatten_chunks_go (n : Nat) (hn : 0 < n) :
    ∀ (fuel : Nat) (s : List β) (done : List (List β)), s.length ≤ fuel →
      (chunks.go n done fuel s).flatten = done.reverse.flatten ++ s := by
  intro fuel
  induction fuel with
  | zero =>
    intro s done h
    simp [chunks.go, List.length_eq_zero_iff.1 (Nat.le_zero.1 h)]
  | succ fuel ih =>
    intro s done h
    rw [chunks.go]
    split
    · next empty => simp [List.isEmpty_iff.1 empty]
    · next nonempty =>
      have : 0 < s.length := List.length_pos_iff.2 (by simpa using nonempty)
      rw [ih _ _ (by simp; omega)]
      simp

/-- Chunks lose nothing. -/
theorem flatten_chunks {n : Nat} (hn : 0 < n) (s : List β) : (chunks n s).flatten = s := by
  simp [chunks, flatten_chunks_go n hn s.length s [] (Nat.le_refl _)]

end

end Sequence
end AssetBundle
