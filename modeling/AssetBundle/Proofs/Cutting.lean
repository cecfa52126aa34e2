import AssetBundle.Sequence
import Mathlib.Data.List.TakeWhile

/-!
# AssetBundle.Proofs.Cutting

Where cuts fall. `cutAt?` walks with an accumulator; here it is opened once (`cutAt?_cons`), and
everything else is said of the position of the separator.

* `cutAt?_of_first`: a cut falls where the separator begins for the first time.
* `IsCut.of_prefix`: a part in front that has a separator has the first one.
* `splitOn_eq`: splitting is one cut and then the splitting of what stands behind it.
* `splitOn_unlines`: lines that are written with an end behind each are read back, with one empty
  piece behind the last end.
* `splitOn_intercalate`: splitting undoes joining, if no piece has a separator.
* `mem_splitOn_iff`: the pieces are the stretches from one separator to the next.
* `trim_eq_self`: trimming changes nothing if the ends are not to be dropped.
* `exists_of_trim`: around what trimming keeps stands only what is to be dropped.
* `trim_trim`: what trimming keeps is kept again.
* `chunks_eq`: chunks begin at every `n`-th position.
-/

namespace AssetBundle
namespace Sequence

section

variable {α : Type} [BEq α]

theorem cutAt?_go_passed (sep : List α) :
    ∀ (s passed : List α), cutAt?.go sep passed s =
      (cutAt?.go sep [] s).map fun cut => (passed.reverse ++ cut.1, cut.2) := by
  intro s
  induction s with
  | nil =>
    intro passed
    cases sep <;> simp [cutAt?.go]
  | cons x rest ih =>
    intro passed
    rw [cutAt?.go, cutAt?.go]
    split
    · simp
    · rw [ih (x :: passed), ih [x]]
      cases cutAt?.go sep [] rest <;> simp

theorem cutAt?_nil {sep : List α} (hsep : sep ≠ []) : cutAt? sep [] = none := by
  cases sep with
  | nil => exact absurd rfl hsep
  | cons x sep => simp [cutAt?, cutAt?.go]

/-- A cut falls at the front if the separator stands there, and else behind the first element. -/
theorem cutAt?_cons (sep : List α) (x : α) (rest : List α) :
    cutAt? sep (x :: rest) =
      if sep.isPrefixOf (x :: rest) then some ([], (x :: rest).drop sep.length)
      else (cutAt? sep rest).map fun cut => (x :: cut.1, cut.2) := by
  rw [cutAt?, cutAt?.go]
  split
  · simp
  · rw [cutAt?_go_passed]
    simp [cutAt?]

end

section

variable {α : Type} [BEq α] [LawfulBEq α]

/-- The cut falls where the separator begins for the first time. -/
theorem cutAt?_of_first {sep : List α} (hsep : sep ≠ []) (right : List α) :
    ∀ {left : List α}, (∀ k, k < left.length → ¬ sep <+: (left ++ (sep ++ right)).drop k) →
      cutAt? sep (left ++ (sep ++ right)) = some (left, right) := by
  intro left
  induction left with
  | nil =>
    intro _
    cases sep with
    | nil => exact absurd rfl hsep
    | cons a sep =>
      rw [List.nil_append, List.cons_append, cutAt?_cons, if_pos]
      · simp
      · exact List.isPrefixOf_iff_prefix.2 ⟨right, rfl⟩
  | cons x left ih =>
    intro hfirst
    have hhead : ¬ sep <+: x :: (left ++ (sep ++ right)) := by
      simpa using hfirst 0 (by simp)
    have hrest : ∀ k, k < left.length → ¬ sep <+: (left ++ (sep ++ right)).drop k := by
      intro k hk
      simpa using hfirst (k + 1) (by simpa using hk)
    rw [List.cons_append, cutAt?_cons, if_neg (by rwa [List.isPrefixOf_iff_prefix]), ih hrest]
    rfl

omit [BEq α] [LawfulBEq α] in
/-- No separator begins in a part that its first element does not occur in. -/
theorem not_prefix_drop_append {a : α} {sep left : List α} (h : a ∉ left) (s : List α) :
    ∀ k, k < left.length → ¬ a :: sep <+: (left ++ s).drop k := by
  intro k hk hp
  rw [List.drop_append_of_le_length (Nat.le_of_lt hk), List.drop_eq_getElem_cons hk,
    List.cons_append, List.cons_prefix_cons] at hp
  exact h (hp.1 ▸ List.getElem_mem hk)

/-- A separator is found behind a part that its first element does not occur in. -/
theorem cutAt?_of_head_not_mem {a : α} (sep : List α) {left : List α} (h : a ∉ left)
    (right : List α) :
    cutAt? (a :: sep) (left ++ (a :: sep ++ right)) = some (left, right) :=
  cutAt?_of_first (by simp) right (not_prefix_drop_append h _)

theorem cutAt?_singleton {x : α} {left : List α} (h : x ∉ left) (right : List α) :
    cutAt? [x] (left ++ x :: right) = some (left, right) := by
  simpa using cutAt?_of_head_not_mem [] h right

theorem cutAt?_singleton_none {x : α} {s : List α} (h : x ∉ s) : cutAt? [x] s = none := by
  cases hcut : cutAt? [x] s with
  | none => rfl
  | some cut =>
    have hwhole : s = cut.1 ++ ([x] ++ cut.2) := eq_append_of_cutAt? hcut
    rw [hwhole] at h
    simp at h

theorem contains_eq_false_iff {sep s : List α} : contains sep s = false ↔ ¬ sep <:+: s := by
  rw [Bool.eq_false_iff, Ne, contains_iff_infix]

theorem cutAt?_eq_none_iff {sep s : List α} : cutAt? sep s = none ↔ ¬ sep <:+: s := by
  rw [← contains_iff_infix, contains]
  cases cutAt? sep s <;> simp

omit [BEq α] [LawfulBEq α] in
/-- A separator that ends in what is added can only begin in the end of what stood there, if that
has none itself. -/
theorem infix_behind {sep front tail more : List α} (h : ¬ sep <:+: front ++ tail)
    (htail : front = [] ∨ sep.length ≤ tail.length + 1) (hmore : sep <:+: front ++ tail ++ more) :
    sep <:+: tail ++ more := by
  obtain ⟨left, right, hwhole⟩ := hmore
  rw [List.append_assoc, List.append_assoc] at hwhole
  rcases List.append_eq_append_iff.1 hwhole with ⟨passed, hfront, hrest⟩ | ⟨passed, hleft, hrest⟩
  · -- the separator begins in front of the tail, so it ends in what stood there
    cases passed with
    | nil => exact ⟨[], right, by simpa using hrest⟩
    | cons x passed =>
      have hlong : sep.length ≤ tail.length + 1 := htail.resolve_left (by simp [hfront])
      refine absurd ?_ h
      have hsep : sep <+: (x :: passed) ++ (tail ++ more) := by
        rw [← hrest]
        exact List.prefix_append _ _
      have hown : (x :: passed) ++ tail <+: (x :: passed) ++ (tail ++ more) := by
        rw [← List.append_assoc]
        exact List.prefix_append _ _
      have hprefix : sep <+: (x :: passed) ++ tail :=
        List.prefix_of_prefix_length_le hsep hown (by simp; omega)
      rw [hfront, List.append_assoc]
      exact hprefix.isInfix.trans (List.suffix_append _ _).isInfix
  · exact ⟨passed, right, by rw [hrest, List.append_assoc]⟩

omit [BEq α] [LawfulBEq α] in
/-- The last elements are those of any longer end. -/
theorem drop_end_append (n : Nat) (s more : List α) :
    (s.drop (s.length - n) ++ more).drop ((s.drop (s.length - n) ++ more).length - n) =
      (s ++ more).drop ((s ++ more).length - n) := by
  have hwhole : s ++ more = s.take (s.length - n) ++ (s.drop (s.length - n) ++ more) := by
    rw [← List.append_assoc, List.take_append_drop]
  have hlength : (s ++ more).length - n = (s.take (s.length - n)).length +
      ((s.drop (s.length - n) ++ more).length - n) := by
    simp
    omega
  rw [hlength, hwhole, List.drop_length_add_append]

/-- Where a list is cut: `left` stands before the first separator, and `right` behind it. -/
structure IsCut (sep s left right : List α) : Prop where
  whole : s = left ++ (sep ++ right)
  first : ∀ k, k < left.length → ¬ sep <+: s.drop k

theorem isCut_of_cutAt? {sep : List α} :
    ∀ {s left right : List α}, cutAt? sep s = some (left, right) → IsCut sep s left right := by
  intro s
  induction s with
  | nil =>
    intro left right h
    cases sep with
    | nil =>
      simp [cutAt?, cutAt?.go] at h
      rw [h.1, h.2]
      exact ⟨rfl, fun k hk => by cases hk⟩
    | cons x sep => rw [cutAt?_nil (by simp)] at h; cases h
  | cons x rest ih =>
    intro left right h
    refine ⟨eq_append_of_cutAt? h, ?_⟩
    rw [cutAt?_cons] at h
    split at h
    · cases h
      intro k hk
      cases hk
    · next hfront =>
      obtain ⟨⟨before, behind⟩, hcut, hsides⟩ := Option.map_eq_some_iff.1 h
      cases hsides
      intro k hk
      cases k with
      | zero => rwa [List.drop_zero, ← List.isPrefixOf_iff_prefix]
      | succ k => exact (ih hcut).first k (Nat.lt_of_succ_lt_succ hk)

/-- The cut is the one around the first separator. -/
theorem cutAt?_eq_some_iff {sep s left right : List α} (hsep : sep ≠ []) :
    cutAt? sep s = some (left, right) ↔ IsCut sep s left right := by
  refine ⟨isCut_of_cutAt?, fun h => ?_⟩
  rw [h.whole]
  exact cutAt?_of_first hsep right fun k hk => h.whole ▸ h.first k hk

omit [BEq α] [LawfulBEq α] in
/-- A cut stays where it is when more follows. -/
theorem IsCut.append {sep s left right : List α} (h : IsCut sep s left right) (more : List α) :
    IsCut sep (s ++ more) left (right ++ more) := by
  refine ⟨by rw [h.whole]; simp, fun k hk hprefix => h.first k hk ?_⟩
  have hlength : left.length + sep.length ≤ s.length := by
    rw [h.whole]
    simp
  rw [List.drop_append_of_le_length (by omega)] at hprefix
  exact List.prefix_of_prefix_length_le hprefix (List.prefix_append _ _) (by simp; omega)

omit [BEq α] [LawfulBEq α] in
/-- A cut stays where it is when a part stands in front that no separator begins in. -/
theorem IsCut.behind {sep s left right front : List α} (h : IsCut sep s left right)
    (hfront : ∀ k, k < front.length → ¬ sep <+: (front ++ s).drop k) :
    IsCut sep (front ++ s) (front ++ left) right := by
  refine ⟨by rw [h.whole]; simp, fun k hk => ?_⟩
  by_cases hinside : k < front.length
  · exact hfront k hinside
  · have hdrop : (front ++ s).drop k = s.drop (k - front.length) := by
      rw [List.drop_append, List.drop_eq_nil_of_le (Nat.le_of_not_lt hinside), List.nil_append]
    rw [hdrop]
    exact h.first _ (by rw [List.length_append] at hk; omega)

omit [BEq α] [LawfulBEq α] in
/-- A cut is that of any part in front in which there is a separator. -/
theorem IsCut.of_prefix {sep s left right front : List α} (h : IsCut sep s left right)
    (hfront : front <+: s) (hsep : sep <:+: front) : ∃ more, front = left ++ (sep ++ more) := by
  obtain ⟨before, behind, rfl⟩ := hsep
  have hlength : left.length ≤ before.length := by
    refine Nat.le_of_not_lt fun hlt => h.first _ hlt ?_
    obtain ⟨rest, rfl⟩ := hfront
    simp
  have hcut : left ++ sep <+: s := by
    rw [h.whole, ← List.append_assoc]
    exact List.prefix_append _ _
  have hhead : left ++ sep <+: before ++ sep ++ behind :=
    List.prefix_of_prefix_length_le hcut hfront (by simp; omega)
  obtain ⟨more, hmore⟩ := hhead
  exact ⟨more, by rw [← hmore, List.append_assoc]⟩

omit [BEq α] [LawfulBEq α] in
/-- A separator ends the part up to it. -/
theorem IsCut.alone {sep s left right : List α} (h : IsCut sep s left right) :
    IsCut sep (left ++ sep) left [] := by
  refine ⟨by simp, fun k hk hprefix => h.first k hk ?_⟩
  rw [h.whole, ← List.append_assoc, List.drop_append_of_le_length (by simp; omega)]
  exact hprefix.trans (List.prefix_append _ _)

omit [BEq α] [LawfulBEq α] in
theorem IsCut.unbroken {sep s left right : List α} (h : IsCut sep s left right)
    (hsep : sep ≠ []) : ¬ sep <:+: left := by
  rintro ⟨before, behind, hleft⟩
  have hpos : 0 < sep.length := List.length_pos_iff.2 hsep
  refine h.first before.length (by rw [← hleft]; simp; omega) ?_
  rw [h.whole, ← hleft]
  simp

omit [BEq α] [LawfulBEq α] in
/-- A separator that cannot overlap itself is cut at where it stands behind a part without it. -/
theorem isCut_of_unbroken {a : α} {sep left : List α} (hsep : a ∉ sep)
    (hleft : ¬ a :: sep <:+: left) (right : List α) :
    IsCut (a :: sep) (left ++ (a :: sep ++ right)) left right := by
  refine ⟨rfl, fun k hk hprefix => ?_⟩
  rw [List.drop_append_of_le_length (Nat.le_of_lt hk), List.drop_eq_getElem_cons hk] at hprefix
  by_cases hlength : (a :: sep).length ≤ (left[k] :: left.drop (k + 1)).length
  · have hinside : a :: sep <+: left.drop k := by
      rw [List.drop_eq_getElem_cons hk]
      exact List.prefix_of_prefix_length_le hprefix (List.prefix_append _ _) hlength
    exact hleft (hinside.isInfix.trans (List.drop_suffix k left).isInfix)
  · -- The separator begins in `left` and ends behind it, so it holds its own first element twice.
    obtain ⟨rest, hrest⟩ := List.prefix_of_prefix_length_le (List.prefix_append _ _) hprefix
      (Nat.le_of_not_le hlength)
    rw [← hrest, List.prefix_append_right_inj, List.cons_append] at hprefix
    cases rest with
    | nil => simp [← hrest] at hlength
    | cons b rest =>
      obtain ⟨rfl, _⟩ := List.cons_prefix_cons.1 hprefix
      cases hrest
      exact hsep (by simp)

theorem cutAt?_singleton_iff {x : α} {s left right : List α} :
    cutAt? [x] s = some (left, right) ↔ s = left ++ x :: right ∧ x ∉ left := by
  constructor
  · intro h
    have hcut := isCut_of_cutAt? h
    refine ⟨hcut.whole, fun hmem => ?_⟩
    obtain ⟨k, hk, hx⟩ := List.getElem_of_mem hmem
    apply hcut.first k hk
    rw [hcut.whole, List.drop_append_of_le_length (Nat.le_of_lt hk), List.drop_eq_getElem_cons hk,
      hx]
    simp
  · rintro ⟨rfl, hx⟩
    exact cutAt?_singleton hx right

/-- The last occurrence is found from behind, so no other one stands behind it. -/
theorem cutAtLast?_eq_some_iff {x : α} {s left right : List α} :
    cutAtLast? x s = some (left, right) ↔ s = left ++ x :: right ∧ x ∉ right := by
  have hreverse : s.reverse = right.reverse ++ x :: left.reverse ↔ s = left ++ x :: right := by
    rw [← List.reverse_inj]
    simp
  rw [← hreverse, ← List.mem_reverse, ← cutAt?_singleton_iff, cutAtLast?]
  cases cutAt? [x] s.reverse with
  | none => simp
  | some cut =>
    obtain ⟨behind, front⟩ := cut
    simp only [Option.some.injEq, Prod.mk.injEq]
    rw [and_comm, List.reverse_eq_iff, List.reverse_eq_iff]

/-- What stands before the first occurrence of an element. -/
theorem before_singleton [DecidableEq α] (x : α) (s : List α) :
    before [x] s = s.takeWhile fun y => y ≠ x := by
  have hpass : ∀ {t : List α}, x ∉ t → ∀ y ∈ t, decide (y ≠ x) = true := by
    intro t ht y hy
    simpa using fun h : y = x => ht (h ▸ hy)
  by_cases hmem : x ∈ s
  · obtain ⟨left, right, rfl, hx⟩ := List.eq_append_cons_of_mem hmem
    rw [before, cutAt?_singleton hx, List.takeWhile_append_of_pos (hpass hx)]
    simp
  · have hall : (s ++ []).takeWhile (fun y => decide (y ≠ x)) = s ++ [] :=
      List.takeWhile_append_of_pos (hpass hmem)
    rw [List.append_nil] at hall
    rw [before, cutAt?_singleton_none hmem, hall]

theorem splitOn_go_eq {sep : List α} (hsep : sep ≠ []) :
    ∀ (fuel : Nat) (s : List α) (pieces : List (List α)), s.length ≤ fuel →
      splitOn.go sep pieces fuel s =
        pieces.reverse ++
          match cutAt? sep s with
          | none => [s]
          | some (left, right) => left :: splitOn sep right := by
  intro fuel
  induction fuel using Nat.strongRecOn with
  | ind fuel ih =>
    intro s pieces hs
    cases fuel with
    | zero =>
      rw [List.length_eq_zero_iff.1 (Nat.le_zero.1 hs)]
      simp [splitOn.go, cutAt?_nil hsep]
    | succ fuel =>
      rw [splitOn.go]
      cases hcut : cutAt? sep s with
      | none => simp
      | some cut =>
        obtain ⟨left, right⟩ := cut
        have hlen : right.length < s.length := by
          have hpos : 0 < sep.length := List.length_pos_iff.2 hsep
          rw [eq_append_of_cutAt? hcut]
          simp
          omega
        have hgo := ih fuel (Nat.lt_succ_self fuel) right (left :: pieces) (by omega)
        have hown := ih right.length (by omega) right [] (Nat.le_refl _)
        simp only [hgo, splitOn, hown]
        simp

/-- Splitting is one cut, and then the splitting of what stands behind it. -/
theorem splitOn_eq {sep : List α} (hsep : sep ≠ []) (s : List α) :
    splitOn sep s =
      match cutAt? sep s with
      | none => [s]
      | some (left, right) => left :: splitOn sep right := by
  rw [splitOn, splitOn_go_eq hsep _ _ _ (Nat.le_refl _)]
  simp

theorem splitOn_of_head_not_mem {a : α} {sep left : List α} (h : a ∉ left) (right : List α) :
    splitOn (a :: sep) (left ++ (a :: sep ++ right)) = left :: splitOn (a :: sep) right := by
  rw [splitOn_eq (by simp), cutAt?_of_head_not_mem _ h]

theorem splitOn_singleton_cons {x : α} {left : List α} (h : x ∉ left) (right : List α) :
    splitOn [x] (left ++ x :: right) = left :: splitOn [x] right :=
  splitOn_of_head_not_mem h right

theorem splitOn_singleton_self {x : α} {s : List α} (h : x ∉ s) : splitOn [x] s = [s] := by
  rw [splitOn_eq (by simp), cutAt?_singleton_none h]

/-- A separator that cannot overlap itself ends a piece, whatever stands before and behind it. -/
theorem splitOn_append {a : α} {sep : List α} (hsep : a ∉ sep) (left right : List α) :
    splitOn (a :: sep) (left ++ (a :: sep ++ right)) =
      splitOn (a :: sep) left ++ splitOn (a :: sep) right := by
  have hne : a :: sep ≠ [] := by simp
  induction hlen : left.length using Nat.strongRecOn generalizing left with
  | ind n ih =>
    cases hcut : cutAt? (a :: sep) left with
    | none =>
      have hwhole := (isCut_of_unbroken hsep (cutAt?_eq_none_iff.1 hcut)) right
      rw [splitOn_eq hne, (cutAt?_eq_some_iff hne).2 hwhole, splitOn_eq hne left, hcut]
      rfl
    | some cut =>
      obtain ⟨first, rest⟩ := cut
      have hfirst := isCut_of_cutAt? hcut
      have hwhole := hfirst.append (a :: sep ++ right)
      have hshort : rest.length < n := by
        rw [← hlen, hfirst.whole]
        simp
        omega
      rw [splitOn_eq hne, (cutAt?_eq_some_iff hne).2 hwhole, splitOn_eq hne left, hcut]
      dsimp only
      rw [ih rest.length hshort rest rfl]
      rfl

theorem splitOn_append_cons {x : α} (left right : List α) :
    splitOn [x] (left ++ x :: right) = splitOn [x] left ++ splitOn [x] right :=
  splitOn_append (by simp) left right

/-- A stretch from one separator, or the front, to the next one, or the end. -/
structure IsPiece (sep s piece : List α) : Prop where
  placed : ∃ front back, s = front ++ (piece ++ back) ∧ (front = [] ∨ sep <:+ front) ∧
    (back = [] ∨ sep <+: back)
  unbroken : ¬ sep <:+: piece

theorem isPiece_of_mem_splitOn {sep : List α} (hsep : sep ≠ []) {piece : List α} :
    ∀ {s : List α}, piece ∈ splitOn sep s → IsPiece sep s piece := by
  intro s
  induction hlen : s.length using Nat.strongRecOn generalizing s with
  | ind n ih =>
    intro h
    rw [splitOn_eq hsep] at h
    cases hcut : cutAt? sep s with
    | none =>
      rw [hcut] at h
      cases List.mem_singleton.1 h
      exact ⟨⟨[], [], by simp, .inl rfl, .inl rfl⟩, cutAt?_eq_none_iff.1 hcut⟩
    | some cut =>
      obtain ⟨left, right⟩ := cut
      rw [hcut] at h
      have hwhole := isCut_of_cutAt? hcut
      rcases List.mem_cons.1 h with rfl | h
      · exact ⟨⟨[], sep ++ right, hwhole.whole, .inl rfl, .inr ⟨right, rfl⟩⟩,
          hwhole.unbroken hsep⟩
      · have hshort : right.length < n := by
          have hpos : 0 < sep.length := List.length_pos_iff.2 hsep
          rw [← hlen, hwhole.whole]
          simp
          omega
        obtain ⟨⟨front, back, hright, hfront, hback⟩, hunbroken⟩ := ih right.length hshort rfl h
        refine ⟨⟨left ++ (sep ++ front), back, ?_, .inr ?_, hback⟩, hunbroken⟩
        · rw [hwhole.whole, hright]
          simp
        · rcases hfront with rfl | hfront
          · exact ⟨left, by simp⟩
          · exact hfront.trans ⟨left ++ sep, by simp⟩

/-- The pieces of a list are its stretches between separators, if these cannot overlap. -/
theorem mem_splitOn_iff {a : α} {sep : List α} (hsep : a ∉ sep) {s piece : List α} :
    piece ∈ splitOn (a :: sep) s ↔ IsPiece (a :: sep) s piece := by
  refine ⟨isPiece_of_mem_splitOn (by simp), ?_⟩
  rintro ⟨⟨front, back, rfl, hfront, hback⟩, hunbroken⟩
  have hself : splitOn (a :: sep) piece = [piece] := by
    rw [splitOn_eq (by simp), cutAt?_eq_none_iff.2 hunbroken]
  have hpiece : piece ∈ splitOn (a :: sep) (piece ++ back) := by
    rcases hback with rfl | ⟨rest, rfl⟩
    · rw [List.append_nil, hself]
      exact List.mem_singleton_self piece
    · rw [splitOn_append hsep, hself]
      exact List.mem_append_left _ (List.mem_singleton_self piece)
  rcases hfront with rfl | ⟨rest, rfl⟩
  · exact hpiece
  · rw [List.append_assoc, splitOn_append hsep]
    exact List.mem_append_right _ hpiece

/-- What a function does not see in front of the first piece can be left out. -/
theorem map_splitOn_front {β : Type} {f : List α → β} {x : α} {front : List α} (hx : x ∉ front)
    (hf : ∀ s, f (front ++ s) = f s) (s : List α) :
    (splitOn [x] (front ++ s)).map f = (splitOn [x] s).map f := by
  by_cases h : x ∈ s
  · obtain ⟨left, right, rfl, hleft⟩ := List.eq_append_cons_of_mem h
    have hnone : x ∉ front ++ left := by simp [hx, hleft]
    rw [← List.append_assoc, splitOn_singleton_cons hnone, splitOn_singleton_cons hleft,
      List.map_cons, List.map_cons, hf]
  · have hnone : x ∉ front ++ s := by simp [hx, h]
    rw [splitOn_singleton_self hnone, splitOn_singleton_self h, List.map_singleton,
      List.map_singleton, hf]

/-- What a function does not see behind the last piece can be left out. -/
theorem map_splitOn_back {β : Type} {f : List α → β} {x : α} {back : List α} (hx : x ∉ back)
    (hf : ∀ s, f (s ++ back) = f s) (s : List α) :
    (splitOn [x] (s ++ back)).map f = (splitOn [x] s).map f := by
  induction hlen : s.length using Nat.strongRecOn generalizing s with
  | ind n ih =>
    by_cases h : x ∈ s
    · obtain ⟨left, right, rfl, hleft⟩ := List.eq_append_cons_of_mem h
      have hrest := ih right.length (by simp at hlen; omega) right rfl
      rw [List.append_assoc, List.cons_append, splitOn_singleton_cons hleft,
        splitOn_singleton_cons hleft, List.map_cons, List.map_cons, hrest]
    · have hnone : x ∉ s ++ back := by simp [hx, h]
      rw [splitOn_singleton_self hnone, splitOn_singleton_self h, List.map_singleton,
        List.map_singleton, hf]

omit [BEq α] [LawfulBEq α] in
/-- Lines that are written with an end behind each are lines with ends between them, and one more
end. -/
theorem flatMap_append_eq_intercalate (sep line : List α) (lines : List (List α)) :
    (line :: lines).flatMap (fun l => l ++ sep) = List.intercalate sep (line :: lines) ++ sep := by
  induction lines generalizing line with
  | nil => simp
  | cons next lines ih =>
    rw [List.flatMap_cons, ih, List.intercalate_cons_cons, List.append_assoc, List.append_assoc,
      List.append_assoc]

omit [BEq α] [LawfulBEq α] in
theorem not_infix_of_not_mem {a : α} {sep s : List α} (h : a ∉ s) : ¬ a :: sep <:+: s :=
  fun hin => h (hin.subset List.mem_cons_self)

omit [BEq α] [LawfulBEq α] in
/-- A separator does not lie across an element that it does not have. -/
theorem infix_of_infix_append_cons {x : α} {sep left right : List α} (hx : x ∉ sep)
    (h : sep <:+: left ++ x :: right) : sep <:+: left ∨ sep <:+: right := by
  have hfront : ∀ {front : List α}, front <:+: sep → front <+: x :: right → front = [] := by
    intro front hin hprefix
    cases front with
    | nil => rfl
    | cons y front =>
      obtain ⟨rfl, _⟩ := List.cons_prefix_cons.1 hprefix
      exact absurd (hin.subset List.mem_cons_self) hx
  rcases List.infix_append_iff.1 h with hleft | hright | ⟨front, back, rfl, hleft, hback⟩
  · exact .inl hleft
  · rcases List.infix_cons_iff.1 hright with hprefix | hright
    · exact .inl ((hfront List.infix_rfl hprefix) ▸ List.nil_infix)
    · exact .inr hright
  · have hnone := hfront (List.suffix_append front back).isInfix hback
    rw [hnone, List.append_nil]
    exact .inl hleft.isInfix

/-- Pieces without a separator are split apart again, if a separator cannot overlap itself. -/
theorem splitOn_intercalate {a : α} {sep line : List α} (hsep : a ∉ sep) {lines : List (List α)}
    (h : ∀ l ∈ line :: lines, ¬ a :: sep <:+: l) :
    splitOn (a :: sep) (List.intercalate (a :: sep) (line :: lines)) = line :: lines := by
  induction lines generalizing line with
  | nil =>
    rw [List.intercalate_singleton, splitOn_eq (by simp),
      cutAt?_eq_none_iff.2 (h line List.mem_cons_self)]
  | cons next lines ih =>
    obtain ⟨hline, hlines⟩ := List.forall_mem_cons.1 h
    rw [List.intercalate_cons_cons, List.append_assoc, splitOn_append hsep, ih hlines,
      splitOn_eq (by simp), cutAt?_eq_none_iff.2 hline]
    rfl

/-- Lines that are written with an end behind each are read back. Behind the last end stands one
more piece, which is empty. -/
theorem splitOn_unlines {a : α} {sep : List α} (hsep : a ∉ sep) {lines : List (List α)}
    (h : ∀ line ∈ lines, ¬ a :: sep <:+: line) :
    splitOn (a :: sep) (lines.flatMap fun line => line ++ (a :: sep)) = lines ++ [[]] := by
  induction lines with
  | nil => rw [List.flatMap_nil, splitOn_eq (by simp), cutAt?_nil (by simp), List.nil_append]
  | cons line lines ih =>
    obtain ⟨hline, hlines⟩ := List.forall_mem_cons.1 h
    rw [List.flatMap_cons, List.append_assoc, splitOn_append hsep, ih hlines,
      splitOn_eq (by simp), cutAt?_eq_none_iff.2 hline]
    rfl

end

section

variable {α : Type}

theorem trimLeft_eq_self {drop : α → Bool} {s : List α}
    (h : ∀ x, s.head? = some x → drop x = false) : trimLeft drop s = s := by
  cases s with
  | nil => rfl
  | cons x s => rw [trimLeft, List.dropWhile_cons_of_neg (by simpa using h x rfl)]

theorem trimRight_eq_self {drop : α → Bool} {s : List α}
    (h : ∀ x, s.getLast? = some x → drop x = false) : trimRight drop s = s := by
  have hreverse : trimLeft drop s.reverse = s.reverse :=
    trimLeft_eq_self fun x hx => h x (by rwa [List.getLast?_eq_head?_reverse])
  rw [trimLeft] at hreverse
  rw [trimRight, hreverse, List.reverse_reverse]

/-- A list keeps its ends if neither is to be dropped. -/
theorem trim_eq_self {drop : α → Bool} {s : List α} (hhead : ∀ x, s.head? = some x → drop x = false)
    (hlast : ∀ x, s.getLast? = some x → drop x = false) : trim drop s = s := by
  rw [trim, trimLeft_eq_self hhead, trimRight_eq_self hlast]

theorem trimLeft_append {drop : α → Bool} (ends : List α) (h : ∀ x ∈ ends, drop x = true)
    (s : List α) : trimLeft drop (ends ++ s) = trimLeft drop s :=
  List.dropWhile_append_of_pos h

theorem trimRight_append {drop : α → Bool} {ends : List α} (h : ∀ x ∈ ends, drop x = true)
    (s : List α) : trimRight drop (s ++ ends) = trimRight drop s := by
  have hreverse := trimLeft_append ends.reverse (by simpa using h) s.reverse
  rw [trimLeft, trimLeft] at hreverse
  rw [trimRight, trimRight, List.reverse_append, hreverse]

theorem trim_append_front {drop : α → Bool} {front : List α} (h : ∀ x ∈ front, drop x = true)
    (s : List α) : trim drop (front ++ s) = trim drop s := by
  rw [trim, trimLeft_append front h, trim]

theorem trim_append_back {drop : α → Bool} {back : List α} (h : ∀ x ∈ back, drop x = true)
    (s : List α) : trim drop (s ++ back) = trim drop s := by
  by_cases hs : ∀ x ∈ s, drop x = true
  · have hall : ∀ x ∈ s ++ back, drop x = true := List.forall_mem_append.2 ⟨hs, h⟩
    rw [trim, trim, trimLeft, trimLeft, List.dropWhile_eq_nil_iff.2 hall,
      List.dropWhile_eq_nil_iff.2 hs]
  · have hkept : trimLeft drop (s ++ back) = trimLeft drop s ++ back := by
      rw [trimLeft, trimLeft, List.dropWhile_append, if_neg]
      rwa [List.isEmpty_iff, List.dropWhile_eq_nil_iff]
    rw [trim, hkept, trimRight_append h, trim]

/-- Just the ends are dropped, if nothing between them is to be dropped. -/
theorem trim_append {drop : α → Bool} {front back s : List α} (hfront : ∀ x ∈ front, drop x = true)
    (hback : ∀ x ∈ back, drop x = true) (hs : ∀ x ∈ s, drop x = false) :
    trim drop (front ++ (s ++ back)) = s := by
  rw [trim_append_front hfront, trim_append_back hback]
  exact trim_eq_self (fun x hx => hs x (List.mem_of_head? hx))
    fun x hx => hs x (List.mem_of_getLast? hx)

/-- Around what is kept stands only what is to be dropped. -/
theorem exists_of_trim (drop : α → Bool) (s : List α) :
    ∃ front back, s = front ++ (trim drop s ++ back) ∧ (∀ x ∈ front, drop x = true) ∧
      ∀ x ∈ back, drop x = true := by
  have htake : ∀ t : List α, ∀ x ∈ t.takeWhile drop, drop x = true :=
    fun t x hx => List.mem_takeWhile_imp hx
  refine ⟨s.takeWhile drop, ((trimLeft drop s).reverse.takeWhile drop).reverse, ?_, htake s,
    fun x hx => htake _ x (List.mem_reverse.1 hx)⟩
  have hback : trimLeft drop s =
      trim drop s ++ ((trimLeft drop s).reverse.takeWhile drop).reverse := by
    rw [trim, trimRight, ← List.reverse_append, List.takeWhile_append_dropWhile,
      List.reverse_reverse]
  rw [← hback, trimLeft, List.takeWhile_append_dropWhile]

/-- What is kept stands together. -/
theorem trim_infix (drop : α → Bool) (s : List α) : trim drop s <:+: s := by
  obtain ⟨front, back, hs, _⟩ := exists_of_trim drop s
  exact ⟨front, back, by rw [List.append_assoc, ← hs]⟩

theorem head?_trimLeft {drop : α → Bool} {s : List α} {x : α}
    (h : (trimLeft drop s).head? = some x) : drop x = false := by
  have hfirst := List.head?_dropWhile_not drop s
  rw [trimLeft] at h
  rw [h] at hfirst
  exact hfirst

/-- Nothing is left to drop. -/
theorem trim_trim (drop : α → Bool) (s : List α) : trim drop (trim drop s) = trim drop s := by
  have hlast : ∀ x, (trim drop s).getLast? = some x → drop x = false := by
    intro x hx
    rw [trim, trimRight, List.getLast?_reverse] at hx
    exact head?_trimLeft hx
  refine trim_eq_self (fun x hx => ?_) hlast
  obtain ⟨back, hback⟩ : trim drop s <+: trimLeft drop s := by
    rw [trim, trimRight, ← List.reverse_suffix, List.reverse_reverse]
    exact List.dropWhile_suffix drop
  refine head?_trimLeft (s := s) ?_
  rw [← hback, List.head?_append, hx]
  rfl

theorem mem_intercalate_of_mem {sep piece : List α} {x : α} (hx : x ∈ piece) :
    ∀ {pieces : List (List α)}, piece ∈ pieces → x ∈ List.intercalate sep pieces := by
  intro pieces
  induction pieces with
  | nil => intro h; cases h
  | cons first rest ih =>
    intro h
    cases rest with
    | nil =>
      rw [List.intercalate_singleton]
      exact List.mem_singleton.1 h ▸ hx
    | cons next rest =>
      rw [List.intercalate_cons_cons, List.mem_append]
      rcases List.mem_cons.1 h with rfl | h
      · exact .inl (List.mem_append_left _ hx)
      · exact .inr (ih h)

theorem mem_of_mem_intercalate {sep : List α} {x : α} : ∀ {pieces : List (List α)},
    x ∈ List.intercalate sep pieces → x ∈ sep ∨ ∃ piece ∈ pieces, x ∈ piece := by
  intro pieces
  induction pieces with
  | nil => intro h; rw [List.intercalate_nil] at h; cases h
  | cons first rest ih =>
    intro h
    cases rest with
    | nil =>
      rw [List.intercalate_singleton] at h
      exact .inr ⟨first, List.mem_cons_self, h⟩
    | cons next rest =>
      rw [List.intercalate_cons_cons, List.mem_append, List.mem_append] at h
      rcases h with (h | h) | h
      · exact .inr ⟨first, List.mem_cons_self, h⟩
      · exact .inl h
      · rcases ih h with h | ⟨piece, hpiece, h⟩
        · exact .inl h
        · exact .inr ⟨piece, List.mem_cons_of_mem _ hpiece, h⟩

/-- What is joined ends in the last piece. -/
theorem intercalate_concat (sep last : List α) : ∀ pieces : List (List α),
    ∃ front, List.intercalate sep (pieces ++ [last]) = front ++ last := by
  intro pieces
  induction pieces with
  | nil => exact ⟨[], List.intercalate_singleton⟩
  | cons first rest ih =>
    obtain ⟨front, hfront⟩ := ih
    cases rest with
    | nil => exact ⟨first ++ sep, by simp [List.intercalate]⟩
    | cons next rest =>
      refine ⟨first ++ sep ++ front, ?_⟩
      rw [List.cons_append, List.cons_append, List.intercalate_cons_cons, ← List.cons_append,
        hfront, ← List.append_assoc]

/-- What is in a piece was there before the cuts. -/
theorem mem_of_mem_splitOn [BEq α] [LawfulBEq α] {sep s piece : List α} {x : α}
    (hpiece : piece ∈ splitOn sep s) (hx : x ∈ piece) : x ∈ s := by
  rw [← intercalate_splitOn sep s]
  exact mem_intercalate_of_mem hx hpiece

end

section Chunks

variable {α : Type} {n : Nat}

theorem chunks_go_eq (hn : 0 < n) : ∀ (fuel : Nat) (s : List α) (done : List (List α)),
    s.length ≤ fuel → chunks.go n done fuel s =
      done.reverse ++
        (List.range ((s.length + n - 1) / n)).map fun i => (s.drop (n * i)).take n := by
  have hnone : (0 + n - 1) / n = 0 := Nat.div_eq_of_lt (by omega)
  intro fuel
  induction fuel with
  | zero =>
    intro s done h
    rw [List.length_eq_zero_iff.1 (Nat.le_zero.1 h), List.length_nil, hnone]
    simp [chunks.go]
  | succ fuel ih =>
    intro s done h
    rw [chunks.go]
    split
    · next hempty =>
      rw [List.isEmpty_iff.1 hempty, List.length_nil, hnone]
      simp
    · next hempty =>
      have hlength : 0 < s.length := List.length_pos_iff.2 (by simpa using hempty)
      -- The first chunk is taken off, and there is one less to come.
      have hcount : (s.length + n - 1) / n = (s.length - n + n - 1) / n + 1 := by
        rcases Nat.le_total n s.length with hlong | hshort
        · rw [← Nat.add_div_right _ hn]
          congr 1
          omega
        · rw [show s.length - n + n - 1 = 0 + n - 1 by omega, hnone,
            show s.length + n - 1 = (s.length - 1) + n by omega, Nat.add_div_right _ hn,
            Nat.div_eq_of_lt (by omega)]
      rw [ih _ _ (by rw [List.length_drop]; omega), List.length_drop, hcount,
        List.range_succ_eq_map, List.map_cons, List.map_map, List.reverse_cons, List.append_assoc,
        List.singleton_append, Nat.mul_zero, List.drop_zero]
      congr 2
      refine List.map_congr_left fun i _ => ?_
      rw [Function.comp_apply, List.drop_drop, Nat.mul_succ, Nat.add_comm]

/-- The chunks are the runs of `n` elements from every `n`-th position on. -/
theorem chunks_eq (hn : 0 < n) (s : List α) :
    chunks n s = (List.range ((s.length + n - 1) / n)).map fun i => (s.drop (n * i)).take n := by
  rw [chunks, chunks_go_eq hn s.length s [] (Nat.le_refl _)]
  rfl

theorem length_chunks (hn : 0 < n) (s : List α) : (chunks n s).length = (s.length + n - 1) / n := by
  rw [chunks_eq hn, List.length_map, List.length_range]

theorem length_le_of_mem_chunks (hn : 0 < n) {s chunk : List α} (h : chunk ∈ chunks n s) :
    chunk.length ≤ n := by
  rw [chunks_eq hn] at h
  obtain ⟨i, _, rfl⟩ := List.mem_map.1 h
  exact List.length_take_le n _

end Chunks

end Sequence
end AssetBundle
