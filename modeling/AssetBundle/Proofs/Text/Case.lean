import AssetBundle.Keyed
import AssetBundle.Proofs.Text.Latin1
import AssetBundle.Text.Ascii
import AssetBundle.Text.CaseMapping

/-!
# AssetBundle.Proofs.Text.Case

Letter case in Latin-1. Lower case stays in Latin-1 (`encodes_lower`), and only ASCII letters have
an ASCII lower case, so a word of a protocol is met by folding ASCII capitals alone
(`map_lowerPoint_eq_iff`). In all of Unicode the Kelvin sign is the one exception, so this holds
there of words without a small k (`lower_eq_word_iff`). Upper case may leave Latin-1 or grow, but
nothing except a hexadecimal digit turns into one, so texts of such digits that agree in upper
case agree but for the case of their letters (`upper_eq_upper_iff`). Bytes in lower case are read as
text whose ASCII capitals are folded (`Latin1.decode_lower`).
-/

namespace AssetBundle

namespace CodePoint

def isHexDigit (c : CodePoint) : Bool := (Quoted.hexValue? c).isSome

variable {c : CodePoint}

theorem isHexDigit_iff : c.isHexDigit = true ↔
    (48 ≤ c.val ∧ c.val ≤ 57) ∨ (97 ≤ c.val ∧ c.val ≤ 102) ∨ (65 ≤ c.val ∧ c.val ≤ 70) := by
  simp only [isHexDigit, Quoted.hexValue?, Bool.and_eq_true, decide_eq_true_eq]
  split
  · next h => simp [h]
  · next h =>
    split
    · next h' => simp [h']
    · next h' => split <;> simp [*]

theorem lt_of_isHexDigit (h : c.isHexDigit = true) : c.val < 128 := by
  rw [isHexDigit_iff] at h
  omega

theorem lowerAscii_of_capital (h : 65 ≤ c.val ∧ c.val ≤ 90) : (lowerAscii c).val = c.val + 32 := by
  rw [lowerAscii, if_pos (by simpa using h)]
  exact Nat.mod_eq_of_lt (by omega)

theorem lowerAscii_of_not_capital (h : ¬ (65 ≤ c.val ∧ c.val ≤ 90)) : lowerAscii c = c := by
  rw [lowerAscii, if_neg (by simpa using h)]

/-- Folding capitals neither enters nor leaves ASCII. -/
theorem lowerAscii_lt_iff : (lowerAscii c).val < 128 ↔ c.val < 128 := by
  by_cases h : 65 ≤ c.val ∧ c.val ≤ 90
  · rw [lowerAscii_of_capital h]
    omega
  · rw [lowerAscii_of_not_capital h]

theorem isHexDigit_lowerAscii_iff : (lowerAscii c).isHexDigit = true ↔ c.isHexDigit = true := by
  by_cases h : 65 ≤ c.val ∧ c.val ≤ 90
  · rw [isHexDigit_iff, isHexDigit_iff, lowerAscii_of_capital h]
    omega
  · rw [lowerAscii_of_not_capital h]

end CodePoint

namespace Latin1

end Latin1

namespace CaseMapping

open CodePoint (lowerAscii isHexDigit)

variable {c : CodePoint}

/-- Runs that meet the upper half of Latin-1 keep it between 128 and a bound, if they do so at
their ends. -/
theorem shift_between {runs : List Run} {high : Nat} (hhigh : 256 ≤ high ∧ high ≤ 0x110000)
    (hruns : ∀ run ∈ runs, 256 ≤ run.1 ∨ run.2.1 < 128 ∨
      128 ≤ run.1 + run.2.2.2 ∧ run.2.1 + run.2.2.2 < high)
    (hlow : 128 ≤ c.val) (hc : c.val < 256) :
    128 ≤ (shift runs c).val ∧ (shift runs c).val < high := by
  rw [shift]
  split
  · next first last step distance hfind =>
    have hheld := List.find?_some hfind
    simp only [Bool.and_eq_true, decide_eq_true_eq] at hheld
    have hval : (codePoint (c.val + distance).toNat).val =
        (c.val + distance).toNat % 0x110000 := rfl
    have hends := hruns _ (List.mem_of_find?_eq_some hfind)
    dsimp only at hends
    rw [hval]
    omega
  · omega

theorem lowerPoint_of_ascii (h : c.val < 128) : lowerPoint c = lowerAscii c := by
  rw [lowerPoint, if_pos h]
  rfl

theorem lowerPoint_between (hlow : 128 ≤ c.val) (hc : c.val < 256) :
    128 ≤ (lowerPoint c).val ∧ (lowerPoint c).val < 256 := by
  rw [lowerPoint, if_neg (by omega)]
  exact shift_between (by omega) (by decide +kernel) hlow hc

theorem encodable_lowerPoint (h : Latin1.encodable c = true) :
    Latin1.encodable (lowerPoint c) = true := by
  rw [Latin1.encodable, decide_eq_true_eq] at h ⊢
  by_cases hascii : c.val < 128
  · rw [lowerPoint_of_ascii hascii]
    exact Nat.lt_trans (CodePoint.lowerAscii_lt_iff.2 hascii) (by decide)
  · exact (lowerPoint_between (by omega) h).2

/-- Only what is an ASCII letter has one as its lower case. -/
theorem lowerPoint_eq_iff (h : Latin1.encodable c = true) {d : CodePoint} (hd : d.val < 128) :
    lowerPoint c = d ↔ lowerAscii c = d := by
  by_cases hascii : c.val < 128
  · rw [lowerPoint_of_ascii hascii]
  · have hupper := lowerPoint_between (Nat.le_of_not_lt hascii) (of_decide_eq_true h)
    constructor
    · rintro rfl
      omega
    · rintro rfl
      exact absurd (CodePoint.lowerAscii_lt_iff.1 hd) hascii

/-- Of what lies beyond ASCII, only the Kelvin sign has an ASCII letter as its lower case. -/
theorem kelvin_of_lowerPoint (hlow : 128 ≤ c.val) (h : (lowerPoint c).val < 128) :
    c.val = 0x212A := by
  have hruns : ∀ run ∈ lowerRuns, run.2.1 < 128 ∨ (run.1 = 0x212A ∧ run.2.1 = 0x212A) ∨
      128 ≤ run.1 + run.2.2.2 ∧ run.2.1 + run.2.2.2 < 0x110000 := by
    decide +kernel
  rw [lowerPoint, if_neg (by omega), shift] at h
  split at h
  · next first last step distance hfind =>
    have hheld := List.find?_some hfind
    simp only [Bool.and_eq_true, decide_eq_true_eq] at hheld
    have hval : (codePoint (c.val + distance).toNat).val =
        (c.val + distance).toNat % 0x110000 := rfl
    have hends := hruns _ (List.mem_of_find?_eq_some hfind)
    dsimp only at hends
    rw [hval] at h
    omega
  · omega

/-- Only an ASCII letter has the same lower case as one, except for a small k. -/
theorem lowerPoint_eq_letter_iff {d : CodePoint} (hd : d.val < 128 ∧ d.val ≠ 107) :
    lowerPoint c = d ↔ lowerAscii c = d := by
  by_cases hascii : c.val < 128
  · rw [lowerPoint_of_ascii hascii]
  · constructor
    · rintro rfl
      have hkelvin := kelvin_of_lowerPoint (Nat.le_of_not_lt hascii) hd.1
      have hc : c = ⟨0x212A, by decide⟩ := Fin.ext hkelvin
      subst hc
      exact absurd hd.2 (by decide +kernel)
    · rintro rfl
      exact absurd (CodePoint.lowerAscii_lt_iff.1 hd.1) hascii

theorem map_lowerPoint_eq_iff {word : Text} (hword : ∀ d ∈ word, d.val < 128) {t : Text}
    (ht : Latin1.encodes t = true) : t.map lowerPoint = word ↔ Text.isWord word t = true := by
  rw [Text.isWord, decide_eq_true_eq, Text.lowerAscii]
  induction word generalizing t with
  | nil => rw [List.map_eq_nil_iff, List.map_eq_nil_iff]
  | cons d word ih =>
    rw [List.forall_mem_cons] at hword
    cases t with
    | nil => simp
    | cons c t =>
      rw [Latin1.encodes, List.all_cons, Bool.and_eq_true] at ht
      rw [List.map_cons, List.map_cons, List.cons.injEq, List.cons.injEq,
        lowerPoint_eq_iff ht.1 hword.1, ih hword.2 ht.2]

/-- In ASCII, upper and lower case undo each other. -/
theorem upperPoint_of_ascii (h : c.val < 128) :
    upperPoint (lowerAscii c) = upperPoint c ∧
      ∃ d, upperPoint c = [d] ∧ lowerAscii d = lowerAscii c ∧ isHexDigit d = isHexDigit c := by
  have hascii : ∀ b : Fin 128, let c : CodePoint := b.castLE (by decide)
      upperPoint (lowerAscii c) = upperPoint c ∧
        (upperPoint c).map lowerAscii = [lowerAscii c] ∧
        (upperPoint c).map isHexDigit = [isHexDigit c] := by
    decide
  obtain ⟨hfold, hlower, hdigit⟩ := hascii ⟨c.val, h⟩
  obtain ⟨d, hd, hlower⟩ := List.map_eq_singleton_iff.1 hlower
  rw [hd] at hdigit
  exact ⟨hfold, d, hd, hlower, List.singleton_inj.1 hdigit⟩

/-- Outside ASCII, upper case has two letters only for the sharp s. -/
theorem upperPoint_of_not_ascii (hlow : 128 ≤ c.val) (hc : c.val < 256) :
    upperPoint c = ("SS" : Text) ∨ ∃ d, upperPoint c = [d] ∧ 128 ≤ d.val := by
  rw [upperPoint, if_neg (by omega)]
  have hexpansions : ∀ entry ∈ upperExpansions, 256 ≤ entry.1 ∨ entry.2 = [83, 83] := by decide
  split
  · next points hpoints =>
    rcases hexpansions (c.val, points) (Keyed.mem_of_lookup hpoints) with hhigh | rfl
    · exact absurd hhigh (by omega)
    · exact .inl rfl
  · have hshift : 128 ≤ (shift upperRuns c).val ∧ (shift upperRuns c).val < 0x400 :=
      shift_between (by omega) (by decide +kernel) hlow hc
    exact .inr ⟨_, rfl, hshift.1⟩

/-- The upper case of a code point begins with a hexadecimal digit only if it is one. -/
theorem exists_upperPoint (h : Latin1.encodable c = true) :
    ∃ d rest, upperPoint c = d :: rest ∧
      (isHexDigit d = true → rest = [] ∧ lowerAscii d = lowerAscii c) := by
  by_cases hascii : c.val < 128
  · obtain ⟨_, d, hd, hlower, _⟩ := upperPoint_of_ascii hascii
    exact ⟨d, [], hd, fun _ => ⟨rfl, hlower⟩⟩
  · rcases upperPoint_of_not_ascii (Nat.le_of_not_lt hascii) (of_decide_eq_true h) with
      hd | ⟨d, hd, hhigh⟩
    · exact ⟨_, _, hd, fun hdigit => by cases hdigit⟩
    · exact ⟨d, [], hd, fun hdigit => absurd (CodePoint.lt_of_isHexDigit hdigit) (by omega)⟩

end CaseMapping

namespace Text

open CaseMapping

variable {t : Text}

theorem lower_go_eq : ∀ {t : Text} (afterCased : Bool) (done : Text), Latin1.encodes t = true →
    lower.go afterCased done t = done.reverse ++ t.map lowerPoint := by
  intro t
  induction t with
  | nil => intro afterCased done _; simp [lower.go]
  | cons c t ih =>
    intro afterCased done h
    rw [Latin1.encodes, List.all_cons, Bool.and_eq_true, Latin1.encodable, decide_eq_true_eq] at h
    -- Neither the capital sigma nor the dotted capital I is in Latin-1.
    have hsigma : ¬ c.val = 0x3A3 := by omega
    have hdotted : ¬ c.val = 0x130 := by omega
    rw [lower.go, if_neg hsigma, if_neg hdotted, ih _ _ h.2]
    simp

theorem lower_eq (h : Latin1.encodes t = true) : lower t = t.map lowerPoint :=
  lower_go_eq false [] h

theorem encodes_lower (h : Latin1.encodes t = true) : Latin1.encodes (lower t) = true := by
  rw [lower_eq h, Latin1.encodes, List.all_map, List.all_eq_true]
  exact fun c hc => encodable_lowerPoint (List.all_eq_true.1 h c hc)

theorem lower_eq_iff {word : Text} (hword : (word.all fun d => d.val < 128) = true)
    (ht : Latin1.encodes t = true) : lower t = word ↔ isWord word t = true := by
  have hascii : ∀ d ∈ word, d.val < 128 := by simpa using hword
  rw [lower_eq ht, map_lowerPoint_eq_iff hascii ht]

theorem lower_go_done : ∀ (t : Text) (afterCased : Bool) (done : Text),
    lower.go afterCased done t = done.reverse ++ lower.go afterCased [] t := by
  intro t
  induction t with
  | nil => intro afterCased done; simp [lower.go]
  | cons c t ih =>
    intro afterCased done
    rw [lower.go, lower.go, ih, ih _ (_ ++ [])]
    simp

theorem lower_go_eq_iff {word : Text} (hword : ∀ d ∈ word, d.val < 128 ∧ d.val ≠ 107) :
    ∀ (t : Text) (afterCased : Bool),
      lower.go afterCased [] t = word ↔ lowerAscii t = word := by
  intro t
  induction t generalizing word with
  | nil => intro afterCased; rfl
  | cons c t ih =>
    intro afterCased
    rw [lower.go, lower_go_done, List.reverse_append, List.reverse_reverse, List.reverse_nil,
      List.nil_append, lowerAscii, List.map_cons]
    cases word with
    | nil => split <;> (try split) <;> simp
    | cons d word =>
      rw [List.forall_mem_cons] at hword
      have hfolded : 128 ≤ c.val → c.lowerAscii :: t.map CodePoint.lowerAscii ≠ d :: word := by
        intro hc h
        obtain ⟨rfl, _⟩ := List.cons.inj h
        exact absurd (CodePoint.lowerAscii_lt_iff.1 hword.1.1) (by omega)
      split
      · next hsigma =>
        refine iff_of_false (fun h => ?_) (hfolded (by omega))
        obtain ⟨rfl, _⟩ := List.cons.inj h
        revert hword
        split <;> exact fun hword => absurd hword.1.1 (by decide)
      · split
        · next hdotted =>
          refine iff_of_false (fun h => ?_) (hfolded (by omega))
          obtain ⟨_, rfl⟩ := List.cons.inj h
          exact absurd (hword.2 0x307 List.mem_cons_self).1 (by decide)
        · rw [List.singleton_append, List.cons.injEq, List.cons.injEq,
            lowerPoint_eq_letter_iff hword.1, ih hword.2]
          rfl

/-- A word of ASCII letters without a small k is met by folding ASCII capitals alone. -/
theorem lower_eq_word_iff {word : Text}
    (hword : (word.all fun d => d.val < 128 && d.val ≠ 107) = true) :
    lower t = word ↔ isWord word t = true := by
  rw [isWord, decide_eq_true_eq]
  exact lower_go_eq_iff (by simpa using hword) t false

/-- Texts in Latin-1 agree in upper case with hexadecimal digits exactly if they agree with them
but for the case of letters. -/
theorem upper_eq_upper_iff {digits : Text} (hdigits : ∀ c ∈ digits, c.isHexDigit = true)
    (ht : Latin1.encodes t = true) : upper t = upper digits ↔ lowerAscii t = lowerAscii digits := by
  constructor
  · intro h
    induction digits generalizing t with
    | nil =>
      cases t with
      | nil => rfl
      | cons c t =>
        rw [Latin1.encodes, List.all_cons, Bool.and_eq_true] at ht
        obtain ⟨d, rest, hupper, _⟩ := exists_upperPoint ht.1
        rw [upper, List.flatMap_cons, hupper] at h
        cases h
    | cons a digits ih =>
      rw [List.forall_mem_cons] at hdigits
      obtain ⟨_, u, hu, hlower, hhex⟩ :=
        upperPoint_of_ascii (CodePoint.lt_of_isHexDigit hdigits.1)
      rw [upper, upper, List.flatMap_cons, hu] at h
      cases t with
      | nil => cases h
      | cons c t =>
        rw [Latin1.encodes, List.all_cons, Bool.and_eq_true] at ht
        obtain ⟨d, rest, hupper, hd⟩ := exists_upperPoint ht.1
        rw [List.flatMap_cons, hupper, List.cons_append, List.singleton_append,
          List.cons.injEq] at h
        obtain ⟨rfl, h⟩ := h
        obtain ⟨rfl, hsame⟩ := hd (hhex.trans hdigits.1)
        rw [lowerAscii, lowerAscii, List.map_cons, List.map_cons, ← hsame, hlower]
        exact congrArg _ (ih hdigits.2 ht.2 h)
  · intro h
    have hfold : ∀ {s : Text}, (∀ c ∈ s, c.val < 128) → upper (lowerAscii s) = upper s := by
      intro s hs
      rw [upper, upper, lowerAscii, List.flatMap_map, List.flatMap_def, List.flatMap_def]
      exact congrArg _ (List.map_congr_left fun c hc => (upperPoint_of_ascii (hs c hc)).1)
    have hascii : ∀ c ∈ digits, c.val < 128 :=
      fun c hc => CodePoint.lt_of_isHexDigit (hdigits c hc)
    have hsame : ∀ c ∈ t, c.val < 128 := by
      intro c hc
      have hmem : c.lowerAscii ∈ lowerAscii digits := h ▸ List.mem_map_of_mem hc
      obtain ⟨d, hd, hdc⟩ := List.mem_map.1 hmem
      rw [← CodePoint.lowerAscii_lt_iff, ← hdc, CodePoint.lowerAscii_lt_iff]
      exact hascii d hd
    rw [← hfold hsame, h, hfold hascii]

end Text
end AssetBundle
