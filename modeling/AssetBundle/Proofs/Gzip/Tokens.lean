import AssetBundle.Gzip.Matching

/-!
# AssetBundle.Proofs.Gzip.Tokens

The tokens of matching spell the bytes that they were found in (`spells_tokens`). A reference is
emitted only for bytes that were compared (`agreement_spec`), and only to what stands in front of
them, since a position that is kept has been passed (`Knows`). So a reader that holds the bytes in
front of a reference and copies what it refers to holds the bytes up to its end (`copyBack_repeat`).
-/

namespace AssetBundle
namespace Gzip
namespace Matching

/-- Whether so many bytes from a position on stood some distance in front of it already, near
enough and long enough for a reference. -/
structure IsRepeat (s : Bytes) (position length distance : Nat) : Prop where
  long : 3 ≤ length ∧ length ≤ longestMatch
  near : 0 < distance ∧ distance ≤ farthestMatch
  inFront : distance ≤ position
  agrees : ∀ k < length, ∃ b, s[position - distance + k]? = some b ∧ s[position + k]? = some b

/-- Whether tokens stand for the bytes from a position on. -/
inductive Spells (s : Bytes) : Nat → List Token → Prop
  | none : Spells s s.length []
  | literal {position : Nat} {b : UInt8} {tokens : List Token} :
      s[position]? = some b → Spells s (position + 1) tokens →
        Spells s position (.literal b :: tokens)
  | reference {position length distance : Nat} {tokens : List Token} :
      IsRepeat s position length distance → Spells s (position + length) tokens →
        Spells s position (.reference length distance :: tokens)

variable {s : Bytes} {position skip length distance : Nat} {b : UInt8} {done all : List Token}

/-- What agrees has been compared, byte for byte. -/
theorem agreement_spec (s : Array UInt8) (i j : Nat) : ∀ fuel n : Nat,
    agreement s i j fuel n ≤ n + fuel ∧
      ∀ k, n ≤ k → k < agreement s i j fuel n → ∃ b, s[i + k]? = some b ∧ s[j + k]? = some b := by
  intro fuel
  induction fuel with
  | zero => exact fun n => ⟨Nat.le_refl _, fun k hle hlt => by rw [agreement] at hlt; omega⟩
  | succ fuel ih =>
    intro n
    have hnone : ∀ k, n ≤ k → k < n → ∃ b, s[i + k]? = some b ∧ s[j + k]? = some b :=
      fun k hle hlt => by omega
    rw [agreement]
    split
    · next a b ha hb =>
      split
      · next hsame =>
        obtain ⟨hbound, hagrees⟩ := ih (n + 1)
        refine ⟨by omega, fun k hle hlt => ?_⟩
        rcases Nat.eq_or_lt_of_le hle with rfl | hnext
        · exact ⟨b, hsame ▸ ha, hb⟩
        · exact hagrees k hnext hlt
      · exact ⟨by omega, hnone⟩
    · exact ⟨by omega, hnone⟩

theorem IsRepeat.end_le (h : IsRepeat s position length distance) :
    position + length ≤ s.length := by
  obtain ⟨_, _, hlast⟩ := h.agrees (length - 1) (by have := h.long; omega)
  have := (List.getElem?_eq_some_iff.1 hlast).1
  have := h.long
  omega

/-- Whether all positions that are kept are in front of a position. -/
def Knows (seen : Std.HashMap Nat Nat) (position : Nat) : Prop :=
  ∀ key j : Nat, seen[key]? = some j → j < position

theorem Knows.insert {seen : Std.HashMap Nat Nat} (h : Knows seen position) (key : Nat) :
    Knows (seen.insert key position) (position + 1) := by
  intro other j hj
  rw [Std.HashMap.getElem?_insert] at hj
  split at hj
  · cases hj
    exact Nat.lt_succ_self _
  · exact Nat.lt_succ_of_lt (h other j hj)

theorem Knows.next {seen : Std.HashMap Nat Nat} (h : Knows seen position) :
    Knows seen (position + 1) := fun key j hj => Nat.lt_succ_of_lt (h key j hj)

/-- Whether all tokens are those that are done, newest first, and others behind them that go on
from a position. -/
def Continues (s : Bytes) (done : List Token) (position : Nat) (all : List Token) : Prop :=
  ∃ more, all = done.reverse ++ more ∧ Spells s position more

theorem Continues.literal (hb : s[position]? = some b)
    (h : Continues s (.literal b :: done) (position + 1) all) : Continues s done position all := by
  obtain ⟨more, rfl, hmore⟩ := h
  exact ⟨.literal b :: more, by simp, .literal hb hmore⟩

theorem Continues.reference (hrepeat : IsRepeat s position length distance)
    (h : Continues s (.reference length distance :: done) (position + length) all) :
    Continues s done position all := by
  obtain ⟨more, rfl, hmore⟩ := h
  exact ⟨.reference length distance :: more, by simp, .reference hrepeat hmore⟩

/-- The walk over the bytes from a position on. The tokens that are done reach over those that are
still to be skipped. -/
theorem continues_go : ∀ (rest : Bytes) (seen : Std.HashMap Nat Nat) (done : List Token)
    (position skip : Nat), s.drop position = rest → Knows seen position →
      position + skip ≤ s.length →
        Continues s done (position + skip)
          (tokens.go s.toArray seen done position skip rest) := by
  intro rest
  induction rest with
  | nil =>
    intro seen done position skip hrest _ hend
    have hlength := List.drop_eq_nil_iff.1 hrest
    obtain rfl : skip = 0 := by omega
    obtain rfl : position = s.length := by omega
    exact ⟨[], (List.append_nil _).symm, .none⟩
  | cons a rest ih =>
    intro seen done position skip hrest hknows hend
    have ha : s[position]? = some a := by
      rw [← List.head?_drop, hrest]
      rfl
    have hlt := (List.getElem?_eq_some_iff.1 ha).1
    have hnext : s.drop (position + 1) = rest := by rw [← List.tail_drop, hrest]; rfl
    -- the ways on that the branches share
    have hskip : ∀ seen n, Knows seen (position + 1) → skip = n + 1 →
        Continues s done (position + skip)
          (tokens.go s.toArray seen done (position + 1) n rest) := by
      rintro seen n hseen rfl
      rw [Nat.add_comm n 1, ← Nat.add_assoc] at hend ⊢
      exact ih seen done (position + 1) n hnext hseen hend
    have hliteral : ∀ seen, Knows seen (position + 1) → Continues s done position
        (tokens.go s.toArray seen (.literal a :: done) (position + 1) 0 rest) :=
      fun seen hseen => .literal ha (ih seen _ (position + 1) 0 hnext hseen hlt)
    rw [tokens.go.eq_def]
    dsimp only
    split
    · next b c _ =>
      have hseen := hknows.insert (key a b c)
      split
      · exact hskip _ _ hseen rfl
      · split
        · next j hj =>
          split
          · next hfits =>
            obtain ⟨hbound, hagrees⟩ := agreement_spec s.toArray j position longestMatch 0
            have hj := hknows _ _ hj
            have hrepeat : IsRepeat s position
                (agreement s.toArray j position longestMatch 0) (position - j) := by
              refine ⟨⟨hfits.2, by omega⟩, ⟨by omega, hfits.1⟩, by omega, fun k hk => ?_⟩
              have hagree := hagrees k (Nat.zero_le _) hk
              rw [List.getElem?_toArray, List.getElem?_toArray] at hagree
              rwa [Nat.sub_sub_self (Nat.le_of_lt hj)]
            have hlength := hrepeat.end_le
            have hrest := ih _
              (.reference (agreement s.toArray j position longestMatch 0) (position - j) :: done)
              (position + 1) (agreement s.toArray j position longestMatch 0 - 1) hnext hseen
              (by omega)
            rw [Nat.add_assoc, Nat.add_sub_cancel' (by omega)] at hrest
            exact .reference hrepeat hrest
          · exact hliteral _ hseen
        · exact hliteral _ hseen
    · split
      · exact hskip _ _ hknows.next rfl
      · exact hliteral _ hknows.next

theorem spells_tokens (s : Bytes) : Spells s 0 (tokens s) := by
  have hknows : Knows {} 0 := by
    intro key j hj
    rw [Std.HashMap.getElem?_empty] at hj
    cases hj
  obtain ⟨more, hall, hmore⟩ := continues_go (s := s) s {} [] 0 0 rfl hknows (Nat.zero_le _)
  rw [tokens, hall]
  exact hmore

/-- What repeats is copied from where it stood before. -/
theorem copyBack_repeat {distance : Nat} (hpos : 0 < distance) :
    ∀ (length position : Nat) (out : Array UInt8), distance ≤ position →
      out.toList = s.take position →
      (∀ k < length, ∃ b, s[position - distance + k]? = some b ∧ s[position + k]? = some b) →
        (Inflate.copyBack distance length out).toList = s.take (position + length) := by
  intro length
  induction length with
  | zero => exact fun position out _ hout _ => hout
  | succ length ih =>
    intro position out hle hout hagrees
    obtain ⟨b, hback, hb⟩ := hagrees 0 (Nat.succ_pos _)
    rw [Nat.add_zero] at hback hb
    have hsize : out.size = position := by
      have hlt := (List.getElem?_eq_some_iff.1 hb).1
      rw [← Array.length_toList, hout, List.length_take]
      omega
    have hcopied : out.getD (out.size - distance) 0 = b := by
      rw [Array.getD_eq_getD_getElem?, ← Array.getElem?_toList, hout, hsize,
        List.getElem?_take_of_lt (by omega), hback]
      rfl
    have hpush : (out.push b).toList = s.take (position + 1) := by
      rw [Array.toList_push, hout, List.take_add_one, hb]
      rfl
    rw [Inflate.copyBack, hcopied, ← Nat.add_assoc, Nat.add_right_comm]
    refine ih (position + 1) (out.push b) (by omega) hpush fun k hk => ?_
    have hagree := hagrees (k + 1) (by omega)
    have hfrom : position + 1 - distance + k = position - distance + (k + 1) := by omega
    rwa [hfrom, Nat.add_assoc, Nat.add_comm 1 k]

end Matching
end Gzip
end AssetBundle
