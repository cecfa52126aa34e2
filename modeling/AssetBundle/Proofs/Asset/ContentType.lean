import AssetBundle.Asset.ContentType
import AssetBundle.Proofs.Cutting
import AssetBundle.Proofs.Text.Case

/-!
# AssetBundle.Proofs.Asset.ContentType

Which names are admitted. An extension is looked up in lower case by the rules for all letters, but
no letter outside ASCII becomes one of an admitted extension, so a name is admitted exactly if it
ends in one but for the case of ASCII letters, behind its last dot and a stem
(`isSome_ofName?_iff`).
-/

namespace AssetBundle
namespace ContentType

variable {name stem extension : Text}

def dot : CodePoint := CodePoint.ofChar '.'

/-- Whether a name is a stem, its last dot and the letters of an admitted extension. -/
def IsAdmitted (name : Text) : Prop :=
  ∃ stem letters, name = stem ++ dot :: letters ∧ stem ≠ [] ∧ dot ∉ letters ∧
    ∃ entry ∈ admitted, Text.isWord entry.1 (dot :: letters) = true

theorem extension?_eq_some_iff : extension? name = some (stem, extension) ↔
    ∃ letters, extension = dot :: letters ∧ name = stem ++ dot :: letters ∧ stem ≠ [] ∧
      dot ∉ letters := by
  constructor
  · intro h
    rw [extension?] at h
    split at h <;> cases h
    next letters hstem hcut =>
      obtain ⟨hname, hlast⟩ := Sequence.cutAtLast?_eq_some_iff.1 hcut
      exact ⟨letters, rfl, hname, hstem, hlast⟩
  · rintro ⟨letters, rfl, hname, hstem, hlast⟩
    rw [extension?, ← dot, Sequence.cutAtLast?_eq_some_iff.2 ⟨hname, hlast⟩]
    cases stem with
    | nil => exact absurd rfl hstem
    | cons c stem => rfl

/-- An admitted name has a letter in front of its last dot. -/
theorem two_le_length {contentType : Text} (h : ofName? name = some contentType) :
    2 ≤ name.length := by
  rw [ofName?] at h
  split at h
  · cases h
  next stem extension hextension =>
    obtain ⟨letters, _, rfl, hstem, _⟩ := extension?_eq_some_iff.1 hextension
    have hlength := List.length_pos_iff.2 hstem
    rw [List.length_append, List.length_cons]
    omega

/-- No admitted extension has a letter that another one than those of ASCII is folded to. -/
theorem plain_of_mem_admitted {entry : Text × Text} (h : entry ∈ admitted) :
    (entry.1.all fun d => d.val < 128 && d.val ≠ 107) = true := by
  have hall : (admitted.all fun entry => entry.1.all fun d => d.val < 128 && d.val ≠ 107) = true :=
    rfl
  exact List.all_eq_true.1 hall entry h

theorem isSome_lookup_iff : (admitted.lookup (Text.lower extension)).isSome = true ↔
    ∃ entry ∈ admitted, Text.isWord entry.1 extension = true := by
  rw [List.lookup_isSome_iff]
  constructor
  · rintro ⟨entry, hentry, hlower⟩
    exact ⟨entry, hentry,
      (Text.lower_eq_word_iff (plain_of_mem_admitted hentry)).1 (eq_of_beq hlower)⟩
  · rintro ⟨entry, hentry, hword⟩
    exact ⟨entry, hentry,
      beq_iff_eq.2 ((Text.lower_eq_word_iff (plain_of_mem_admitted hentry)).2 hword)⟩

theorem isSome_ofName?_iff : (ofName? name).isSome = true ↔ IsAdmitted name := by
  rw [ofName?]
  cases hcut : extension? name with
  | none =>
    refine iff_of_false (by simp) ?_
    rintro ⟨stem, letters, hname, hstem, hlast, _⟩
    cases hcut.symm.trans (extension?_eq_some_iff.2 ⟨letters, rfl, hname, hstem, hlast⟩)
  | some cut =>
    obtain ⟨stem, extension⟩ := cut
    obtain ⟨letters, rfl, hname, hstem, hlast⟩ := extension?_eq_some_iff.1 hcut
    dsimp only
    rw [isSome_lookup_iff]
    constructor
    · exact fun hentry => ⟨stem, letters, hname, hstem, hlast, hentry⟩
    · rintro ⟨stem', letters', hname', hstem', hlast', hentry⟩
      cases hcut.symm.trans (extension?_eq_some_iff.2 ⟨letters', rfl, hname', hstem', hlast'⟩)
      exact hentry

end ContentType
end AssetBundle
