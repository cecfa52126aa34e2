import AssetBundle.Bundle.Build
import AssetBundle.Proofs.Files.Draft

/-!
# AssetBundle.Proofs.Bundle.Underway

A tree while a bundle is written in it. At the place of the draft stands what has reached it, and
nothing else is changed (`underway_eq`). So the same files can be read as before
(`reads_underway_iff`), and a file that is not the draft holds what it held before
(`contentsOf_underway`).
-/

namespace AssetBundle

namespace Tree

theorem exists_of_isFile {t : Tree} {path : Text} (h : t.isFile path = true) :
    ∃ place contents, t.resolve .followed path = .ok (.node place (.file contents)) := by
  rw [isFile, find] at h
  split at h
  · next contents hfind =>
    split at hfind <;> cases hfind
    next place hspot => exact ⟨place, contents, hspot⟩
  · cases h

theorem isFile_of_resolve {t : Tree} {path : Text} {place : Place} {contents : Bytes}
    (h : t.resolve .followed path = .ok (.node place (.file contents))) : t.isFile path = true := by
  rw [isFile, find, h]

end Tree

namespace Bundle

variable {files : Tree} {path : Text} {contents : Bytes} {made : List (Text × Record)}

/-- The prelude is less than a chunk. -/
theorem reached_nil : reached [] = [] := by decide +kernel

/-- What is read of a path depends on what it leads to only if it is asked for and not refused. -/
theorem contentsOf_eq {files' : Tree} (hunreadable : files'.unreadable = files.unreadable)
    (hread : files.unreadable.lookup path = none → Path.check path = .ok () →
      files'.read path = files.read path) : contentsOf files' path = contentsOf files path := by
  unfold contentsOf Tree.readOrReason
  rw [hunreadable]
  cases hlookup : files.unreadable.lookup path with
  | some reason => rfl
  | none =>
    cases hcheck : Path.check path with
    | error e => rfl
    | ok => rw [hread hlookup hcheck]

/-- A file can be read if its path can be asked for and is not refused. -/
theorem reads_iff (h : files.isFile path = true) :
    (∃ contents, contentsOf files path = .ok (.ok contents)) ↔
      files.unreadable.lookup path = none ∧ Path.check path = .ok () := by
  obtain ⟨place, contents, hspot⟩ := Tree.exists_of_isFile h
  rw [contentsOf, Tree.readOrReason, Tree.read, Tree.find, hspot]
  cases files.unreadable.lookup path with
  | some reason => simp
  | none => cases Path.check path <;> simp

section

variable {draft : Text} {w place : Place} (hw : files.target draft = .ok w)

include hw

theorem underway_eq (made : List (Text × Record)) :
    underway files draft made = files.set w (.file (reached made)) := by
  rw [underway, Tree.write, hw]

/-- Opening the draft makes no difference to how it is written. -/
theorem underway_opened (s : Bytes) :
    underway (files.set w (.file s)) draft = underway files draft := by
  funext made
  rw [underway_eq hw, underway_eq (Tree.target_set hw s), Tree.set_set]

variable (hspot : files.resolve .followed path = .ok (.node place (.file contents)))

include hspot

/-- What a path leads to while the draft is written: what has reached it, if it leads to it. -/
theorem resolve_underway : (underway files draft made).resolve .followed path =
    .ok (.node place (.file (if place = w then reached made else contents))) := by
  have hloose := (Tree.target_eq_ok hw).2
  rw [underway_eq hw]
  split
  · next hplace =>
    subst hplace
    refine Tree.resolve_set hloose _ ?_
    rw [hspot, Tree.spotAt, Tree.at?_of_resolve hspot (by simp)]
  · next hplace => exact Tree.resolve_set_of_ne hloose _ hspot hplace

theorem reads_underway_iff :
    (∃ found, contentsOf (underway files draft made) path = .ok (.ok found)) ↔
      ∃ found, contentsOf files path = .ok (.ok found) := by
  rw [reads_iff (Tree.isFile_of_resolve hspot),
    reads_iff (Tree.isFile_of_resolve (resolve_underway hw hspot)), underway_eq hw]
  rfl

/-- A file that is not the draft gives what it gave before, and so does one that cannot be read. -/
theorem contentsOf_underway
    (hplace : contentsOf files path = .ok (.ok contents) → place ≠ w) :
    contentsOf (underway files draft made) path = contentsOf files path := by
  have hread : files.read path = .ok contents := by rw [Tree.read, Tree.find, hspot]
  refine contentsOf_eq (by rw [underway_eq hw]; rfl) fun hlookup hcheck => ?_
  have hcontents : contentsOf files path = .ok (.ok contents) := by
    rw [contentsOf, Tree.readOrReason, hlookup, hcheck, hread]
  rw [Tree.read, Tree.find, resolve_underway hw hspot, if_neg (hplace hcontents), hread]

end

end Bundle
end AssetBundle
