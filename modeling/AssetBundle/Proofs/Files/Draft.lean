import AssetBundle.Bundle.Build
import AssetBundle.Proofs.Files.Walking

/-!
# AssetBundle.Proofs.Files.Draft

A file that is written under a draft name and moved onto its path. The draft of a path is another
entry than the path itself (`draft_ne_entry`). What is written to it stands where it was opened
(`target_set`), and unless its name is a link it can be removed again (`remove_set`). What is moved
stands in its new place, and nothing in the old one (`rename_eq`).
-/

namespace AssetBundle

namespace Path

/-- Nothing, or a part of a path that ends in a slash. -/
def EndsStep (above : Text) : Prop := above = [] ∨ ∃ front, above = front ++ [slash]

theorem steps_append {above : Text} (h : EndsStep above) (rest : Text) :
    steps (above ++ rest) = steps above ++ steps rest := by
  rcases h with rfl | ⟨front, rfl⟩
  · rfl
  · have hsplit : ∀ right, steps (front ++ slash :: right) = steps front ++ steps right := by
      intro right
      rw [steps, Sequence.splitOn_append_cons, List.filter_append]
      rfl
    rw [List.append_assoc, List.singleton_append, hsplit, hsplit]
    simp [steps, Sequence.splitOn_singleton_self]

theorem steps_name {name : Text} (h : slash ∉ name) (hne : name ≠ []) : steps name = [name] := by
  rw [steps, Sequence.splitOn_singleton_self h]
  simp [hne]

/-- A path is a name behind nothing or behind a slash. -/
theorem exists_name (path : Text) :
    ∃ above name, path = above ++ name ∧ EndsStep above ∧ slash ∉ name := by
  by_cases h : slash ∈ path
  · obtain ⟨name, front, hpath, hname⟩ := List.eq_append_cons_of_mem (List.mem_reverse.2 h)
    refine ⟨front.reverse ++ [slash], name.reverse, ?_, .inr ⟨_, rfl⟩, by simpa using hname⟩
    simpa using congrArg List.reverse hpath
  · exact ⟨[], path, rfl, .inl rfl, h⟩

theorem asksDirectory_name (above : Text) {name : Text} (hname : slash ∉ name) (hne : name ≠ []) :
    asksDirectory (above ++ name) = false := by
  rw [asksDirectory, List.getLast?_append, Option.or_of_isSome (by simpa using hne)]
  exact decide_eq_false fun h => hname (List.mem_of_getLast? h)

/-- A path that ends in a name ends in a step of that name. -/
theorem route_name {above name : Text} (habove : EndsStep above) (hname : slash ∉ name)
    (hne : name ≠ []) : route (above ++ name) = steps above ++ [name] := by
  rw [route, asksDirectory_name _ hname hne, steps_append habove, steps_name hname hne]
  simp

/-- A path that ends in no name has no step, or ends in an empty one. -/
theorem getLast?_route_above {above : Text} (h : EndsStep above) :
    (route above).getLast? = none ∨ (route above).getLast? = some [] := by
  rcases h with rfl | ⟨front, rfl⟩
  · exact .inl rfl
  · right
    have hend : asksDirectory (front ++ [slash]) = true := by simp [asksDirectory]
    rw [route, hend]
    simp

end Path

namespace Tree

/-- A path that does not ask for a directory has no slashes at its end. -/
theorem withoutEnd_eq {path : Text} (h : Path.asksDirectory path = false) :
    withoutEnd path = path := by
  refine Sequence.trimRight_eq_self fun c hc => ?_
  rw [Path.asksDirectory, hc] at h
  simpa using h

end Tree

namespace Bundle

def draftEnd : Text := ".tmp"

theorem draftEnd_ne_nil : draftEnd ≠ [] := by decide

theorem draftPath_append (above name : Text) :
    draftPath (above ++ name) = above ++ (name ++ draftEnd) := List.append_assoc ..

theorem asksDirectory_draft (path : Text) : Path.asksDirectory (draftPath path) = false :=
  Path.asksDirectory_name path (show Path.slash ∉ draftEnd by decide) draftEnd_ne_nil

/-- The last step of the path of a draft is not that of its path. -/
theorem getLast?_draft_ne (path : Text) :
    (Path.route (draftPath path)).getLast? ≠ (Path.route path).getLast? := by
  obtain ⟨above, name, rfl, habove, hname⟩ := Path.exists_name path
  have hdraftName : Path.slash ∉ name ++ draftEnd := by
    rw [List.mem_append, not_or]
    exact ⟨hname, by decide⟩
  rw [draftPath_append, Path.route_name habove hdraftName (by simp [draftEnd_ne_nil]),
    List.getLast?_concat]
  by_cases hne : name = []
  · subst hne
    rw [List.append_nil]
    rcases Path.getLast?_route_above habove with h | h <;> rw [h] <;> decide
  · rw [Path.route_name habove hname hne, List.getLast?_concat]
    simp [draftEnd_ne_nil]

end Bundle

namespace Tree

variable {t t' : Tree} {path : Text} {w : Place}

/-- The entries that a path and its draft name are different. -/
theorem draft_ne_entry {draft entry : Spot}
    (hdraft : t.resolve .itself (Bundle.draftPath path) = .ok draft) (hd : draft.IsEntry)
    (hentry : t'.resolve .itself path = .ok entry) (he : entry.IsEntry) :
    entry.place ≠ draft.place := by
  obtain ⟨above, step, hplace, hlast⟩ := namedBy_of_resolve hdraft hd
  obtain ⟨above', step', hplace', hlast'⟩ := namedBy_of_resolve hentry he
  intro h
  rw [hplace, hplace'] at h
  have hstep : step' = step := by simpa using (List.append_inj' h rfl).2
  exact Bundle.getLast?_draft_ne path (by rw [hlast, hlast', hstep])

theorem sameOff_set (hw : t.isOnWay w = false) (node : Node) : SameOff t (t.set w node) w :=
  ⟨rfl, fun other hother => by rw [at?_set hw, if_neg hother]⟩

theorem isLoose_set (hw : t.isOnWay w = false) (s : Bytes) : (t.set w (.file s)).IsLoose w := by
  intro node h
  rw [at?_set hw, if_pos rfl, Option.some.injEq] at h
  exact ⟨s, h.symm⟩

theorem spotAt_set (hw : t.isOnWay w = false) (node : Node) :
    (t.set w node).spotAt w = .node w node := by
  rw [spotAt, at?_set hw, if_pos rfl]

theorem isLoose_erase (hw : t.isOnWay w = false) : (t.erase w).IsLoose w := by
  intro node h
  rw [at?_erase hw, if_pos rfl] at h
  cases h

/-- Where a path is written nothing or a file stands. -/
theorem target_eq_ok (h : t.target path = .ok w) :
    t.resolve .written path = .ok (t.spotAt w) ∧ t.IsLoose w := by
  have hloose : ∀ spot, t.resolve .written path = .ok spot → spot.IsEntry →
      spot = t.spotAt spot.place ∧ t.IsLoose spot.place := by
    intro spot hspot hentry
    obtain ⟨hat, hdirectory, hlink⟩ := isEnd_of_resolve hspot hentry
    refine ⟨hat, fun node hnode => ?_⟩
    cases node with
    | file s => exact ⟨s, rfl⟩
    | directory => exact absurd hnode hdirectory
    | link target => exact absurd (hlink target hnode) (by decide)
  rw [target] at h
  split at h
  · cases h
  · cases h
  · next place node hdirectory hspot =>
    cases h
    obtain ⟨hat, hloose⟩ := hloose _ hspot (by intro above heq; cases heq; contradiction)
    rw [hspot]
    exact ⟨congrArg _ hat, hloose⟩
  · next hspot =>
    cases h
    obtain ⟨hat, hloose⟩ := hloose _ hspot (by intro above heq; cases heq)
    rw [hspot]
    exact ⟨congrArg _ hat, hloose⟩

theorem eq_ok_of_toOption {ε α : Type} {x : Except ε α} {a : α} (h : x.toOption = some a) :
    x = .ok a := by
  cases x with
  | error e => cases h
  | ok b => rw [Option.some.inj h]

theorem renewed_of_ne {spot : Spot} (h : spot.IsEntry → spot.place ≠ w) :
    spot.renewed t' w = spot := by
  unfold Spot.renewed
  split
  · rfl
  · next hentry => exact if_neg (h fun place heq => hentry place heq)

/-- A path that ends elsewhere leads to the same spot after a change at a loose place. -/
theorem resolve_of_ne {ending : Ending} (hoff : SameOff t t' w) (ht : t.IsLoose w)
    (ht' : t'.IsLoose w)
    (hne : ∀ spot, t.resolve ending path = .ok spot → spot.IsEntry → spot.place ≠ w) :
    (t'.resolve ending path).toOption = (t.resolve ending path).toOption := by
  rw [resolve_update ending hoff ht ht']
  cases hspot : t.resolve ending path with
  | error e => rfl
  | ok spot => exact congrArg some (renewed_of_ne (hne spot hspot))

theorem isEntry_of_loose (h : t.IsLoose w) : (t.spotAt w).IsEntry := by
  rcases spotAt_of_loose h with ⟨_, hspot⟩ | ⟨_, _, hspot⟩ <;> rw [hspot] <;>
    exact fun _ heq => by cases heq

/-- A path that leads to a loose place leads to what is set there. -/
theorem resolve_set {ending : Ending} (hw : t.IsLoose w) (s : Bytes)
    (h : t.resolve ending path = .ok (t.spotAt w)) :
    (t.set w (.file s)).resolve ending path = .ok (.node w (.file s)) := by
  apply eq_ok_of_toOption
  rw [resolve_update _ (sameOff_set hw.not_isOnWay _) hw (isLoose_set hw.not_isOnWay s), h]
  rcases spotAt_of_loose hw with ⟨_, hspot⟩ | ⟨_, _, hspot⟩ <;>
    simp [hspot, Except.toOption, Spot.renewed, Spot.place, spotAt_set hw.not_isOnWay]

/-- A path that leads elsewhere leads there still. -/
theorem resolve_set_of_ne {ending : Ending} {spot : Spot} (hw : t.IsLoose w) (s : Bytes)
    (h : t.resolve ending path = .ok spot) (hne : spot.place ≠ w) :
    (t.set w (.file s)).resolve ending path = .ok spot := by
  apply eq_ok_of_toOption
  rw [resolve_of_ne (sameOff_set hw.not_isOnWay _) hw (isLoose_set hw.not_isOnWay s), h]
  · rfl
  · intro other hother _
    cases h.symm.trans hother
    exact hne

/-- What is written again is written to the same place. -/
theorem target_set (h : t.target path = .ok w) (s : Bytes) :
    (t.set w (.file s)).target path = .ok w := by
  obtain ⟨hspot, hloose⟩ := target_eq_ok h
  rw [target, resolve_set hloose s hspot]

/-- A path whose last step is no link names what is written to it. -/
theorem resolve_itself_of_target (h : t.target path = .ok w)
    (hplain : ∀ place target, t.resolve .itself path ≠ .ok (.node place (.link target))) :
    t.resolve .itself path = .ok (t.spotAt w) := by
  rcases resolve_itself (by decide) (target_eq_ok h).1 with h | ⟨place, target, h⟩
  · exact h
  · exact absurd h (hplain place target)

/-- A draft whose name is no link is removed again. -/
theorem remove_set (h : t.target path = .ok w) (hend : Path.asksDirectory path = false)
    (hplain : ∀ place target, t.resolve .itself path ≠ .ok (.node place (.link target)))
    (s : Bytes) : (t.set w (.file s)).remove path = .ok ((t.set w (.file s)).erase w) := by
  have hitself := resolve_itself_of_target h hplain
  rw [remove, withoutEnd_eq hend, resolve_set (target_eq_ok h).2 s hitself, hend]
  rfl

/-- What is moved is an entry of the one path, and then it is the entry of the other. -/
theorem rename_eq {source : Text} (h : t.rename source path = .ok t') :
    ∃ origin node spot, t.resolve .itself source = .ok (.node origin node) ∧
      t.resolve .itself path = .ok spot ∧ spot.IsEntry ∧
      t' = if spot.place = origin then t else (t.erase origin).set spot.place node := by
  rw [rename] at h
  split at h
  · cases h
  · cases h
  next origin node hsource =>
    split at h
    · cases h
    split at h
    · cases h
    split at h
    · split at h <;> cases h
    split at h
    · cases h
    next spot hspot =>
      split at h
      · cases h
      next hend =>
        have hend : Path.asksDirectory path = false := by simpa using hend
        rw [withoutEnd_eq hend] at hspot
        have hmoved : ∀ {place}, spot.place = place →
            (if place = origin then Except.ok t else .ok ((t.erase origin).set place node)) =
              (Except.ok t' : Except Errno Tree) →
            t' = if spot.place = origin then t else (t.erase origin).set spot.place node := by
          rintro place rfl hplace
          split at hplace <;> cases hplace <;> simp [*]
        split at h
        · cases h
        · exact ⟨origin, node, _, hsource, hspot, fun above heq => by cases heq; contradiction,
            hmoved rfl h⟩
        · exact ⟨origin, node, _, hsource, hspot, (fun above heq => by cases heq), hmoved rfl h⟩

theorem not_isOnWay_of_resolve {ending : Ending} {entry : Spot}
    (h : t.resolve ending path = .ok entry) (hentry : entry.IsEntry) :
    t.isOnWay entry.place = false :=
  not_isOnWay (isEnd_of_resolve h hentry).2.1

theorem place_renewed (spot : Spot) : (spot.renewed t' w).place = spot.place := by
  unfold Spot.renewed
  split
  · rfl
  · split
    · next h => rw [place_spotAt, h]
    · rfl

/-- A path leads to the same place after a file was written. -/
theorem place_resolve_set {ending : Ending} {spot : Spot} (hw : t.IsLoose w) (s : Bytes)
    (h : t.resolve ending path = .ok spot) :
    ∃ spot', (t.set w (.file s)).resolve ending path = .ok spot' ∧ spot'.place = spot.place := by
  refine ⟨spot.renewed (t.set w (.file s)) w, eq_ok_of_toOption ?_, place_renewed spot⟩
  rw [resolve_update _ (sameOff_set hw.not_isOnWay _) hw (isLoose_set hw.not_isOnWay s), h]
  rfl

theorem at?_of_resolve {ending : Ending} {place : Place} {node : Node}
    (h : t.resolve ending path = .ok (.node place node)) (hnode : node ≠ .directory) :
    t.at? place = some node := by
  have hentry : (Spot.node place node).IsEntry := by
    rintro above heq
    cases heq
    exact hnode rfl
  have hspot := (isEnd_of_resolve h hentry).1
  rw [Spot.place, spotAt] at hspot
  split at hspot
  · next hat =>
    cases hspot
    exact hat
  · cases hspot

theorem at?_set_erase (hw : t.isOnWay w = false) (node : Node) (place : Place) :
    ((t.set w node).erase w).at? place = if place = w then none else t.at? place := by
  rw [at?_erase (t := t.set w node) hw]
  split
  · rfl
  · next hother => rw [at?_set hw, if_neg hother]

theorem sameOff_set_erase (hw : t.isOnWay w = false) (node : Node) :
    SameOff t ((t.set w node).erase w) w :=
  ⟨rfl, fun other hother => by rw [at?_set_erase hw, if_neg hother]⟩

section

variable {s : Bytes} (hw : t.target (Bundle.draftPath path) = .ok w)
  (hdraft : ∀ place target,
    t.resolve .itself (Bundle.draftPath path) ≠ .ok (.node place (.link target)))

include hw hdraft

/-- A path does not name what is written to its draft, if the draft is no link. -/
theorem place_ne_draft {entry : Spot} (hentry : t'.resolve .itself path = .ok entry)
    (he : entry.IsEntry) : entry.place ≠ w := by
  have hdiffers := draft_ne_entry (resolve_itself_of_target hw hdraft)
    (isEntry_of_loose (target_eq_ok hw).2) hentry he
  rwa [place_spotAt] at hdiffers

/-- Writing a draft leaves what its path names as it was. -/
theorem resolve_set_draft :
    ((t.set w (.file s)).resolve .itself path).toOption = (t.resolve .itself path).toOption := by
  have hloose := (target_eq_ok hw).2
  exact resolve_of_ne (sameOff_set hloose.not_isOnWay _) hloose (isLoose_set hloose.not_isOnWay s)
    fun _ => place_ne_draft hw hdraft

/-- A draft that was written and removed leaves what its path names as it was. -/
theorem resolve_erase_draft :
    (((t.set w (.file s)).erase w).resolve .itself path).toOption =
      (t.resolve .itself path).toOption := by
  have hloose := (target_eq_ok hw).2
  exact resolve_of_ne (sameOff_set_erase hloose.not_isOnWay _) hloose
    (isLoose_erase (t := t.set w (.file s)) hloose.not_isOnWay) fun _ => place_ne_draft hw hdraft

end

/-- Whether a file that is written under its draft and moved onto its path is written there. -/
def IsWritten (t : Tree) (path : Text) (place : Place) : Prop :=
  t.target (Bundle.draftPath path) = .ok place ∨
    ∃ spot, t.resolve .itself path = .ok spot ∧ spot.place = place

/-- What is moved is the file that was written, or a link that was followed to it. -/
theorem origin_of_draft {s : Bytes} {origin : Place} {node : Node}
    (hw : t.target path = .ok w)
    (h : (t.set w (.file s)).resolve .itself path = .ok (.node origin node)) :
    (origin = w ∧ node = .file s) ∨
      ∃ target, node = .link target ∧ (t.set w (.file s)).at? origin = some (.link target) := by
  obtain ⟨hspot, hloose⟩ := target_eq_ok hw
  rcases resolve_itself (by decide) (resolve_set hloose s hspot) with hfile | ⟨_, target, hlink⟩
  · rw [h] at hfile
    cases hfile
    exact .inl ⟨rfl, rfl⟩
  · rw [h] at hlink
    cases hlink
    exact .inr ⟨target, rfl, at?_of_resolve h (by simp)⟩

/-- The places that are written are that of the draft and that of the path. -/
theorem place_of_isWritten {s : Bytes} {place : Place} {entry : Spot}
    (hw : t.target (Bundle.draftPath path) = .ok w)
    (hentry : (t.set w (.file s)).resolve .itself path = .ok entry)
    (h : t.IsWritten path place) : place = w ∨ place = entry.place := by
  rcases h with hplace | ⟨spot, hspot, rfl⟩
  · rw [hw] at hplace
    exact .inl (Except.ok.inj hplace).symm
  · obtain ⟨spot', hspot', heq⟩ := place_resolve_set (target_eq_ok hw).2 s hspot
    rw [hentry] at hspot'
    cases hspot'
    exact .inr heq.symm

/-- Only what was written to the draft stands in the places that were written, if it is a file. A
link that was followed to the draft may have been moved instead. -/
theorem file_of_rename {s contents : Bytes} {place : Place}
    (hw : t.target (Bundle.draftPath path) = .ok w)
    (h : (t.set w (.file s)).rename (Bundle.draftPath path) path = .ok t')
    (hplace : t.IsWritten path place) (hfile : t'.at? place = some (.file contents)) :
    contents = s := by
  have hway := (target_eq_ok hw).2.not_isOnWay
  obtain ⟨origin, node, entry, horigin, hentry, hentry', ht'⟩ := rename_eq h
  have hmoved := origin_of_draft hw horigin
  have hcases := place_of_isWritten hw hentry hplace
  have hdraftFile : (t.set w (.file s)).at? w = some (.file contents) → contents = s := by
    rw [at?_set hway, if_pos rfl]
    intro h
    cases h
    rfl
  rw [ht'] at hfile
  split at hfile
  -- the path names what was to be moved, and nothing was moved
  · next hsame =>
    rcases hcases with rfl | rfl
    · exact hdraftFile hfile
    rcases hmoved with ⟨rfl, _⟩ | ⟨target, _, hlink⟩
    · exact hdraftFile (hsame ▸ hfile)
    · rw [hsame, hlink] at hfile
      cases hfile
  · have hentryWay : ((t.set w (.file s)).erase origin).isOnWay entry.place = false :=
      not_isOnWay_of_resolve (t := t.set w (.file s)) hentry hentry'
    rw [at?_set hentryWay] at hfile
    split at hfile
    · cases hfile
      rcases hmoved with ⟨_, hnode⟩ | ⟨target, hnode, _⟩ <;> cases hnode
      rfl
    · next hother =>
      obtain rfl := hcases.resolve_right hother
      have horiginWay : (t.set place (.file s)).isOnWay origin = false := by
        rcases hmoved with ⟨rfl, _⟩ | ⟨target, _, hlink⟩
        · exact hway
        · exact not_isOnWay (by rw [hlink]; nofun)
      rw [at?_erase horiginWay] at hfile
      split at hfile
      · cases hfile
      · exact hdraftFile hfile

/-- A path that is no link and names an entry names a loose one. -/
theorem isLoose_of_resolve {entry : Spot} (h : t.resolve .itself path = .ok entry)
    (hentry : entry.IsEntry)
    (hplain : ∀ place target, t.resolve .itself path ≠ .ok (.node place (.link target))) :
    t.IsLoose entry.place := by
  obtain ⟨hspot, hdirectory, _⟩ := isEnd_of_resolve h hentry
  intro node hat
  cases node with
  | file s => exact ⟨s, rfl⟩
  | directory => exact absurd hat hdirectory
  | link target =>
    rw [spotAt, hat] at hspot
    exact absurd (hspot ▸ h) (hplain _ _)

/-- A draft that is no link is moved to where the entry of its path stands. -/
theorem moved_of_rename {s : Bytes} (hw : t.target (Bundle.draftPath path) = .ok w)
    (hdraft : ∀ place target,
      t.resolve .itself (Bundle.draftPath path) ≠ .ok (.node place (.link target)))
    (h : (t.set w (.file s)).rename (Bundle.draftPath path) path = .ok t') :
    ∃ entry, t.resolve .itself path = .ok entry ∧ entry.IsEntry ∧ entry.place ≠ w ∧
      t' = ((t.set w (.file s)).erase w).set entry.place (.file s) := by
  obtain ⟨origin, node, entry, horigin, hentry, hentry', ht'⟩ := rename_eq h
  rw [resolve_set (target_eq_ok hw).2 s (resolve_itself_of_target hw hdraft)] at horigin
  cases horigin
  have hbefore : t.resolve .itself path = .ok entry := by
    apply eq_ok_of_toOption
    rw [← resolve_set_draft hw hdraft, hentry]
    rfl
  have hdiffers : entry.place ≠ w := place_ne_draft hw hdraft hbefore hentry'
  rw [if_neg hdiffers] at ht'
  exact ⟨entry, hbefore, hentry', hdiffers, ht'⟩

/-- If neither a path nor its draft is a link, the path leads to what was written, and so does any
path that names the same entry. -/
theorem resolve_of_rename {s : Bytes} {other : Text}
    (hw : t.target (Bundle.draftPath path) = .ok w)
    (hdraft : ∀ place target,
      t.resolve .itself (Bundle.draftPath path) ≠ .ok (.node place (.link target)))
    (hplain : ∀ place target, t.resolve .itself path ≠ .ok (.node place (.link target)))
    (hsame : ∀ spot, t.resolve .itself path = .ok spot → t.resolve .itself other = .ok spot)
    (h : (t.set w (.file s)).rename (Bundle.draftPath path) path = .ok t') :
    ∃ place, t'.resolve .followed other = .ok (.node place (.file s)) ∧ t.IsWritten path place := by
  have hloose := (target_eq_ok hw).2
  obtain ⟨entry, hbefore, hentry', hdiffers, ht'⟩ := moved_of_rename hw hdraft h
  -- what is left when the draft is gone
  let left := (t.set w (.file s)).erase w
  have hoff : SameOff t left w := sameOff_set_erase hloose.not_isOnWay _
  have hleft : left.resolve .itself other = .ok (left.spotAt entry.place) := by
    apply eq_ok_of_toOption
    rw [resolve_of_ne hoff hloose (isLoose_erase (t := t.set w (.file s)) hloose.not_isOnWay),
      hsame entry hbefore, spotAt, hoff.at? _ hdiffers, ← spotAt,
      ← (isEnd_of_resolve hbefore hentry').1]
    · rfl
    · intro spot hspot _
      rw [hsame entry hbefore] at hspot
      cases hspot
      exact hdiffers
  have hleftLoose : left.IsLoose entry.place := fun node hnode =>
    isLoose_of_resolve hbefore hentry' hplain node (hoff.at? _ hdiffers ▸ hnode)
  refine ⟨entry.place, ?_, .inr ⟨entry, hbefore, rfl⟩⟩
  rw [ht']
  exact resolve_followed (resolve_set hleftLoose s hleft) (by simp)

end Tree
end AssetBundle
