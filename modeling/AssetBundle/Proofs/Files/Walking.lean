import AssetBundle.Files.Tree
import AssetBundle.Proofs.Cutting

/-!
# AssetBundle.Proofs.Files.Walking

What a change at one place does to the paths of a tree. A place is loose when nothing or a file
stands there: no path goes on behind it. So a change at a loose place changes no path but those
that end there (`resolve_update`), whatever links are on the way.

* `isEnd_of_resolve`: a resolved path tells what stands at the place it leads to.
* `resolve_itself`: a path that can be followed leads to the same spot when its last link is not
  followed, or else to that link.
* `namedBy_of_resolve`: an entry has the name of the last step of the path that names it.
-/

namespace AssetBundle
namespace Tree

theorem at?_of_not_isOnWay {t : Tree} {place : Place} (h : t.isOnWay place = false) :
    t.at? place = t.nodes.lookup place := by
  rw [at?, h]
  rfl

theorem lookup_erase_self (t : Tree) (place : Place) :
    (t.erase place).nodes.lookup place = none := by
  rw [List.lookup_eq_none_iff]
  intro entry hentry
  have hne : entry.1 ≠ place := by simpa using (List.mem_filter.1 hentry).2
  simpa using fun h : place = entry.1 => hne h.symm

theorem lookup_erase_ne {place other : Place} (h : other ≠ place) (t : Tree) :
    (t.erase place).nodes.lookup other = t.nodes.lookup other := by
  obtain ⟨nodes, _, _⟩ := t
  show (nodes.filter fun entry => entry.1 ≠ place).lookup other = nodes.lookup other
  induction nodes with
  | nil => rfl
  | cons entry nodes ih =>
    by_cases hentry : entry.1 = place
    · have hother : (other == entry.1) = false := by simpa [hentry] using h
      rw [List.filter_cons_of_neg (by simpa using hentry), ih, List.lookup_cons, hother]
    · rw [List.filter_cons_of_pos (by simpa using hentry), List.lookup_cons, List.lookup_cons, ih]

theorem at?_erase {t : Tree} {place : Place} (hplace : t.isOnWay place = false) (other : Place) :
    (t.erase place).at? other = if other = place then none else t.at? other := by
  by_cases hother : other = place
  · subst hother
    rw [if_pos rfl, at?_of_not_isOnWay (t := t.erase other) hplace, lookup_erase_self]
  · rw [if_neg hother, at?, at?, lookup_erase_ne hother]
    rfl

/-- What stands at a place after something was set there, and elsewhere. -/
theorem at?_set {t : Tree} {place : Place} (hplace : t.isOnWay place = false) (node : Node)
    (other : Place) :
    (t.set place node).at? other = if other = place then some node else t.at? other := by
  have hnodes : (t.set place node).nodes.lookup other =
      ((t.erase place).nodes.lookup other).or ([(place, node)].lookup other) := List.lookup_append
  by_cases hother : other = place
  · subst hother
    rw [if_pos rfl, at?_of_not_isOnWay (t := t.set other node) hplace, hnodes, lookup_erase_self]
    simp
  · have hlast : [(place, node)].lookup other = none := by simpa using hother
    rw [if_neg hother, at?, at?, hnodes, hlast, lookup_erase_ne hother, Option.or_none]
    rfl

/-- What was set last stands there. -/
theorem set_set (t : Tree) (place : Place) (first last : Node) :
    (t.set place first).set place last = t.set place last := by
  simp [set, erase, List.filter_append]

/-- Nothing or a file stands there. -/
def IsLoose (t : Tree) (place : Place) : Prop :=
  ∀ node, t.at? place = some node → ∃ s, node = .file s

/-- The same stands everywhere else, and paths start from the same directory. -/
structure SameOff (t t' : Tree) (place : Place) : Prop where
  home : t'.home = t.home
  at? : ∀ other, other ≠ place → t'.at? other = t.at? other

def Spot.place : Spot → Place
  | .node place _ => place
  | .free place => place

/-- What stands at a place, as a spot. -/
def spotAt (t : Tree) (place : Place) : Spot :=
  match t.at? place with
  | some node => .node place node
  | none => .free place

/-- Whether a spot is no directory. -/
def Spot.IsEntry (spot : Spot) : Prop := ∀ place, spot ≠ .node place .directory

/-- A spot after a change at a place. -/
def Spot.renewed (t' : Tree) (place : Place) (spot : Spot) : Spot :=
  match spot with
  | .node above .directory => .node above .directory
  | spot => if spot.place = place then t'.spotAt place else spot

theorem at?_of_isOnWay {t : Tree} {place : Place} (h : t.isOnWay place = true) :
    t.at? place = some .directory := by
  rw [at?, if_pos h]

/-- A place where no directory stands is not on the way to the current directory. -/
theorem not_isOnWay {t : Tree} {place : Place} (h : t.at? place ≠ some .directory) :
    t.isOnWay place = false :=
  Bool.eq_false_iff.2 fun hway => h (at?_of_isOnWay hway)

theorem IsLoose.not_isOnWay {t : Tree} {place : Place} (h : t.IsLoose place) :
    t.isOnWay place = false := by
  refine Tree.not_isOnWay fun hat => ?_
  obtain ⟨s, hs⟩ := h .directory hat
  cases hs

theorem spotAt_of_loose {t : Tree} {place : Place} (h : t.IsLoose place) :
    (t.at? place = none ∧ t.spotAt place = .free place) ∨
      ∃ s, t.at? place = some (.file s) ∧ t.spotAt place = .node place (.file s) := by
  unfold spotAt
  cases hat : t.at? place with
  | none => exact .inl ⟨rfl, rfl⟩
  | some node =>
    obtain ⟨s, rfl⟩ := h node hat
    exact .inr ⟨s, rfl, rfl⟩

theorem place_spotAt (t : Tree) (place : Place) : (t.spotAt place).place = place := by
  unfold spotAt
  split <;> rfl

section

variable {t t' : Tree} {w : Place} {ending : Ending}

theorem walkSteps_update (hoff : SameOff t t' w) (ht : IsLoose t w) (ht' : IsLoose t' w)
    {follow follow' : Place → Text → List Text → Except Errno Spot}
    (hfollow : ∀ here target rest, (follow' here target rest).toOption =
      (follow here target rest).toOption.map (Spot.renewed t' w)) :
    ∀ (steps : List Text) (here : Place), (walkSteps t' ending follow' here steps).toOption =
      (walkSteps t ending follow here steps).toOption.map (Spot.renewed t' w) := by
  intro steps
  induction steps with
  | nil => intro here; rfl
  | cons step rest ih =>
    intro here
    rw [walkSteps, walkSteps]
    split
    · exact ih here
    split
    · exact ih here.dropLast
    split
    · rfl
    split
    · rfl
    by_cases hw : here ++ [step] = w
    · -- at the changed place the walk ends, on either tree
      rcases spotAt_of_loose ht with ⟨hat, _⟩ | ⟨s, hat, _⟩ <;>
        rcases spotAt_of_loose ht' with ⟨hat', hspot'⟩ | ⟨s', hat', hspot'⟩ <;>
          cases rest <;>
            simp [hw, hat, hat', Except.toOption, Spot.renewed, Spot.place, hspot']
    · have hat : t'.at? (here ++ [step]) = t.at? (here ++ [step]) := hoff.at? _ hw
      simp only [hat]
      split
      · split <;> simp [Except.toOption, Spot.renewed, Spot.place, hw]
      · exact ih _
      · split <;> simp [Except.toOption, Spot.renewed, Spot.place, hw]
      · split
        · simp [Except.toOption, Spot.renewed, Spot.place, hw]
        · exact hfollow _ _ _

theorem walk_update (hoff : SameOff t t' w) (ht : IsLoose t w) (ht' : IsLoose t' w) :
    ∀ (links : Nat) (here : Place) (steps : List Text),
      (walk t' ending links here steps).toOption =
        (walk t ending links here steps).toOption.map (Spot.renewed t' w) := by
  intro links
  induction links with
  | zero =>
    intro here steps
    exact walkSteps_update hoff ht ht' (fun _ _ _ => rfl) steps here
  | succ links ih =>
    intro here steps
    exact walkSteps_update hoff ht ht' (fun here target rest => ih (start here target) _) steps here

/-- A path leads to the same spot after a change at a loose place, but for what stands there. -/
theorem resolve_update (ending : Ending) (hoff : SameOff t t' w) (ht : IsLoose t w)
    (ht' : IsLoose t' w) (path : Text) :
    (t'.resolve ending path).toOption =
      (t.resolve ending path).toOption.map (Spot.renewed t' w) := by
  rw [resolve, resolve, hoff.home]
  split
  · rfl
  split
  · rfl
  exact walk_update hoff ht ht' _ _ _

/-- Whether a path can end at a spot: in a directory, or where the tree has no directory, and has
a link only if the last link is not followed. -/
def IsEnd (t : Tree) (ending : Ending) (spot : Spot) : Prop :=
  spot.IsEntry → spot = t.spotAt spot.place ∧ t.at? spot.place ≠ some .directory ∧
    ∀ target, t.at? spot.place = some (.link target) → ending = .itself

/-- How a walk goes on at a step: from another directory, or to the place of that name, or behind
a link. -/
theorem of_walkSteps_cons {follow : Place → Text → List Text → Except Errno Spot} {here : Place}
    {step : Text} {rest : List Text} {spot : Spot}
    (h : walkSteps t ending follow here (step :: rest) = .ok spot) :
    (∃ next, walkSteps t ending follow next rest = .ok spot) ∨
      (rest = [] ∧ spot.place = here ++ [step] ∧ t.IsEnd ending spot) ∨
      ((rest = [] → ending ≠ .itself) ∧ ∃ target, follow here target rest = .ok spot) := by
  rw [walkSteps] at h
  split at h
  · exact .inl ⟨_, h⟩
  split at h
  · exact .inl ⟨_, h⟩
  split at h
  · cases h
  split at h
  · cases h
  dsimp only at h
  split at h
  · next hat =>
    split at h
    · next hrest =>
      cases h
      refine .inr (.inl ⟨List.isEmpty_iff.1 hrest, rfl, fun _ => ?_⟩)
      simp [Spot.place, spotAt, hat]
    · cases h
  · exact .inl ⟨_, h⟩
  · next s hat =>
    split at h
    · next hrest =>
      cases h
      refine .inr (.inl ⟨List.isEmpty_iff.1 hrest, rfl, fun _ => ?_⟩)
      simp [Spot.place, spotAt, hat]
    · cases h
  · next target hat =>
    split at h
    · next hrest =>
      rw [Bool.and_eq_true] at hrest
      cases h
      refine .inr (.inl ⟨List.isEmpty_iff.1 hrest.1, rfl, fun _ => ?_⟩)
      simpa [Spot.place, spotAt, hat] using hrest.2
    · next hrest =>
      refine .inr (.inr ⟨?_, target, h⟩)
      rintro rfl rfl
      exact hrest rfl

theorem isEnd_of_walkSteps {follow : Place → Text → List Text → Except Errno Spot}
    (hfollow : ∀ here target rest spot, follow here target rest = .ok spot → t.IsEnd ending spot) :
    ∀ (steps : List Text) (here : Place) (spot : Spot),
      walkSteps t ending follow here steps = .ok spot → t.IsEnd ending spot := by
  intro steps
  induction steps with
  | nil =>
    intro here spot h
    rw [walkSteps, Except.ok.injEq] at h
    exact fun hentry => absurd h.symm (hentry here)
  | cons step rest ih =>
    intro here spot h
    rcases of_walkSteps_cons h with ⟨next, hnext⟩ | ⟨_, _, hend⟩ | ⟨_, target, htarget⟩
    · exact ih next spot hnext
    · exact hend
    · exact hfollow here target rest spot htarget

theorem isEnd_of_walk : ∀ (links : Nat) (here : Place) (steps : List Text) (spot : Spot),
    walk t ending links here steps = .ok spot → t.IsEnd ending spot := by
  intro links
  induction links with
  | zero => exact fun here steps => isEnd_of_walkSteps (fun _ _ _ _ h => by cases h) steps here
  | succ links ih =>
    intro here steps
    exact isEnd_of_walkSteps (fun here target rest spot => ih (start here target) _ spot) steps here

/-- What is reached by a path is what `resolve` walks to. -/
theorem walk_of_resolve {path : Text} {spot : Spot} (h : t.resolve ending path = .ok spot) :
    walk t ending linkLimit (start t.home path) (Path.route path) = .ok spot := by
  rw [resolve] at h
  split at h
  · cases h
  split at h
  · cases h
  exact h

theorem isEnd_of_resolve {path : Text} {spot : Spot} (h : t.resolve ending path = .ok spot) :
    t.IsEnd ending spot :=
  isEnd_of_walk _ _ _ _ (walk_of_resolve h)

/-- Whether a spot that is no directory has the name of the last step. -/
def NamedBy (steps : List Text) (spot : Spot) : Prop :=
  spot.IsEntry → ∃ above step, spot.place = above ++ [step] ∧ steps.getLast? = some step

theorem namedBy_append (before : List Text) {steps : List Text} {spot : Spot}
    (h : NamedBy steps spot) :
    NamedBy (before ++ steps) spot := by
  intro hentry
  obtain ⟨above, step, hplace, hlast⟩ := h hentry
  exact ⟨above, step, hplace, by rw [List.getLast?_append, hlast]; rfl⟩

theorem namedBy_of_walkSteps {follow : Place → Text → List Text → Except Errno Spot}
    (hfollow : ∀ here target rest spot, rest ≠ [] → follow here target rest = .ok spot →
      NamedBy rest spot) :
    ∀ (steps : List Text) (here : Place) (spot : Spot),
      walkSteps t .itself follow here steps = .ok spot → NamedBy steps spot := by
  intro steps
  induction steps with
  | nil =>
    intro here spot h
    rw [walkSteps, Except.ok.injEq] at h
    exact fun hentry => absurd h.symm (hentry here)
  | cons step rest ih =>
    intro here spot h
    rcases of_walkSteps_cons h with ⟨next, hnext⟩ | ⟨rfl, hplace, _⟩ | ⟨hrest, target, htarget⟩
    · exact namedBy_append [step] (ih next spot hnext)
    · exact fun _ => ⟨here, step, hplace, rfl⟩
    · exact namedBy_append [step]
        (hfollow here target rest spot (fun h => hrest h rfl) htarget)

theorem namedBy_of_walk : ∀ (links : Nat) (here : Place) (steps : List Text) (spot : Spot),
    walk t .itself links here steps = .ok spot → NamedBy steps spot := by
  intro links
  induction links with
  | zero => exact fun here steps => namedBy_of_walkSteps (fun _ _ _ _ _ h => by cases h) steps here
  | succ links ih =>
    intro here steps
    refine namedBy_of_walkSteps (fun here target rest spot hrest h => ?_) steps here
    intro hentry
    obtain ⟨above, step, hplace, hlast⟩ := ih _ _ _ h hentry
    rw [List.getLast?_append, Option.or_of_isSome (by simpa using hrest)] at hlast
    exact ⟨above, step, hplace, hlast⟩

/-- An entry has the name of the last step of the path that names it. -/
theorem namedBy_of_resolve {path : Text} {spot : Spot} (h : t.resolve .itself path = .ok spot) :
    NamedBy (Path.route path) spot :=
  namedBy_of_walk _ _ _ _ (walk_of_resolve h)

/-- Whether a walk that stops at a last link ends at the same spot, or at a link. -/
def EndsAlike (found : Except Errno Spot) (spot : Spot) : Prop :=
  found = .ok spot ∨ ∃ place target, found = .ok (.node place (.link target))

theorem walkSteps_itself (hending : ending ≠ .itself)
    {follow follow' : Place → Text → List Text → Except Errno Spot}
    (hfollow : ∀ here target rest spot, follow here target rest = .ok spot →
      EndsAlike (follow' here target rest) spot) :
    ∀ (steps : List Text) (here : Place) (spot : Spot),
      walkSteps t ending follow here steps = .ok spot →
        EndsAlike (walkSteps t .itself follow' here steps) spot := by
  intro steps
  induction steps with
  | nil => exact fun here spot h => .inl h
  | cons step rest ih =>
    intro here spot h
    rw [walkSteps] at h ⊢
    split at h
    · next hskip =>
      rw [if_pos hskip]
      exact ih _ _ h
    next hskip =>
      rw [if_neg hskip]
      split at h
      · next hup =>
        rw [if_pos hup]
        exact ih _ _ h
      next hup =>
        rw [if_neg hup, if_neg (by simp)]
        split at h
        · cases h
        split at h
        · cases h
        next hlong =>
          rw [if_neg hlong]
          dsimp only at h ⊢
          cases hat : t.at? (here ++ [step]) with
          | none => exact .inl (by simpa only [hat] using h)
          | some node =>
            cases node with
            | directory =>
              simp only [hat] at h
              exact ih _ _ h
            | file s => exact .inl (by simpa only [hat] using h)
            | link target =>
              simp only [hat, hending, decide_false, Bool.and_false, Bool.false_eq_true,
                if_false] at h
              cases rest with
              | nil => exact .inr ⟨here ++ [step], target, rfl⟩
              | cons next rest => exact hfollow _ _ _ _ h

theorem walk_itself (hending : ending ≠ .itself) :
    ∀ (links : Nat) (here : Place) (steps : List Text) (spot : Spot),
      walk t ending links here steps = .ok spot →
        EndsAlike (walk t .itself links here steps) spot := by
  intro links
  induction links with
  | zero =>
    exact fun here steps => walkSteps_itself hending (fun _ _ _ _ h => by cases h) steps here
  | succ links ih =>
    intro here steps
    exact walkSteps_itself hending (fun here target rest spot => ih (start here target) _ spot)
      steps here

/-- A path that can be followed leads to the same spot when its last link is not followed, or else
to that link. -/
theorem resolve_itself (hending : ending ≠ .itself) {path : Text} {spot : Spot}
    (h : t.resolve ending path = .ok spot) : EndsAlike (t.resolve .itself path) spot := by
  rw [resolve] at h ⊢
  split at h
  · cases h
  next hempty =>
    split at h
    · cases h
    next hlong =>
      rw [if_neg hempty, if_neg hlong]
      exact walk_itself hending _ _ _ _ h

theorem walkSteps_followed
    {follow follow' : Place → Text → List Text → Except Errno Spot} {spot : Spot}
    (hspot : ∀ place target, spot ≠ .node place (.link target))
    (hfollow : ∀ here target rest, follow here target rest = .ok spot →
      follow' here target rest = .ok spot) :
    ∀ (steps : List Text) (here : Place), walkSteps t .itself follow here steps = .ok spot →
      walkSteps t .followed follow' here steps = .ok spot := by
  intro steps
  induction steps with
  | nil => exact fun here h => h
  | cons step rest ih =>
    intro here h
    rw [walkSteps] at h ⊢
    split at h
    · next hskip =>
      rw [if_pos hskip]
      exact ih _ h
    next hskip =>
      rw [if_neg hskip]
      split at h
      · next hup =>
        rw [if_pos hup]
        exact ih _ h
      next hup =>
        rw [if_neg (by simp)] at h
        rw [if_neg hup, if_neg (by simp)]
        split at h
        · cases h
        next hlong =>
          rw [if_neg hlong]
          dsimp only at h ⊢
          cases hat : t.at? (here ++ [step]) with
          | none => simpa only [hat] using h
          | some node =>
            cases node with
            | directory =>
              simp only [hat] at h
              exact ih _ h
            | file s => simpa only [hat] using h
            | link target =>
              simp only [hat] at h
              split at h
              · cases h
                exact absurd rfl (hspot _ _)
              · simpa using hfollow _ _ _ h

theorem walk_followed {spot : Spot} (hspot : ∀ place target, spot ≠ .node place (.link target)) :
    ∀ (links : Nat) (here : Place) (steps : List Text),
      walk t .itself links here steps = .ok spot →
        walk t .followed links here steps = .ok spot := by
  intro links
  induction links with
  | zero => exact fun here steps => walkSteps_followed hspot (fun _ _ _ h => by cases h) steps here
  | succ links ih =>
    intro here steps
    exact walkSteps_followed hspot (fun here target rest => ih (start here target) _) steps here

/-- A path that ends in no link leads to the same spot when links are followed. -/
theorem resolve_followed {path : Text} {spot : Spot} (h : t.resolve .itself path = .ok spot)
    (hspot : ∀ place target, spot ≠ .node place (.link target)) :
    t.resolve .followed path = .ok spot := by
  rw [resolve] at h ⊢
  split at h
  · cases h
  next hempty =>
    split at h
    · cases h
    next hlong =>
      rw [if_neg hempty, if_neg hlong]
      exact walk_followed hspot _ _ _ h

end

end Tree
end AssetBundle
