/-!
# AssetBundle.Keyed

Lists of pairs that are read as a mapping and keep the order in which their keys first appeared.
Putting a key again changes its value (`lookup_put_self`) but no other one (`lookup_put_ne`), and
leaves it in its place (`keys_put`).
-/

namespace AssetBundle
namespace Keyed

variable {κ α : Type} [DecidableEq κ]

/-- Whether a key is there. -/
def has (key : κ) (pairs : List (κ × α)) : Bool := pairs.any fun pair => pair.1 = key

/-- Gives a key that is there a new value. -/
def replace (key : κ) (a : α) : List (κ × α) → List (κ × α)
  | [] => []
  | pair :: rest => if pair.1 = key then (key, a) :: rest else pair :: replace key a rest

def put (pairs : List (κ × α)) (key : κ) (a : α) : List (κ × α) :=
  if has key pairs then replace key a pairs else pairs ++ [(key, a)]

section

variable [BEq κ] [LawfulBEq κ]

theorem lookup_replace_self {key : κ} {a : α} {pairs : List (κ × α)} (h : has key pairs = true) :
    (replace key a pairs).lookup key = some a := by
  induction pairs with
  | nil => simp [has] at h
  | cons pair rest ih =>
    rw [replace]
    split
    · simp
    · next other =>
      have : (key == pair.1) = false := by simpa using fun h => other h.symm
      rw [List.lookup_cons, this]
      exact ih (by simpa [has, other] using h)

theorem lookup_concat_self {key : κ} {a : α} {pairs : List (κ × α)} (h : has key pairs = false) :
    (pairs ++ [(key, a)]).lookup key = some a := by
  induction pairs with
  | nil => simp
  | cons pair rest ih =>
    have other : pair.1 ≠ key ∧ has key rest = false := by simpa [has] using h
    have : (key == pair.1) = false := by simpa using fun h => other.1 h.symm
    rw [List.cons_append, List.lookup_cons, this]
    exact ih other.2

/-- What was put is found. -/
theorem lookup_put_self (pairs : List (κ × α)) (key : κ) (a : α) :
    (put pairs key a).lookup key = some a := by
  rw [put]
  split
  · next h => exact lookup_replace_self h
  · next h => exact lookup_concat_self (by simpa using h)

theorem lookup_replace_ne {key other : κ} (h : other ≠ key) (a : α) (pairs : List (κ × α)) :
    (replace key a pairs).lookup other = pairs.lookup other := by
  induction pairs with
  | nil => rfl
  | cons pair rest ih =>
    rw [replace]
    split
    · next hpair =>
      have hne : (other == pair.1) = false := by simpa [hpair] using h
      rw [List.lookup_cons, List.lookup_cons, hne, ← hpair, hne]
    · rw [List.lookup_cons, List.lookup_cons, ih]

/-- What other keys have stays. -/
theorem lookup_put_ne {key other : κ} (h : other ≠ key) (pairs : List (κ × α)) (a : α) :
    (put pairs key a).lookup other = pairs.lookup other := by
  rw [put]
  split
  · exact lookup_replace_ne h a pairs
  · have hne : (other == key) = false := by simpa using h
    rw [List.lookup_append, List.lookup_cons, hne]
    exact Option.or_none

end

theorem mem_of_mem_replace {key : κ} {a : α} {pair : κ × α} {pairs : List (κ × α)}
    (h : pair ∈ replace key a pairs) : pair = (key, a) ∨ pair ∈ pairs := by
  induction pairs with
  | nil => cases h
  | cons first rest ih =>
    rw [replace] at h
    split at h
    · exact (List.mem_cons.1 h).imp_right (List.mem_cons_of_mem _)
    · rcases List.mem_cons.1 h with rfl | h
      · exact .inr List.mem_cons_self
      · exact (ih h).imp_right (List.mem_cons_of_mem _)

/-- Nothing is there but what was put. -/
theorem mem_of_mem_put {key : κ} {a : α} {pair : κ × α} {pairs : List (κ × α)}
    (h : pair ∈ put pairs key a) : pair = (key, a) ∨ pair ∈ pairs := by
  rw [put] at h
  split at h
  · exact mem_of_mem_replace h
  · exact (List.mem_append.1 h).symm.imp_left List.mem_singleton.1

theorem keys_replace (pairs : List (κ × α)) (key : κ) (a : α) :
    (replace key a pairs).map Prod.fst = pairs.map Prod.fst := by
  induction pairs with
  | nil => rfl
  | cons pair rest ih =>
    rw [replace]
    split
    · next h => simp [h]
    · simp [ih]

/-- A key that is there keeps its place, and a new one comes last. -/
theorem keys_put (pairs : List (κ × α)) (key : κ) (a : α) :
    (put pairs key a).map Prod.fst =
      if has key pairs then pairs.map Prod.fst else pairs.map Prod.fst ++ [key] := by
  rw [put]
  split
  · exact keys_replace pairs key a
  · simp

theorem mem_of_lookup {κ α : Type} [BEq κ] [LawfulBEq κ] {pairs : List (κ × α)} {key : κ} {a : α}
    (h : pairs.lookup key = some a) : (key, a) ∈ pairs := by
  obtain ⟨before, behind, rfl, _⟩ := List.lookup_eq_some_iff.1 h
  exact List.mem_append_right _ List.mem_cons_self

/-- The mapping that results from putting pairs one after another. -/
def ofList (pairs : List (κ × α)) : List (κ × α) :=
  pairs.foldl (fun done pair => put done pair.1 pair.2) []

def drop (key : κ) (pairs : List (κ × α)) : List (κ × α) :=
  pairs.filter fun pair => pair.1 ≠ key

end Keyed
end AssetBundle
