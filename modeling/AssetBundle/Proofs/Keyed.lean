import AssetBundle.Keyed
import Mathlib.Data.List.Induction
import Mathlib.Data.List.Nodup

/-!
# AssetBundle.Proofs.Keyed

What is left of pairs that are put one after another: each key once (`nodup_keys_ofList`), with the
value that was put last (`lookup_ofList`).
-/

namespace AssetBundle
namespace Keyed

variable {κ α : Type} [DecidableEq κ]

theorem ofList_concat (pairs : List (κ × α)) (pair : κ × α) :
    ofList (pairs ++ [pair]) = put (ofList pairs) pair.1 pair.2 := by
  rw [ofList, List.foldl_append]
  rfl

/-- A key has the value that was put last. -/
theorem lookup_ofList [BEq κ] [LawfulBEq κ] (pairs : List (κ × α)) (key : κ) :
    (ofList pairs).lookup key = (pairs.filter fun pair => pair.1 = key).getLast?.map Prod.snd := by
  induction pairs using List.reverseRecOn with
  | nil => rfl
  | append_singleton pairs pair ih =>
    rw [ofList_concat, List.filter_append]
    by_cases hkey : pair.1 = key
    · subst hkey
      rw [lookup_put_self, List.filter_cons_of_pos (by simp), List.filter_nil,
        List.getLast?_concat, Option.map_some]
    · rw [lookup_put_ne (Ne.symm hkey), List.filter_cons_of_neg (by simpa using hkey),
        List.filter_nil, List.append_nil, ih]

/-- Nothing is left but what was put. -/
theorem mem_of_mem_ofList {pairs : List (κ × α)} {pair : κ × α} (h : pair ∈ ofList pairs) :
    pair ∈ pairs := by
  induction pairs using List.reverseRecOn with
  | nil => cases h
  | append_singleton pairs last ih =>
    rw [ofList_concat] at h
    rcases mem_of_mem_put h with rfl | h
    · exact List.mem_concat_self
    · exact List.mem_append_left _ (ih h)

theorem nodup_keys_put {pairs : List (κ × α)} (hnodup : (pairs.map Prod.fst).Nodup) (key : κ)
    (a : α) : ((put pairs key a).map Prod.fst).Nodup := by
  rw [keys_put]
  split
  · exact hnodup
  · next hnew =>
    have hfresh : key ∉ pairs.map Prod.fst := by
      intro hmem
      obtain ⟨pair, hpair, hkey⟩ := List.mem_map.1 hmem
      exact hnew (List.any_eq_true.2 ⟨pair, hpair, decide_eq_true hkey⟩)
    exact (List.perm_append_singleton _ _).nodup_iff.2 (List.nodup_cons.2 ⟨hfresh, hnodup⟩)

theorem nodup_keys_ofList (pairs : List (κ × α)) : ((ofList pairs).map Prod.fst).Nodup := by
  induction pairs using List.reverseRecOn with
  | nil => exact List.nodup_nil
  | append_singleton pairs pair ih =>
    rw [ofList_concat]
    exact nodup_keys_put ih _ _

end Keyed
end AssetBundle
