import Mathlib.Data.List.TakeWhile
import AssetBundle.Proofs.Files.Draft

/-!
# AssetBundle.Proofs.Files.Spelling

A path that is spelled out. It ends in the same name (`clean_name`), and it can be stored if the
path can (`check_clean`): nothing is in it but what is in the path, slashes and dots.
-/

namespace AssetBundle

namespace Path

/-- Spelling a path out keeps steps, drops steps, and adds the next one. -/
theorem mem_of_mem_foldl {f : List Text → Text → List Text}
    (hf : ∀ done step, ∀ other ∈ f done step, other ∈ done ∨ other = step) :
    ∀ {steps done : List Text}, ∀ other ∈ steps.foldl f done, other ∈ done ∨ other ∈ steps := by
  intro steps
  induction steps with
  | nil => exact fun other h => .inl h
  | cons step steps ih =>
    intro done other h
    rcases ih other h with h | h
    · rcases hf done step other h with h | rfl
      · exact .inl h
      · exact .inr List.mem_cons_self
    · exact .inr (List.mem_cons_of_mem _ h)

theorem mem_normalize {path step : Text} (h : step ∈ normalize path) : step ∈ steps path := by
  refine (mem_of_mem_foldl (fun done next other hother => ?_) step h).resolve_left (by simp)
  split at hother
  · exact .inl hother
  split at hother
  · exact .inl ((List.dropLast_sublist done).subset hother)
  · simpa using hother

theorem mem_spellStep {done : List Text} {next other : Text} (h : other ∈ spellStep done next) :
    other ∈ done ∨ other = next := by
  rw [spellStep] at h
  split at h
  · exact .inl h
  split at h
  · split at h
    · simpa using h
    · exact .inl ((List.dropLast_sublist done).subset h)
  · simpa using h

theorem mem_of_mem_steps {path step : Text} {c : CodePoint} (hstep : step ∈ steps path)
    (hc : c ∈ step) : c ∈ path :=
  Sequence.mem_of_mem_splitOn (List.mem_filter.1 hstep).1 hc

/-- Nothing is in a path that is spelled out but what is in the path, slashes and dots. -/
theorem mem_clean {path : Text} {c : CodePoint} (h : c ∈ clean path) :
    c ∈ path ∨ c = slash ∨ c ∈ dot := by
  have hjoined : ∀ {place : List Text}, (∀ step ∈ place, step ∈ steps path) →
      c ∈ List.intercalate [slash] place → c ∈ path ∨ c = slash ∨ c ∈ dot := by
    intro place hplace hc
    rcases Sequence.mem_of_mem_intercalate hc with hc | ⟨step, hstep, hc⟩
    · exact .inr (.inl (List.mem_singleton.1 hc))
    · exact .inl (mem_of_mem_steps (hplace step hstep) hc)
  rw [clean] at h
  split at h
  · rcases List.mem_append.1 h with h | h
    · refine .inr (.inl ?_)
      rw [root] at h
      split at h
      · simpa using List.mem_takeWhile_imp h
      · exact List.mem_singleton.1 h
    · exact hjoined (fun step => mem_normalize) h
  · rw [ofPlace] at h
    split at h
    · exact .inr (.inr h)
    · refine hjoined (fun step hstep => ?_) h
      exact (mem_of_mem_foldl (fun _ _ _ => mem_spellStep) step hstep).resolve_left (by simp)

/-- A path can be stored if all its code points can, and none is null. -/
theorem check_eq_ok_iff {path : Text} :
    check path = .ok () ↔ (∀ c ∈ path, storable c = true) ∧ 0 ∉ path := by
  rw [check, unstorable?, ← List.dropWhile_eq_nil_iff]
  cases List.dropWhile storable path with
  | nil => simp
  | cons c rest => simp

theorem check_clean {path : Text} (h : check path = .ok ()) : check (clean path) = .ok () := by
  rw [check_eq_ok_iff] at h ⊢
  have hc : ∀ c ∈ clean path, storable c = true ∧ c ≠ 0 := by
    intro c hc
    rcases mem_clean hc with hc | rfl | hc
    · exact ⟨h.1 c hc, fun hzero => h.2 (hzero ▸ hc)⟩
    · decide
    · rw [List.mem_singleton.1 hc]
      decide
  exact ⟨fun c h => (hc c h).1, fun h => (hc 0 h).2 rfl⟩

/-- A path that is spelled out ends in the same name. -/
theorem clean_name {above name : Text} (habove : EndsStep above) (hname : slash ∉ name)
    (hne : name ≠ []) (hdot : name ≠ dot) (hup : name ≠ dotDot) :
    ∃ front, clean (above ++ name) = front ++ name := by
  have hsteps : steps (above ++ name) = steps above ++ [name] := by
    rw [steps_append habove, steps_name hname hne]
  rw [clean]
  split
  · obtain ⟨front, hfront⟩ := Sequence.intercalate_concat [slash] name (normalize above)
    have hnormalize : normalize (above ++ name) = normalize above ++ [name] := by
      rw [normalize, normalizeFrom, hsteps, List.foldl_append, List.foldl_cons, List.foldl_nil,
        if_neg hdot, if_neg hup, normalize, normalizeFrom]
    exact ⟨root (above ++ name) ++ front, by rw [hnormalize, hfront, List.append_assoc]⟩
  · obtain ⟨front, hfront⟩ :=
      Sequence.intercalate_concat [slash] name ((steps above).foldl spellStep [])
    refine ⟨front, ?_⟩
    rw [hsteps, List.foldl_append, List.foldl_cons, List.foldl_nil, spellStep, if_neg hdot,
      if_neg hup, ofPlace, if_neg (by simp), hfront]

end Path
end AssetBundle
