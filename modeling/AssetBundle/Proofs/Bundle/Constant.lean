import AssetBundle.Bundle.Artifact
import AssetBundle.Proofs.Text.Line

/-!
# AssetBundle.Proofs.Bundle.Constant

The constants of a bundle. A name that is looked for among the names in use is not one of them
(`unused_not_mem`): the name itself and its numbered forms are all different, and more of them
are tried than there are names in use. So the constants of a bundle are pairwise different
(`nodup_constants`). Each begins with the mark of all constants and goes on with letters, digits
and underscores (`isConstant_of_mem`), whatever the names of the files are.
-/

namespace AssetBundle

namespace Identifier

/-- A letter, a digit or an underscore. -/
def isWordPoint (c : CodePoint) : Bool := isAsciiAlphanumeric c || c = underscore

theorem numbered_injective {base : Text} {m n : Nat} (h : numbered base m = numbered base n) :
    m = n := by
  rw [numbered, numbered, List.append_right_inj, List.cons_inj_right] at h
  exact Text.ofNat_injective h

theorem numbered_ne (base : Text) (n : Nat) : base ≠ numbered base n := by
  intro h
  have := congrArg List.length h
  simp [numbered] at this

/-- If even the last name that was tried is in use, so are all those in front of it. -/
theorem mem_of_go_mem {used : List Text} {base : Text} :
    ∀ {fuel n : Nat}, unused.go used base fuel n ∈ used →
      ∀ k, k ≤ fuel → numbered base (n + k) ∈ used := by
  intro fuel
  induction fuel with
  | zero =>
    intro n h k hk
    rw [Nat.le_zero.1 hk]
    exact h
  | succ fuel ih =>
    intro n h k hk
    rw [unused.go] at h
    split at h
    · next hused =>
      cases k with
      | zero => simpa using hused
      | succ k =>
        have := ih h k (by omega)
        rwa [Nat.add_right_comm, Nat.add_assoc] at this
    · next hfree => exact absurd h (by simpa using hfree)

/-- The name that is found is not in use. -/
theorem unused_not_mem (used : List Text) (base : Text) : unused used base ∉ used := by
  rw [unused]
  split
  · next hbase =>
    intro hgo
    let tried := base :: (List.range (used.length + 1)).map fun k => numbered base (2 + k)
    have hnodup : tried.Nodup := by
      refine List.nodup_cons.2 ⟨?_, ?_⟩
      · intro hmem
        obtain ⟨k, _, hk⟩ := List.mem_map.1 hmem
        exact numbered_ne base _ hk.symm
      · refine List.Pairwise.map _ ?_ List.nodup_range
        intro i j hij heq
        exact hij (by have := numbered_injective heq; omega)
    have hsub : tried ⊆ used := by
      intro name hname
      rcases List.mem_cons.1 hname with rfl | hname
      · simpa using hbase
      · obtain ⟨k, hk, rfl⟩ := List.mem_map.1 hname
        exact mem_of_go_mem hgo k (by simpa [Nat.lt_succ_iff] using hk)
    have hlength : tried.length = used.length + 1 + 1 := by simp [tried]
    have hbound := hnodup.length_le_of_subset hsub
    omega
  · next hfree => simpa using hfree

theorem exists_suffix_go (used : List Text) (base : Text) :
    ∀ fuel n, ∃ m, unused.go used base fuel n = numbered base m := by
  intro fuel
  induction fuel with
  | zero => exact fun n => ⟨n, rfl⟩
  | succ fuel ih =>
    intro n
    rw [unused.go]
    split
    · exact ih (n + 1)
    · exact ⟨n, rfl⟩

/-- The name that is found is the given one, perhaps with a number behind it. -/
theorem exists_suffix (used : List Text) (base : Text) :
    ∃ suffix, unused used base = base ++ suffix ∧ suffix.all isWordPoint = true := by
  rw [unused]
  split
  · obtain ⟨m, hm⟩ := exists_suffix_go used base used.length 2
    refine ⟨underscore :: Text.ofNat m, hm, ?_⟩
    rw [List.all_cons, Bool.and_eq_true]
    refine ⟨by decide, List.all_eq_true.2 fun c hc => ?_⟩
    have hdec := Text.isDecimal_of_mem_ofNat hc
    simp only [CodePoint.isDecimal] at hdec
    simp only [isWordPoint, isAsciiAlphanumeric, hdec, Bool.true_or]
  · exact ⟨[], (List.append_nil base).symm, rfl⟩

theorem all_ofFileName (name : Text) : (ofFileName name).all isWordPoint = true := by
  rw [ofFileName]
  split
  · decide
  · rw [List.all_map]
    refine List.all_eq_true.2 fun c _ => ?_
    simp only [Function.comp_apply]
    split
    · next h => simp [isWordPoint, h]
    · decide

theorem ofFileName_ne_nil (name : Text) : ofFileName name ≠ [] := by
  rw [ofFileName]
  split
  · decide
  · next h => simpa using h

end Identifier

namespace Artifact

/-- The mark of all constants, and behind it one or more letters, digits and underscores. -/
def IsConstant (name : Text) : Prop :=
  ∃ word, name = constantMark ++ word ∧ word ≠ [] ∧ word.all Identifier.isWordPoint = true

theorem isConstant_constantFor (used : List Text) (fileName : Text) :
    IsConstant (constantFor used fileName) := by
  obtain ⟨suffix, hsuffix, hall⟩ :=
    Identifier.exists_suffix used (constantMark ++ Identifier.ofFileName fileName)
  refine ⟨Identifier.ofFileName fileName ++ suffix, ?_, ?_, ?_⟩
  · rw [constantFor, hsuffix, List.append_assoc]
  · simp [Identifier.ofFileName_ne_nil]
  · rw [List.all_append, Identifier.all_ofFileName, hall]
    rfl

/-- No constant that is named later is in use already, and no two of them are the same. -/
theorem nodup_name : ∀ (records : List (Text × Record)) (used : List Text),
    ((name used records).map Entry.constant).Nodup ∧
      ∀ e ∈ name used records, e.constant ∉ used := by
  intro records
  induction records with
  | nil => intro used; simp [name]
  | cons entry records ih =>
    intro used
    obtain ⟨fileName, record⟩ := entry
    obtain ⟨hnodup, hfree⟩ := ih (constantFor used fileName :: used)
    rw [name]
    refine ⟨?_, ?_⟩
    · rw [List.map_cons, List.nodup_cons]
      refine ⟨?_, hnodup⟩
      intro hmem
      obtain ⟨e, he, heq⟩ := List.mem_map.1 hmem
      exact hfree e he (by rw [heq]; exact List.mem_cons_self)
    · intro e he
      rcases List.mem_cons.1 he with rfl | he
      · exact Identifier.unused_not_mem used _
      · exact fun h => hfree e he (List.mem_cons_of_mem _ h)

theorem nodup_constants (records : List (Text × Record)) :
    ((entries records).map Entry.constant).Nodup := (nodup_name records []).1

theorem isConstant_name : ∀ (records : List (Text × Record)) (used : List Text),
    ∀ e ∈ name used records, IsConstant e.constant := by
  intro records
  induction records with
  | nil => intro used e he; simp [name] at he
  | cons entry records ih =>
    intro used e he
    rw [name] at he
    rcases List.mem_cons.1 he with rfl | he
    · exact isConstant_constantFor used entry.1
    · exact ih _ e he

theorem isConstant_of_mem {records : List (Text × Record)} {e : Entry} (h : e ∈ entries records) :
    IsConstant e.constant := isConstant_name records [] e h

theorem map_asset_name : ∀ (records : List (Text × Record)) (used : List Text),
    (name used records).map (fun e => (e.fileName, e.record)) = records := by
  intro records
  induction records with
  | nil => intro used; rfl
  | cons entry records ih =>
    intro used
    rw [name, List.map_cons, ih]

/-- The entries of a bundle are the assets, in their order. -/
theorem map_record_entries (records : List (Text × Record)) :
    (entries records).map Entry.record = records.map Prod.snd := by
  have hassets := congrArg (List.map Prod.snd) (map_asset_name records [])
  rw [List.map_map] at hassets
  exact hassets

end Artifact
end AssetBundle
