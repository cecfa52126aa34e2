import AssetBundle.Proofs.Bundle.Reading

/-!
# AssetBundle.Proofs.Bundle.Naming

The names in a bundle. A name is numbered until it is free, and the search comes to an end whatever
names are in use (`Identifier.settles_unused`). So each asset has a constant of its own, which is
none of the names that all bundles have in common, and in the text of the bundle every name stands
for what was written under it (`Artifact.constants_apart`).
-/

namespace AssetBundle

namespace Identifier

variable {used used' : List Text} {base name last : Text} {n : Nat}

/-- The search for a name that is not in use, with the name at hand and the number of names tried so
far: it ends with a name that is free, and goes on to the next numbered form of one that is not. -/
inductive Settles (used : List Text) (base : Text) : Text → Nat → Text → Prop
  | free {name : Text} {n : Nat} : name ∉ used → Settles used base name n name
  | taken {name last : Text} {n : Nat} : name ∈ used →
      Settles used base (numbered base (n + 1)) (n + 1) last → Settles used base name n last

theorem Settles.congr (h : Settles used base name n last) (hused : ∀ t, t ∈ used ↔ t ∈ used') :
    Settles used' base name n last := by
  induction h with
  | free hfree => exact .free fun h => hfree ((hused _).2 h)
  | taken htaken _ ih => exact .taken ((hused _).1 htaken) ih

theorem settles_go (hlast : last ∉ used) : ∀ fuel n, unused.go used base fuel n = last →
    Settles used base (numbered base n) n last := by
  intro fuel
  induction fuel with
  | zero =>
    intro n h
    rw [← h] at hlast ⊢
    exact .free hlast
  | succ fuel ih =>
    intro n h
    rw [unused.go] at h
    split at h
    · next htaken => exact .taken (by simpa using htaken) (ih (n + 1) h)
    · next hopen =>
      rw [← h] at hlast ⊢
      exact .free hlast

/-- The search ends, and with the name that is found. -/
theorem settles_unused (used : List Text) (base : Text) :
    Settles used base base 1 (unused used base) := by
  have hfree := unused_not_mem used base
  rw [unused] at hfree ⊢
  split at hfree
  · next htaken =>
    rw [if_pos htaken]
    exact .taken (by simpa using htaken) (settles_go hfree used.length 2 rfl)
  · next hopen =>
    rw [if_neg hopen]
    exact .free hfree

end Identifier

namespace Artifact

/-- The function that a bundle defines at its end. -/
def registerName : Text := "init_embedded_assets"

example : List.isPrefixOf
    (Literal.lineFeed ++ (("def " : Text) ++ (registerName ++ ("():" : Text)))) postlude = true :=
  rfl

/-- The names that all bundles have in common. -/
def commonNames : List Text :=
  [countName, urlsName, contentTypesName, contentsName, sizesName, registerName]

/-- Each constant is named in view of those in front of it. -/
theorem constant_name : ∀ {records : List (Text × Record)} {used : List Text}
    {front behind : List Entry} {e : Entry}, name used records = front ++ e :: behind →
      e.constant = constantFor ((front.map Entry.constant).reverse ++ used) e.fileName := by
  intro records
  induction records with
  | nil =>
    intro used front behind e h
    exact absurd h.symm (by simp [name])
  | cons entry records ih =>
    intro used front behind e h
    rw [name] at h
    cases front with
    | nil =>
      obtain ⟨rfl, _⟩ := List.cons.inj h
      rfl
    | cons first front =>
      obtain ⟨rfl, hrest⟩ := List.cons.inj h
      rw [ih hrest]
      simp

theorem not_isConstant_of_mem {t : Text} (h : t ∈ commonNames) : ¬ IsConstant t := by
  have hmark : ∀ t ∈ commonNames, constantMark.isPrefixOf t = false := by decide
  exact not_isConstant (hmark t h)

/-- Whatever the names of the files are, the search for a constant ends for each of them. The
constants consist of their mark and of letters, digits and underscores, no two of them are the
same, and none is a name that all bundles have in common; so nothing in the text of the bundle is
overwritten. -/
theorem constants_apart (records : List (Text × Record)) :
    let es := entries records
    es.map (fun e => (e.fileName, e.record)) = records ∧
    (∀ front e behind, es = front ++ e :: behind →
      let base := constantMark ++ Identifier.ofFileName e.fileName
      Identifier.Settles (front.map Entry.constant) base base 1 e.constant) ∧
    (∀ e ∈ es, IsConstant e.constant) ∧
    (es.map Entry.constant ++ commonNames).Nodup ∧
    ∃ names, Reader.names? (write es) = some names ∧
      (∀ e ∈ es, names.lookup e.constant = some (.bytes e.record.payload)) ∧
      names.lookup countName = some (.int es.length) ∧
      names.lookup urlsName = some (.list (es.map fun e => .text e.record.url)) ∧
      names.lookup contentTypesName = some (.list (es.map fun e => .text e.record.contentType)) ∧
      names.lookup contentsName = some (.list (es.map fun e => .bytes e.record.payload)) ∧
      names.lookup sizesName = some (.list (es.map fun e => .int e.record.size)) := by
  intro es
  have hconstant : ∀ e ∈ es, IsConstant e.constant := fun e he => isConstant_of_mem he
  have hnodup : (es.map Entry.constant).Nodup := nodup_constants records
  refine ⟨map_asset_name records [], ?_, hconstant, ?_, bindings es, names?_write hconstant hnodup,
    ?_, rfl, rfl, rfl, rfl, rfl⟩
  · intro front e behind h base
    have hsettles := Identifier.settles_unused ((front.map Entry.constant).reverse ++ []) base
    rw [constant_name h]
    exact hsettles.congr (by simp)
  · refine List.nodup_append.2 ⟨hnodup, by decide, ?_⟩
    rintro name hname _ hcommon rfl
    obtain ⟨e, he, rfl⟩ := List.mem_map.1 hname
    exact not_isConstant_of_mem hcommon (hconstant e he)
  · intro e he
    refine lookup_constant hconstant hnodup he ?_
    simp only [List.mem_cons, List.not_mem_nil, or_false]
    rintro b (rfl | rfl | rfl | rfl | rfl) <;> exact not_isConstant rfl

end Artifact
end AssetBundle
