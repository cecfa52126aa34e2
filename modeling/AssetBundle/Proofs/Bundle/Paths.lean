import AssetBundle.Proofs.Asset.ContentType
import AssetBundle.Proofs.Asset.Table
import AssetBundle.Proofs.Bundle.Faithful
import AssetBundle.Proofs.Bundle.Reading

/-!
# AssetBundle.Proofs.Bundle.Paths

The paths of a bundle. The path of an asset ends in the name of its file, so different assets have
different paths, and looking up the path of an asset finds that asset (`find?_of_isBuilt`). An
admitted name is longer than one letter, so no asset stands in place of the root
(`not_root_of_isBuilt`).
-/

namespace AssetBundle

namespace Bundle

variable {files : Tree} {seen : List (Text × Record) → Tree} {directory name other : Text}
  {o : BuildOptions} {r r' : Record}

theorem record_ok (h : (record files directory name o).1 = .ok (some r)) :
    ∃ contentType contents, ContentType.ofName? name = some contentType ∧
      contentsOf files (Path.join directory name) = .ok (.ok contents) ∧
      assetOf contentType name contents o = .ok r := by
  rw [record] at h
  split at h
  · cases h
  next contentType hname =>
    split at h
    · cases h
    · cases h
    next contents hcontents =>
      split at h
      · cases h
      next own hasset =>
        cases h
        exact ⟨contentType, contents, hname, hcontents, hasset⟩

theorem url_of_record (h : (record files directory name o).1 = .ok (some r)) :
    ∃ start, o.pathStart = .text start ∧ r.url = start ++ name := by
  obtain ⟨_, _, hname, _, hasset⟩ := record_ok h
  obtain ⟨_, start, _, _, hstart, hurl⟩ := assetOf_ok hname hasset
  exact ⟨start, hstart, hurl⟩

theorem isLatin1_of_record (h : (record files directory name o).1 = .ok (some r)) :
    r.headers.IsLatin1 := by
  obtain ⟨_, contents, hname, _, hasset⟩ := record_ok h
  obtain ⟨_, _, _, hheaders, _⟩ := assetOf_ok hname hasset
  exact Headers.isLatin1_revalidating hname (Validator.encodes_ofBytes contents) hheaders

/-- Different assets have different paths. -/
theorem eq_of_url {files : Text → Tree}
    (h : (record (files name) directory name o).1 = .ok (some r))
    (h' : (record (files other) directory other o).1 = .ok (some r')) (hurl : r.url = r'.url) :
    r = r' := by
  obtain ⟨start, hstart, hown⟩ := url_of_record h
  obtain ⟨start', hstart', hother⟩ := url_of_record h'
  cases hstart.symm.trans hstart'
  rw [hown, hother, List.append_right_inj] at hurl
  subst hurl
  cases h.symm.trans h'
  rfl

/-- Whether a table holds the assets of the files of some names in a directory, as one does that is
loaded from a bundle. Each file may have been read from a tree of its own. -/
def IsBuilt (t : Table) : Prop :=
  ∃ (files : Text → Tree) (directory : Text) (names : List Text) (o : BuildOptions)
    (found : List (Option Record)),
    names.map (fun name => (record (files name) directory name o).1) = found.map .ok ∧
      t.toList = found.filterMap id

variable {t : Table}

/-- If no name is repeated, what the files give depends on nothing but their names. -/
theorem Give.exists_trees {made : List (Text × Record)} {names : List Text}
    {found : List (Option Record)} (h : Give seen directory o made names found)
    (hnames : names.Nodup) : ∃ files : Text → Tree,
      names.map (fun name => (record (files name) directory name o).1) = found.map .ok := by
  induction h with
  | none => exact ⟨fun _ => .empty, rfl⟩
  | @next made name names found rest hrecord _ ih =>
    obtain ⟨hname, hnames⟩ := List.nodup_cons.1 hnames
    obtain ⟨files, hfiles⟩ := ih hnames
    refine ⟨fun other => if other = name then seen made else files other, ?_⟩
    rw [List.map_cons, List.map_cons, ← hrecord, ← hfiles]
    dsimp only
    rw [if_pos rfl]
    refine congrArg _ (List.map_congr_left fun other hother => ?_)
    rw [if_neg (by rintro rfl; exact hname hother)]

/-- The table of the assets that are made of some files is built. -/
theorem isBuilt_of_records {names : List Text} {assets : List (Text × Record)}
    (hnames : names.Nodup) (h : (records seen directory o [] names).1 = .ok assets) :
    IsBuilt (.ofRecords (assets.map Prod.snd)) := by
  obtain ⟨found, hgive, hassets⟩ := records_ok h
  obtain ⟨files, hfiles⟩ := hgive.exists_trees hnames
  exact ⟨files, directory, names, o, found, hfiles, hassets⟩

theorem exists_record_of_isBuilt (h : IsBuilt t) :
    ∃ (files : Text → Tree) (directory : Text) (o : BuildOptions), ∀ r ∈ t.toList,
      ∃ name, (record (files name) directory name o).1 = .ok (some r) := by
  obtain ⟨files, directory, names, o, found, hfound, hlist⟩ := h
  refine ⟨files, directory, o, fun r hr => ?_⟩
  rw [hlist] at hr
  obtain ⟨_, hsome, rfl⟩ := List.mem_filterMap.1 hr
  have hmem : Except.ok (some r) ∈
      names.map fun name => (record (files name) directory name o).1 := by
    rw [hfound]
    exact List.mem_map_of_mem hsome
  obtain ⟨name, _, hname⟩ := List.mem_map.1 hmem
  exact ⟨name, hname⟩

theorem find?_of_isBuilt (h : IsBuilt t) (hr : r ∈ t.toList) :
    (t.toList.find? fun other => other.url = r.url) = some r := by
  obtain ⟨files, directory, o, hrecord⟩ := exists_record_of_isBuilt h
  cases hfind : t.toList.find? fun other => other.url = r.url with
  | none => exact absurd (List.find?_eq_none.1 hfind r hr) (by simp)
  | some found =>
    obtain ⟨name, hname⟩ := hrecord found (List.mem_of_find?_eq_some hfind)
    obtain ⟨own, hown⟩ := hrecord r hr
    rw [eq_of_url hname hown (by simpa using List.find?_some hfind)]

theorem not_root_of_isBuilt (h : IsBuilt t) (hr : r ∈ t.toList) :
    ¬ (r.url = [] ∨ r.url = "/") := by
  obtain ⟨files, directory, o, hrecord⟩ := exists_record_of_isBuilt h
  obtain ⟨name, hname⟩ := hrecord r hr
  obtain ⟨start, _, hurl⟩ := url_of_record hname
  obtain ⟨_, _, hadmitted, _⟩ := record_ok hname
  have hlength := ContentType.two_le_length hadmitted
  have hlong : 2 ≤ r.url.length := by
    rw [hurl, List.length_append]
    omega
  rintro (hroot | hroot) <;> rw [hroot] at hlong
  · exact absurd hlong (by decide)
  · exact absurd hlong (by decide)

theorem isLatin1_of_isBuilt (h : IsBuilt t) : ∀ r ∈ t.toList, r.headers.IsLatin1 := by
  intro r hr
  obtain ⟨files, directory, o, hrecord⟩ := exists_record_of_isBuilt h
  obtain ⟨_, hname⟩ := hrecord r hr
  exact isLatin1_of_record hname

end Bundle
end AssetBundle
