import AssetBundle.Proofs.Bundle.Underway

/-!
# AssetBundle.Proofs.Bundle.Building

How a build runs. It takes the admitted files of its directory in order (`collect_eq`), makes the
assets of those that can be read, all or none (`records_ok`, `records_error`), each read when the
assets in front of it have been written, and if nothing fails it has moved the text of the assets
onto its output (`build_ok`).
-/

namespace AssetBundle
namespace Bundle

variable {files : Tree} {seen : List (Text × Record) → Tree} {directory path : Text}
  {o : BuildOptions} {names : List Text} {made : List (Text × Record)}
  {found : List (Option Record)} {n : Nat} {e : Failure}

/-- Whether the file of a name becomes an asset. -/
def isTaken (files : Tree) (directory name : Text) : Bool :=
  (ContentType.ofName? name).isSome && files.isFile (Path.join directory name)

theorem collect_eq {names : List Text} (hcheck : Path.check directory = .ok ())
    (hlist : files.list directory = .ok names) :
    collect files directory = .ok ((names.filter (isTaken files directory)).mergeSort Text.le) := by
  rw [collect, hcheck]
  dsimp only
  rw [hlist]
  rfl

theorem collect_ok {names : List Text} (h : collect files directory = .ok names) :
    ∃ listed, files.list directory = .ok listed ∧
      names = (listed.filter (isTaken files directory)).mergeSort Text.le := by
  rw [collect] at h
  split at h
  · cases h
  split at h
  · cases h
  next listed hlist =>
    cases h
    exact ⟨listed, hlist, rfl⟩

theorem taken_of_collect {names : List Text} (h : collect files directory = .ok names)
    {name : Text} (hname : name ∈ names) :
    (ContentType.ofName? name).isSome = true ∧ files.isFile (Path.join directory name) = true := by
  obtain ⟨listed, _, rfl⟩ := collect_ok h
  rw [← Bool.and_eq_true]
  exact (List.mem_filter.1 (List.mem_mergeSort.1 hname)).2

theorem admitted_of_collect {names : List Text} (h : collect files directory = .ok names) :
    ∀ name ∈ names, (ContentType.ofName? name).isSome = true :=
  fun _ hname => (taken_of_collect h hname).1

theorem exists_spot (hcollect : collect files directory = .ok names) {name : Text}
    (hname : name ∈ names) :
    ∃ place contents,
      files.resolve .followed (Path.join directory name) = .ok (.node place (.file contents)) :=
  Tree.exists_of_isFile (taken_of_collect hcollect hname).2

/-- What files give one after another, an asset or nothing, when some assets have been made. -/
inductive Give (seen : List (Text × Record) → Tree) (directory : Text) (o : BuildOptions) :
    List (Text × Record) → List Text → List (Option Record) → Prop where
  | none {made : List (Text × Record)} : Give seen directory o made [] []
  | next {made : List (Text × Record)} {name : Text} {names : List Text} {found : Option Record}
      {rest : List (Option Record)} :
    (record (seen made) directory name o).1 = .ok found →
      Give seen directory o (withFound made name found) names rest →
        Give seen directory o made (name :: names) (found :: rest)

/-- Every asset is that of a name, as its file is when it is its turn. -/
theorem Give.exists_name (h : Give seen directory o made names found) :
    ∀ r ∈ found.filterMap id, ∃ before, ∃ name ∈ names,
      (record (seen before) directory name o).1 = .ok (some r) := by
  induction h with
  | none => exact nofun
  | @next made name names found rest hrecord _ ih =>
    intro r hr
    rw [List.filterMap_cons] at hr
    cases found with
    | none =>
      obtain ⟨before, other, hother, hgives⟩ := ih r hr
      exact ⟨before, other, List.mem_cons_of_mem _ hother, hgives⟩
    | some own =>
      rcases List.mem_cons.1 hr with rfl | hr
      · exact ⟨made, name, List.mem_cons_self, hrecord⟩
      · obtain ⟨before, other, hother, hgives⟩ := ih r hr
        exact ⟨before, other, List.mem_cons_of_mem _ hother, hgives⟩

/-- Every name gives an asset, as its file is when it is its turn, or nothing. -/
theorem Give.exists_result (h : Give seen directory o made names found) :
    ∀ name ∈ names, ∃ before result, (record (seen before) directory name o).1 = .ok result ∧
      ∀ r, result = some r → r ∈ found.filterMap id := by
  induction h with
  | none => exact nofun
  | @next made name names found rest hrecord _ ih =>
    intro other hother
    rcases List.mem_cons.1 hother with rfl | hother
    · exact ⟨made, found, hrecord, by rintro r rfl; simp⟩
    · obtain ⟨before, result, hresult, hmem⟩ := ih other hother
      refine ⟨before, result, hresult, fun r hr => ?_⟩
      rw [List.filterMap_cons]
      cases found with
      | none => exact hmem r hr
      | some own => exact List.mem_cons_of_mem _ (hmem r hr)

/-- The assets are those that the files give, and no file stops the others. -/
theorem records_ok : ∀ {names : List Text} {made assets : List (Text × Record)},
    (records seen directory o made names).1 = .ok assets →
      ∃ found, Give seen directory o made names found ∧
        assets.map Prod.snd = made.map Prod.snd ++ found.filterMap id := by
  intro names
  induction names with
  | nil =>
    intro made assets h
    cases h
    exact ⟨[], .none, by simp⟩
  | cons name names ih =>
    intro made assets h
    rw [records] at h
    split at h
    · cases h
    next found log hrecord =>
      obtain ⟨rest, hgive, hassets⟩ := ih h
      refine ⟨found :: rest, .next (by rw [hrecord]) hgive, ?_⟩
      rw [hassets]
      cases found <;> simp [withFound]

theorem records_error : ∀ {names : List Text} {made : List (Text × Record)},
    (records seen directory o made names).1 = .error e →
      ∃ before, ∃ name ∈ names, (record (seen before) directory name o).1 = .error e := by
  intro names
  induction names with
  | nil =>
    intro made h
    cases h
  | cons name names ih =>
    intro made h
    rw [records] at h
    split at h
    · next hrecord =>
      cases h
      exact ⟨made, name, List.mem_cons_self, by rw [hrecord]⟩
    · obtain ⟨before, other, hother, hfails⟩ := ih h
      exact ⟨before, other, List.mem_cons_of_mem _ hother, hfails⟩

/-- What is published is written to the open draft as a whole, and moved onto the output. -/
theorem publish_set {w : Place} {output : Value}
    (hw : files.target (draftPath output.written) = .ok w)
    (assets : List (Text × Record)) :
    publish (files.set w (.file [])) output assets =
      moveOnto (files.set w (.file ((Artifact.write (Artifact.entries assets)).flatMap
        Utf8.encodePoint))) (draftPath output.written) output := by
  rw [publish, Tree.write, Tree.target_set hw]
  dsimp only
  rw [Tree.set_set]

theorem publish_ok {w : Place} {assets : List (Text × Record)} {complete : Tree}
    (hw : files.target (draftPath path) = .ok w)
    (h : publish (files.set w (.file [])) (.text path) assets = .ok complete) :
    (files.set w (.file ((Artifact.write (Artifact.entries assets)).flatMap
      Utf8.encodePoint))).rename (draftPath path) path = .ok complete := by
  rw [publish_set hw] at h
  dsimp only [Value.written, moveOnto] at h
  split at h
  · next hrename =>
    cases h
    exact hrename
  · cases h

/-- A build that succeeds has written the text of its assets and moved it onto its output. -/
theorem build_ok (h : (build files directory (.text path) o).outcome = .ok n) :
    ∃ names w assets, collect files directory = .ok names ∧ Path.check (draftPath path) = .ok () ∧
      files.target (draftPath path) = .ok w ∧
      (records (underway files (draftPath path)) directory o.withPathStart [] names).1 =
        .ok assets ∧
      n = assets.length ∧
      (files.set w (.file ((Artifact.write (Artifact.entries assets)).flatMap
        Utf8.encodePoint))).rename (draftPath path) path =
          .ok (build files directory (.text path) o).files := by
  rw [build] at h ⊢
  dsimp only [Value.written] at h ⊢
  split at h
  · cases h
  split at h
  · cases h
  next names hcollect =>
    split at h
    · cases h
    next hcheck =>
      cases hw : files.target (draftPath path) with
      | error errno =>
        rw [Tree.write, hw] at h
        cases h
      | ok w =>
        rw [Tree.write, hw] at h ⊢
        dsimp only at h ⊢
        rw [fill] at h ⊢
        dsimp only [Value.written] at h ⊢
        rw [underway_opened hw] at h ⊢
        split at h
        · cases h
        next assets log hrecords =>
          split at h
          · cases h
          next complete hpublish =>
            cases h
            exact ⟨names, w, assets, hcollect, hcheck, rfl, by rw [hrecords], rfl,
              publish_ok hw hpublish⟩

/-- One admitted file, and an output and its draft from earlier on. -/
def oneFile : Tree := ⟨[(["www"], .directory), (["www", "a.html"], .file [60, 112, 62]),
  (["out.py"], .file [111, 108, 100]), (["out.py.tmp"], .file [120])], [], []⟩

theorem collect_oneFile : collect oneFile "www" = .ok ["a.html"] := by
  have htaken : List.filter (isTaken oneFile "www") ["a.html"] = [("a.html" : Text)] := rfl
  rw [collect_eq rfl (show oneFile.list "www" = .ok [("a.html" : Text)] from rfl), htaken,
    List.mergeSort_singleton]

end Bundle
end AssetBundle
