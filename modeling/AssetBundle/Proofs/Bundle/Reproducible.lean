import AssetBundle.Proofs.Bundle.Atomic
import AssetBundle.Proofs.Bundle.Reading
import Mathlib.Data.List.Nodup

/-!
# AssetBundle.Proofs.Bundle.Reproducible

What a bundle depends on. The assets are made from the names and contents of the files that can be
read, in the order of their names (`records_cases`). The directory that they were found in, the
order in which it lists them and what else it holds leave no trace, since names are sorted and tell
the files apart (`sources_eq`). The draft is opened before the files are read, so none of them may
be what it is opened as (`contentsOf_apart`). Then two directories with the same files give the
same bundle, to the byte (`build_reproducible`). A file that the name of the draft leads to is
emptied before it is read (`build_through_link`).
-/

namespace AssetBundle

namespace Tree

/-- Whether every place is listed once. -/
def IsProper (t : Tree) : Prop := (t.nodes.map Prod.fst).Nodup

theorem childOf?_eq_some {t : Tree} {place : Place} {entry : Place × Node} {child : Text × Node}
    (h : t.childOf? place entry = some child) :
    place ++ [child.1] = entry.1 ∧ t.isOnWay entry.1 = false := by
  rw [childOf?] at h
  split at h
  · next name hlast =>
    split at h <;> cases h
    next habove =>
      rw [Bool.and_eq_true, decide_eq_true_eq, Bool.not_eq_true'] at habove
      obtain ⟨rfl, hway⟩ := habove
      exact ⟨List.dropLast_append_getLast? name hlast, hway⟩
  · cases h

theorem children_sublist (t : Tree) (place : Place) (nodes : List (Place × Node)) :
    ((nodes.filterMap (t.childOf? place)).map fun child => place ++ [child.1]).Sublist
      (nodes.map Prod.fst) := by
  induction nodes with
  | nil => exact .slnil
  | cons entry nodes ih =>
    rw [List.filterMap_cons]
    split
    · exact ih.cons _
    · next child hchild =>
      rw [List.map_cons, List.map_cons, (childOf?_eq_some hchild).1]
      exact ih.cons_cons _

theorem isOnWay_wayFrom? {t : Tree} {place : Place} {name : Text}
    (h : t.wayFrom? place = some name) : t.isOnWay (place ++ [name]) = true := by
  rw [wayFrom?] at h
  split at h
  · next hway =>
    rw [isOnWay, List.isPrefixOf_iff_prefix] at hway ⊢
    obtain ⟨rest, hrest⟩ := hway
    rw [← hrest, List.getElem?_append_right (Nat.le_refl _), Nat.sub_self] at h
    obtain ⟨rest, rfl⟩ : ∃ more, rest = name :: more := by
      cases rest <;> cases h
      exact ⟨_, rfl⟩
    exact ⟨rest, by rw [← hrest]; simp⟩
  · cases h

/-- In a directory of such a tree every name is listed once. -/
theorem IsProper.list {t : Tree} (h : t.IsProper) {path : Text} {names : List Text}
    (hlist : t.list path = .ok names) : names.Nodup := by
  rw [Tree.list] at hlist
  split at hlist <;> cases hlist
  next place _ =>
    have hplaces := h.sublist (children_sublist t place t.nodes)
    have hnames : (((t.children place).map Prod.fst).map fun name => place ++ [name]).Nodup := by
      rw [List.map_map, children, List.map_append, List.nodup_append]
      refine ⟨?_, hplaces, ?_⟩
      · cases t.wayFrom? place <;> simp
      · -- the name on the way to the current directory is listed apart from the entries
        rintro other hway entry hentry rfl
        simp only [List.map_map, List.mem_map, Option.mem_toList] at hway
        obtain ⟨name, hname, rfl⟩ := hway
        obtain ⟨child, hchild, heq⟩ := List.mem_map.1 hentry
        obtain ⟨_, _, hfound⟩ := List.mem_filterMap.1 hchild
        obtain ⟨hplace, hoff⟩ := childOf?_eq_some hfound
        rw [← hplace, show place ++ [child.1] = place ++ [name] from heq,
          isOnWay_wayFrom? hname] at hoff
        cases hoff
    exact hnames.of_map

end Tree

namespace Bundle

variable {files : Tree} {directory name path : Text} {o : BuildOptions} {contents : Bytes}
  {names : List Text} {w : Place}

/-- Whether a bundle is made of a file: it is listed under that name, is taken, and can be read. -/
structure IsSource (files : Tree) (directory name : Text) (contents : Bytes) : Prop where
  listed : ∃ names, files.list directory = .ok names ∧ name ∈ names
  taken : isTaken files directory name = true
  reads : contentsOf files (Path.join directory name) = .ok (.ok contents)

/-- The names that can be read, with what they hold. -/
def sources (files : Tree) (directory : Text) (names : List Text) : List (Text × Bytes) :=
  names.filterMap fun name =>
    match contentsOf files (Path.join directory name) with
    | .ok (.ok contents) => some (name, contents)
    | _ => none

theorem mem_sources {source : Text × Bytes} : source ∈ sources files directory names ↔
    source.1 ∈ names ∧ contentsOf files (Path.join directory source.1) = .ok (.ok source.2) := by
  rw [sources, List.mem_filterMap]
  constructor
  · rintro ⟨name, hname, hsource⟩
    split at hsource <;> cases hsource
    exact ⟨hname, by assumption⟩
  · rintro ⟨hname, hreads⟩
    exact ⟨source.1, hname, by rw [hreads]⟩

theorem sources_sublist (files : Tree) (directory : Text) (names : List Text) :
    ((sources files directory names).map Prod.fst).Sublist names := by
  induction names with
  | nil => exact .slnil
  | cons name names ih =>
    rw [sources, List.filterMap_cons]
    split
    · exact ih.cons _
    · next hsource =>
      split at hsource <;> cases hsource
      exact ih.cons_cons _

theorem isSource_iff {listed : List Text} (hlist : files.list directory = .ok listed) :
    IsSource files directory name contents ↔
      (name, contents) ∈ sources files directory (listed.filter (isTaken files directory)) := by
  rw [mem_sources, List.mem_filter]
  constructor
  · rintro ⟨⟨listed', hlist', hname⟩, htaken, hreads⟩
    rw [hlist] at hlist'
    cases hlist'
    exact ⟨⟨hname, htaken⟩, hreads⟩
  · rintro ⟨⟨hname, htaken⟩, hreads⟩
    exact ⟨⟨listed, hlist, hname⟩, htaken, hreads⟩

theorem mem_sources_of_collect {source : Text × Bytes} (h : collect files directory = .ok names) :
    source ∈ sources files directory names ↔ IsSource files directory source.1 source.2 := by
  obtain ⟨listed, hlist, rfl⟩ := collect_ok h
  rw [isSource_iff hlist, mem_sources, mem_sources, List.mem_mergeSort]

theorem isSource_iff_of_collect (h : collect files directory = .ok names) :
    IsSource files directory name contents ↔
      name ∈ names ∧ contentsOf files (Path.join directory name) = .ok (.ok contents) := by
  show IsSource files directory (name, contents).1 (name, contents).2 ↔ _
  rw [← mem_sources_of_collect h, mem_sources]

theorem names_sorted (h : collect files directory = .ok names) :
    names.Pairwise fun a b => Text.le a b = true := by
  obtain ⟨listed, _, rfl⟩ := collect_ok h
  have htrans : ∀ r s t : Text, r.le s = true → s.le t = true → r.le t = true :=
    fun _ _ _ => Text.le_trans
  exact List.pairwise_mergeSort htrans Text.le_total _

theorem collect_eq_of_perm {listed : List Text} (hcheck : Path.check directory = .ok ())
    (hlist : files.list directory = .ok listed)
    (hperm : (listed.filter (isTaken files directory)).Perm names)
    (hsorted : names.Pairwise fun a b => Text.le a b = true) :
    collect files directory = .ok names := by
  have hcollect := collect_eq hcheck hlist
  rw [hcollect]
  refine congrArg Except.ok (List.Perm.eq_of_pairwise ?_ (names_sorted hcollect) hsorted
    ((List.mergeSort_perm _ _).trans hperm))
  exact fun _ _ _ _ => Text.le_antisymm

theorem names_nodup (hproper : files.IsProper) (h : collect files directory = .ok names) :
    names.Nodup := by
  obtain ⟨listed, hlist, rfl⟩ := collect_ok h
  exact (List.mergeSort_perm _ _).nodup_iff.2 ((hproper.list hlist).filter _)

theorem sources_sorted (h : collect files directory = .ok names) :
    (sources files directory names).Pairwise fun a b => Text.le a.1 b.1 = true :=
  List.pairwise_map.1 ((names_sorted h).sublist (sources_sublist files directory _))

theorem sources_nodup (hproper : files.IsProper) (h : collect files directory = .ok names) :
    (sources files directory names).Nodup :=
  List.Nodup.of_map _ ((names_nodup hproper h).sublist (sources_sublist files directory _))

/-- The sources are told by which files there are. -/
theorem sources_eq {files' : Tree} {directory' : Text} {names' : List Text}
    (hproper : files.IsProper) (hproper' : files'.IsProper)
    (hsame : ∀ name contents,
      IsSource files directory name contents ↔ IsSource files' directory' name contents)
    (h : collect files directory = .ok names) (h' : collect files' directory' = .ok names') :
    sources files directory names = sources files' directory' names' := by
  have hperm : (sources files directory names).Perm (sources files' directory' names') := by
    refine (List.perm_ext_iff_of_nodup (sources_nodup hproper h) (sources_nodup hproper' h')).2 ?_
    intro source
    rw [mem_sources_of_collect h, mem_sources_of_collect h', hsame]
  refine List.Perm.eq_of_pairwise ?_ (sources_sorted h) (sources_sorted h') hperm
  rintro ⟨name, contents⟩ ⟨name', contents'⟩ ha hb hab hba
  obtain rfl : name = name' := Text.le_antisymm hab hba
  have hreads := (mem_sources.1 ha).2
  rw [(mem_sources.1 (hperm.mem_iff.2 hb)).2] at hreads
  cases hreads
  rfl

/-- The asset of a file that was read. -/
def sourceAsset (o : BuildOptions) (source : Text × Bytes) : Outcome Record :=
  match ContentType.ofName? source.1 with
  | none => .error (.fileType source.1)
  | some contentType => assetOf contentType source.1 source.2 o

/-- The assets of files that were read. -/
def assetsOf (o : BuildOptions) : List (Text × Bytes) → Outcome (List (Text × Record))
  | [] => .ok []
  | source :: rest =>
    match sourceAsset o source with
    | .error e => .error e
    | .ok r => (assetsOf o rest).map fun assets => (source.1, r) :: assets

/-- The assets are made of what was read, unless a name cannot even be asked for. -/
theorem records_cases {seen : List (Text × Record) → Tree} (o : BuildOptions)
    (hnames : ∀ name ∈ names, (ContentType.ofName? name).isSome = true)
    (hseen : ∀ before, ∀ name ∈ names, contentsOf (seen before) (Path.join directory name) =
      contentsOf files (Path.join directory name)) (made : List (Text × Record)) :
    (records seen directory o made names).1 =
        (assetsOf o (sources files directory names)).map (made ++ ·) ∨
      ∃ name e, contentsOf files (Path.join directory name) = .error e ∧
        name ∈ names ∧ (records seen directory o made names).1 = .error e := by
  induction names generalizing made with
  | nil => exact .inl (by simp [records, sources, assetsOf, Except.map])
  | cons name names ih =>
    obtain ⟨hname, hrest⟩ := List.forall_mem_cons.1 hnames
    have hcontents := hseen made name List.mem_cons_self
    have ih := ih hrest fun before other hother =>
      hseen before other (List.mem_cons_of_mem _ hother)
    obtain ⟨contentType, htype⟩ := Option.isSome_iff_exists.1 hname
    rw [records, record, htype, sources, List.filterMap_cons]
    dsimp only
    rw [hcontents]
    cases hread : contentsOf files (Path.join directory name) with
    | error e => exact .inr ⟨name, e, hread, List.mem_cons_self, rfl⟩
    | ok found =>
      cases found with
      | error line =>
        rcases ih (withFound made name none) with hassets | ⟨other, e, hother, hmem, hfails⟩
        · left
          simpa [withFound, sources] using hassets
        · exact .inr ⟨other, e, hother, List.mem_cons_of_mem _ hmem, hfails⟩
      | ok contents =>
        have hasset : sourceAsset o (name, contents) = assetOf contentType name contents o := by
          rw [sourceAsset, htype]
        dsimp only
        rw [assetsOf, hasset]
        cases assetOf contentType name contents o with
        | error e => exact .inl rfl
        | ok r =>
          rcases ih (withFound made name (some r)) with hassets | ⟨other, e, hother, hmem, hfails⟩
          · left
            dsimp only
            rw [hassets, sources]
            generalize assetsOf o _ = made
            cases made <;> simp [Except.map, withFound]
          · exact .inr ⟨other, e, hother, List.mem_cons_of_mem _ hmem, hfails⟩

/-- Whether no file of a bundle is what its draft is opened as. -/
def IsApart (files : Tree) (directory output : Text) : Prop :=
  ∀ name contents w, IsSource files directory name contents →
    files.target (draftPath output) = .ok w →
      files.resolve .followed (Path.join directory name) ≠ .ok (.node w (.file contents))

/-- Writing the draft changes nothing that is read meanwhile. -/
theorem contentsOf_apart (hcollect : collect files directory = .ok names)
    (hapart : IsApart files directory path) (hw : files.target (draftPath path) = .ok w)
    (made : List (Text × Record)) (hname : name ∈ names) :
    contentsOf (underway files (draftPath path) made) (Path.join directory name) =
      contentsOf files (Path.join directory name) := by
  obtain ⟨place, contents, hspot⟩ := exists_spot hcollect hname
  refine contentsOf_underway hw hspot ?_
  rintro hreads rfl
  exact hapart name contents place ((isSource_iff_of_collect hcollect).2 ⟨hname, hreads⟩) hw hspot

theorem records_underway (hcollect : collect files directory = .ok names)
    (hapart : IsApart files directory path) (hw : files.target (draftPath path) = .ok w)
    (o : BuildOptions) :
    (records (underway files (draftPath path)) directory o [] names).1 =
        assetsOf o (sources files directory names) ∨
      ∃ name e, contentsOf files (Path.join directory name) = .error e ∧ name ∈ names ∧
        (records (underway files (draftPath path)) directory o [] names).1 = .error e := by
  have hcases := records_cases o (admitted_of_collect hcollect)
    (fun made _ hname => contentsOf_apart hcollect hapart hw made hname) []
  cases hassets : assetsOf o (sources files directory names) with
  | error e => rwa [hassets] at hcases
  | ok assets => rwa [hassets] at hcases

/-- What a build leaves of its text: no file that it wrote holds anything else, and the entry of the
output is such a file, unless the name of the draft was a link. -/
structure Leaves (before after : Tree) (output : Text) (contents : Bytes) : Prop where
  alone : ∀ place found, before.IsWritten output place → after.at? place = some (.file found) →
    found = contents
  moved : (∀ place target,
      before.resolve .itself (draftPath output) ≠ .ok (.node place (.link target))) →
    ∃ entry, before.resolve .itself output = .ok entry ∧
      after.at? entry.place = some (.file contents)

theorem leaves_of_rename {after : Tree} (hw : files.target (draftPath path) = .ok w)
    (h : (files.set w (.file contents)).rename (draftPath path) path = .ok after) :
    Leaves files after path contents := by
  refine ⟨fun place found hplace hfile => Tree.file_of_rename hw h hplace hfile, fun hdraft => ?_⟩
  obtain ⟨entry, hentry, hentry', _, rfl⟩ := Tree.moved_of_rename hw hdraft h
  refine ⟨entry, hentry, ?_⟩
  have hway : files.isOnWay entry.place = false := Tree.not_isOnWay_of_resolve hentry hentry'
  exact (Tree.at?_set (t := (files.set w (.file contents)).erase w) hway _ _).trans (if_pos rfl)

/-- The age is settled before anything else. -/
theorem checkAge_of_build {n : Nat} (h : (build files directory (.text path) o).outcome = .ok n) :
    BuildOptions.checkAge o.withPathStart.maxAge = .ok () := by
  rcases build_cases files directory (.text path) o with
    ⟨_, _, _, _, hbuild⟩ | ⟨_, _, hage, _⟩
  · rw [hbuild] at h
    cases h
  · exact hage

/-- A build whose assets can be made succeeds, or fails around them. -/
theorem build_around {assets : List (Text × Record)}
    (hage : BuildOptions.checkAge o.withPathStart.maxAge = .ok ())
    (hassets : ∀ names, collect files directory = .ok names →
      assetsOf o.withPathStart (sources files directory names) = .ok assets)
    (hapart : IsApart files directory path) :
    (build files directory (.text path) o).outcome = .ok assets.length ∨
      ∃ point e, BuildPoint.isAround point = true ∧
        BuildPoint.FailsWith files directory (.text path) o.withPathStart e point ∧
          (build files directory (.text path) o).outcome = .error e := by
  rcases build_cases files directory (.text path) o with
    ⟨point, e, hpoint, hfront, hbuild⟩ | ⟨names, w, _, hcollect, hw, hbuild⟩
  · rcases BuildPoint.eq_age_or_isAround hfront with rfl | haround
    · cases hage.symm.trans hpoint
    · exact .inr ⟨point, e, haround, hpoint, by rw [hbuild]⟩
  dsimp only [Value.written] at hw
  rw [hbuild, fill]
  dsimp only [Value.written]
  rw [underway_opened hw]
  have hrecords := records_underway hcollect hapart hw o.withPathStart
  rw [hassets names hcollect] at hrecords
  rcases hrun : records (underway files (draftPath path)) directory o.withPathStart [] names with
    ⟨outcome, log⟩
  rw [hrun] at hrecords
  rcases hrecords with hok | ⟨name, e, hcontents, hname, hfails⟩
  · cases hok
    dsimp only
    cases hpublish : publish (files.set w (.file [])) (.text path) assets with
    | error e =>
      obtain ⟨point, haround, hpoint⟩ := publish_error hw hpublish
      exact .inr ⟨point, e, haround, hpoint, rfl⟩
    | ok complete => exact .inl rfl
  · cases hfails
    rw [← contentsOf_apart hcollect hapart hw [] hname] at hcontents
    exact .inr ⟨.reading, e, rfl, ⟨w, [], name, hw, hcontents⟩, rfl⟩

/-- A build that succeeds leaves the assets of its sources. -/
theorem build_sources {n : Nat} (hapart : IsApart files directory path)
    (h : (build files directory (.text path) o).outcome = .ok n) :
    ∃ names assets, collect files directory = .ok names ∧
      assetsOf o.withPathStart (sources files directory names) = .ok assets ∧ n = assets.length ∧
      Leaves files (build files directory (.text path) o).files path
        ((Artifact.write (Artifact.entries assets)).flatMap Utf8.encodePoint) := by
  obtain ⟨names, w, assets, hcollect, _, hw, hrecords, hn, hrename⟩ := build_ok h
  refine ⟨names, assets, hcollect, ?_, hn, leaves_of_rename hw hrename⟩
  rcases records_underway hcollect hapart hw o.withPathStart with hassets | ⟨_, _, _, _, hfails⟩
  · rw [← hassets, hrecords]
  · rw [hrecords] at hfails
    cases hfails

/-- Two directories with the same files give the same bundle, whatever else there is, if none of the
files is what the draft is opened as. The second build can only fail for reasons of its directory or
its output. -/
theorem build_reproducible {files' : Tree} {directory' output output' : Text} {n : Nat}
    (hproper : files.IsProper) (hproper' : files'.IsProper)
    (hsame : ∀ name contents,
      IsSource files directory name contents ↔ IsSource files' directory' name contents)
    (hapart : IsApart files directory output) (hapart' : IsApart files' directory' output')
    (hbuild : (build files directory (.text output) o).outcome = .ok n) :
    let again := build files' directory' (.text output') o
    ∃ contents, Leaves files (build files directory (.text output) o).files output contents ∧
      ((again.outcome = .ok n ∧ Leaves files' again.files output' contents) ∨
        ∃ point e, BuildPoint.isAround point = true ∧
          BuildPoint.FailsWith files' directory' (.text output') o.withPathStart e point ∧
            again.outcome = .error e) := by
  intro again
  obtain ⟨names, assets, hcollect, hassets, rfl, hleaves⟩ := build_sources hapart hbuild
  refine ⟨_, hleaves, ?_⟩
  have hassets' : ∀ names', collect files' directory' = .ok names' →
      assetsOf o.withPathStart (sources files' directory' names') = .ok assets := by
    intro names' hcollect'
    rw [← sources_eq hproper hproper' hsame hcollect hcollect', hassets]
  rcases build_around (checkAge_of_build hbuild) hassets' hapart' with hagain | hfails
  · left
    obtain ⟨names', assets', hcollect', hown, _, hleaves'⟩ := build_sources hapart' hagain
    rw [hassets' names' hcollect'] at hown
    cases hown
    exact ⟨hagain, hleaves'⟩
  · exact .inr hfails

/-- What can be read under the names of a directory is the source, in whatever order. -/
theorem isSource_iff_of_perm {listed : List Text} {found : List (Text × Bytes)}
    (hlist : files.list directory = .ok listed)
    (hperm : (sources files directory (listed.filter (isTaken files directory))).Perm found) :
    IsSource files directory name contents ↔ (name, contents) ∈ found := by
  rw [isSource_iff hlist, hperm.mem_iff]

/-- Where one name can be read, that is the source. -/
theorem isSource_iff_of_lone {listed : List Text} {lone : Text} {found : Bytes}
    (hlist : files.list directory = .ok listed)
    (hlone : sources files directory (listed.filter (isTaken files directory)) = [(lone, found)]) :
    IsSource files directory name contents ↔ name = lone ∧ contents = found := by
  rw [isSource_iff_of_perm hlist (.of_eq hlone)]
  exact List.mem_singleton.trans Prod.ext_iff

theorem isSource_oneFile :
    IsSource oneFile "www" name contents ↔ name = "a.html" ∧ contents = [60, 112, 62] :=
  isSource_iff_of_lone (show oneFile.list "www" = .ok [("a.html" : Text)] from rfl) rfl

/-- Nothing is compressed. -/
def storing : BuildOptions := ⟨BuildOptions.rootPath, .int 0, .none⟩

theorem outcome_oneFile : (build oneFile "www" (.text "out.py") storing).outcome = .ok 1 :=
  Tree.eq_ok_of_toOption (by decide +kernel)

/-- Three files, not listed in the order of their names. -/
def shelf : Tree := ⟨[(["www"], .directory), (["www", "c.js"], .file []),
  (["www", "a.html"], .file [60, 112, 62]), (["www", "B.CSS"], .file [98])], [], []⟩

/-- The files of `shelf` in another order, one of them behind a link, in a directory with a
directory, a dangling link, a file of no admitted type and one that cannot be read. -/
def linked : Tree := ⟨[(["d"], .directory), (["p"], .file [60, 112, 62]),
  (["d", "sub.html"], .directory), (["d", "a.html"], .link "../p"),
  (["d", "gone.html"], .link "../none"), (["d", "c.js"], .file []), (["d", "x.exe"], .file [1]),
  (["d", "locked.html"], .file [1]), (["d", "B.CSS"], .file [98])],
  [("d/locked.html", "Permission denied")], []⟩

/-- What bundles of `shelf` and `linked` are made of. -/
def shelved : List (Text × Bytes) :=
  [("B.CSS", [98]), ("a.html", [60, 112, 62]), ("c.js", [])]

theorem list_shelf : shelf.list "www" = .ok ["c.js", "a.html", "B.CSS"] := rfl

theorem list_linked : linked.list "d" =
    .ok ["sub.html", "a.html", "gone.html", "c.js", "x.exe", "locked.html", "B.CSS"] := rfl

theorem isSource_shelf : IsSource shelf "www" name contents ↔ (name, contents) ∈ shelved :=
  isSource_iff_of_perm list_shelf (by decide +kernel)

theorem isSource_linked : IsSource linked "d" name contents ↔ (name, contents) ∈ shelved :=
  isSource_iff_of_perm list_linked (by decide +kernel)

theorem outcome_shelf : (build shelf "www" (.text "out.py") storing).outcome = .ok 3 := by
  have hcollect : collect shelf "www" = .ok ["B.CSS", "a.html", "c.js"] :=
    collect_eq_of_perm rfl list_shelf (by decide +kernel) (by decide)
  rw [build]
  dsimp only [BuildOptions.checkAge, BuildOptions.withPathStart]
  rw [hcollect]
  exact Tree.eq_ok_of_toOption (by decide +kernel)

theorem outcome_linked : (build linked "d" (.text "new.py") storing).outcome = .ok 3 := by
  have hcollect : collect linked "d" = .ok ["B.CSS", "a.html", "c.js", "locked.html"] :=
    collect_eq_of_perm rfl list_linked (by decide +kernel) (by decide)
  rw [build]
  dsimp only [BuildOptions.checkAge, BuildOptions.withPathStart]
  rw [hcollect]
  exact Tree.eq_ok_of_toOption (by decide +kernel)

theorem build_reproducible_linked :
    let built := build shelf "www" (.text "out.py") storing
    let again := build linked "d" (.text "new.py") storing
    built.outcome = .ok 3 ∧ again.outcome = .ok 3 ∧
      ∃ contents, Leaves shelf built.files "out.py" contents ∧
        Leaves linked again.files "new.py" contents := by
  intro built again
  have hapart : IsApart shelf "www" "out.py" := by
    intro name contents w hsource hw
    have hw' : shelf.target (draftPath "out.py") = .ok ["out.py.tmp"] := rfl
    cases hw.symm.trans hw'
    have hspots : ∀ source ∈ shelved, shelf.resolve .followed (Path.join "www" source.1) ≠
        .ok (.node ["out.py.tmp"] (.file source.2)) := by decide +kernel
    exact hspots _ (isSource_shelf.1 hsource)
  have hapart' : IsApart linked "d" "new.py" := by
    intro name contents w hsource hw
    have hw' : linked.target (draftPath "new.py") = .ok ["new.py.tmp"] := rfl
    cases hw.symm.trans hw'
    have hspots : ∀ source ∈ shelved, linked.resolve .followed (Path.join "d" source.1) ≠
        .ok (.node ["new.py.tmp"] (.file source.2)) := by decide +kernel
    exact hspots _ (isSource_linked.1 hsource)
  obtain ⟨contents, hleaves, ⟨_, hleaves'⟩ | ⟨_, _, _, _, hfails⟩⟩ :=
    build_reproducible (by unfold Tree.IsProper; decide) (by unfold Tree.IsProper; decide)
      (fun _ _ => isSource_shelf.trans isSource_linked.symm) hapart hapart' outcome_shelf
  · exact ⟨outcome_shelf, outcome_linked, contents, hleaves, hleaves'⟩
  · cases outcome_linked.symm.trans hfails

/-- The texts of bundles tell their assets apart. -/
theorem records_of_write {assets assets' : List (Text × Record)}
    (h : (Artifact.write (Artifact.entries assets)).flatMap Utf8.encodePoint =
      (Artifact.write (Artifact.entries assets')).flatMap Utf8.encodePoint) :
    assets.map Prod.snd = assets'.map Prod.snd := by
  have htable := congrArg Reader.ofFile h
  rw [Artifact.ofFile_write, Artifact.ofFile_write] at htable
  exact congrArg Table.toList (Except.ok.inj htable)

/-- A link in place of the draft, to a file that is taken. -/
def throughLink : Tree := ⟨[(["www"], .directory), (["www", "a.html"], .file [60, 112, 62]),
  (["out.py.tmp"], .link "www/a.html")], [], []⟩

theorem isSource_throughLink :
    IsSource throughLink "www" name contents ↔ name = "a.html" ∧ contents = [60, 112, 62] :=
  isSource_iff_of_lone (show throughLink.list "www" = .ok [("a.html" : Text)] from rfl) rfl

theorem collect_throughLink : collect throughLink "www" = .ok [("a.html" : Text)] :=
  Tree.eq_ok_of_toOption (by decide +kernel)

/-- What can be read of a bundle whose build is followed by hand, up to its text. -/
theorem read_of_build {n : Nat} (sizes : List Nat)
    (hbuild : (build files directory (.text path) o).outcome = .ok n)
    (hcollect : collect files directory = .ok names) (hw : files.target (draftPath path) = .ok w)
    (hsizes : ((records (underway files (draftPath path)) directory o.withPathStart []
      names).1.toOption.map fun assets => assets.map fun asset => asset.2.size) = some sizes)
    (hread : ∀ text, ∃ after, (files.set w (.file text)).rename (draftPath path) path = .ok after ∧
      after.read path = .ok text) :
    ∃ assets, (build files directory (.text path) o).files.read path =
        .ok ((Artifact.write (Artifact.entries assets)).flatMap Utf8.encodePoint) ∧
      assets.map (fun asset => asset.2.size) = sizes := by
  obtain ⟨names', w', assets, hcollect', _, hw', hrecords, _, hrename⟩ := build_ok hbuild
  cases hcollect.symm.trans hcollect'
  cases hw.symm.trans hw'
  obtain ⟨after, hafter, htext⟩ := hread
    ((Artifact.write (Artifact.entries assets)).flatMap Utf8.encodePoint)
  cases hafter.symm.trans hrename
  rw [hrecords] at hsizes
  exact ⟨assets, htext, Option.some.inj hsizes⟩

/-- A file that the name of the draft leads to is emptied before it is read, so its bundle is
another one. The file itself is no link. -/
theorem build_through_link :
    let built := build oneFile "www" (.text "out.py") storing
    let through := build throughLink "www" (.text "out.py") storing
    (∀ name contents,
      IsSource oneFile "www" name contents ↔ IsSource throughLink "www" name contents) ∧
    throughLink.resolve .itself "www/a.html" =
      .ok (.node ["www", "a.html"] (.file [60, 112, 62])) ∧
    built.outcome = .ok 1 ∧ through.outcome = .ok 1 ∧
    ∃ contents contents', built.files.read "out.py" = .ok contents ∧
      through.files.read "out.py" = .ok contents' ∧ contents ≠ contents' := by
  intro built through
  have hthrough : through.outcome = .ok 1 := Tree.eq_ok_of_toOption (by decide +kernel)
  have hplace : oneFile.target (draftPath "out.py") = .ok ["out.py.tmp"] := rfl
  have hplace' : throughLink.target (draftPath "out.py") = .ok ["www", "a.html"] := rfl
  obtain ⟨assets, hread, hsizes⟩ := read_of_build [26] outcome_oneFile collect_oneFile hplace
    (by decide +kernel) fun text => ⟨_, rfl, rfl⟩
  obtain ⟨assets', hread', hsizes'⟩ := read_of_build [23] hthrough collect_throughLink hplace'
    (by decide +kernel) fun text => ⟨_, rfl, rfl⟩
  refine ⟨fun _ _ => isSource_oneFile.trans isSource_throughLink.symm, rfl, outcome_oneFile,
    hthrough, _, _, hread, hread', fun hsame => ?_⟩
  have hrecords := congrArg (List.map Record.size) (records_of_write hsame)
  rw [List.map_map, List.map_map] at hrecords
  have habsurd : [26] = [23] := hsizes.symm.trans (hrecords.trans hsizes')
  cases habsurd

end Bundle
end AssetBundle
