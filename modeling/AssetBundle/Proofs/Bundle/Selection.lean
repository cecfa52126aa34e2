import AssetBundle.Proofs.Bundle.Paths
import AssetBundle.Proofs.Bundle.Reproducible
import AssetBundle.Proofs.Bundle.RoundTrip
import Mathlib.Data.List.Sort

/-!
# AssetBundle.Proofs.Bundle.Selection

Which assets a loaded table has, and in which order. The names that are collected are strictly
increasing (`names_increasing`), and so are the paths, whatever stands in front of the names. There
is a path for every file of the directory that has an admitted name and can be read, and for no
other (`load_selection`). Writing the draft does not change which files can be read, only what is
read of the file that it is opened as. A path that leads to another bundle than the one that was
built gives another table (`load_selection_elsewhere`).
-/

namespace AssetBundle

theorem Text.lt_of_le_of_ne {s t : Text} (hle : s.le t = true) (hne : s ≠ t) : s < t := by
  induction s generalizing t with
  | nil =>
    cases t with
    | nil => exact absurd rfl hne
    | cons b t => exact List.nil_lt_cons b t
  | cons a s ih =>
    cases t with
    | nil => cases hle
    | cons b t =>
      rw [List.cons_lt_cons_iff]
      rw [le] at hle
      split at hle
      · next hlt => exact .inl hlt
      · next hge =>
        split at hle
        · cases hle
        · next hle' =>
          obtain rfl : a = b := Fin.ext (by omega)
          exact .inr ⟨rfl, ih hle fun heq => hne (heq ▸ rfl)⟩

namespace BuildOptions

variable {o : BuildOptions} {start : Text}

/-- Whether the paths of a bundle start with a text: the one that is given, or the root if none
is. -/
def StartsWith (o : BuildOptions) (start : Text) : Prop :=
  (o.pathStart = .text start ∧ start ≠ []) ∨ (o.pathStart.truthy = false ∧ start = "/")

theorem startsWith_iff : o.StartsWith start ↔ o.withPathStart.pathStart = .text start := by
  rw [StartsWith, withPathStart]
  split
  · next htruthy =>
    constructor
    · rintro (⟨hstart, _⟩ | ⟨hfalse, _⟩)
      · exact hstart
      · cases htruthy.symm.trans hfalse
    · intro hstart
      refine .inl ⟨hstart, ?_⟩
      rintro rfl
      rw [hstart] at htruthy
      cases htruthy
  · next htruthy =>
    rw [Bool.not_eq_true] at htruthy
    constructor
    · rintro (⟨hstart, hne⟩ | ⟨_, rfl⟩)
      · rw [hstart, Value.truthy] at htruthy
        exact absurd (by simpa using htruthy) hne
      · rfl
    · intro hroot
      cases hroot
      exact .inr ⟨htruthy, rfl⟩

end BuildOptions

namespace Bundle

variable {files : Tree} {seen : List (Text × Record) → Tree} {directory name path : Text}
  {o : BuildOptions} {contents : Bytes} {names : List Text} {made assets : List (Text × Record)}
  {found : List (Option Record)} {r : Record} {w place : Place}

theorem names_increasing (hproper : files.IsProper) (h : collect files directory = .ok names) :
    names.Pairwise (· < ·) :=
  (names_sorted h).imp₂ (fun _ _ => Text.lt_of_le_of_ne) (names_nodup hproper h)

/-- The paths are in the order of the names, since they all start alike. -/
theorem Give.urls_increasing (h : Give seen directory o made names found)
    (hnames : names.Pairwise (· < ·)) :
    ((found.filterMap id).map Record.url).Pairwise (· < ·) := by
  induction h with
  | none => exact .nil
  | @next made name names found rest hrecord hgive ih =>
    obtain ⟨hfirst, hnames⟩ := List.pairwise_cons.1 hnames
    rw [List.filterMap_cons]
    cases found with
    | none => exact ih hnames
    | some r =>
      refine List.pairwise_cons.2 ⟨fun url hurl => ?_, ih hnames⟩
      obtain ⟨r', hr', rfl⟩ := List.mem_map.1 hurl
      obtain ⟨_, other, hother, hgives⟩ := hgive.exists_name r' hr'
      obtain ⟨start, hstart, hown⟩ := url_of_record hrecord
      obtain ⟨start', hstart', hown'⟩ := url_of_record hgives
      cases hstart.symm.trans hstart'
      rw [hown, hown']
      exact List.append_left_lt (hfirst other hother)

/-- An admitted file that is read gives an asset, if it does not fail. -/
theorem exists_of_reads {result : Option Record}
    (hadmitted : (ContentType.ofName? name).isSome = true)
    (hreads : contentsOf files (Path.join directory name) = .ok (.ok contents))
    (h : (record files directory name o).1 = .ok result) : ∃ r, result = some r := by
  obtain ⟨contentType, htype⟩ := Option.isSome_iff_exists.1 hadmitted
  rw [record, htype] at h
  dsimp only at h
  rw [hreads] at h
  dsimp only at h
  split at h
  · cases h
  · next r _ =>
    cases h
    exact ⟨r, rfl⟩

theorem record_congr {files' : Tree}
    (h : contentsOf files' (Path.join directory name) =
      contentsOf files (Path.join directory name)) :
    record files' directory name o = record files directory name o := by
  unfold record
  rw [h]

theorem isFaithful_of_record
    (hreads : contentsOf files (Path.join directory name) = .ok (.ok contents))
    (h : (record files directory name o).1 = .ok (some r)) : IsFaithful contents r := by
  obtain ⟨_, found, htype, hfound, hasset⟩ := record_ok h
  cases hreads.symm.trans hfound
  exact assetOf_faithful htype hasset

/-- Whether a file of a directory belongs into a bundle: it is listed under a name that is admitted,
is a file, links followed, and can be read. -/
structure IsSelected (files : Tree) (directory name : Text) (contents : Bytes) : Prop where
  listed : ∃ names, files.list directory = .ok names ∧ name ∈ names
  admitted : ContentType.IsAdmitted name
  isFile : files.isFile (Path.join directory name) = true
  reads : contentsOf files (Path.join directory name) = .ok (.ok contents)

theorem isSelected_iff_isSource :
    IsSelected files directory name contents ↔ IsSource files directory name contents := by
  have htaken : isTaken files directory name = true ↔
      ContentType.IsAdmitted name ∧ files.isFile (Path.join directory name) = true := by
    rw [isTaken, Bool.and_eq_true, ContentType.isSome_ofName?_iff]
  constructor
  · rintro ⟨hlisted, hadmitted, hfile, hreads⟩
    exact ⟨hlisted, htaken.2 ⟨hadmitted, hfile⟩, hreads⟩
  · rintro ⟨hlisted, hname, hreads⟩
    exact ⟨hlisted, (htaken.1 hname).1, (htaken.1 hname).2, hreads⟩

theorem isSelected_iff (h : collect files directory = .ok names) :
    IsSelected files directory name contents ↔
      name ∈ names ∧ contentsOf files (Path.join directory name) = .ok (.ok contents) :=
  isSelected_iff_isSource.trans (isSource_iff_of_collect h)

/-- Whether a path leads to the file that the draft of a bundle is opened as. -/
def LeadsToDraft (files : Tree) (output path : Text) : Prop :=
  ∃ w contents, files.target (draftPath output) = .ok w ∧
    files.resolve .followed path = .ok (.node w (.file contents))

section

variable {output url : Text} (hcollect : collect files directory = .ok names)
  (hw : files.target (draftPath output) = .ok w)
  (hrecords : (records (underway files (draftPath output)) directory o [] names).1 = .ok assets)

include hcollect hw hrecords

/-- A selected file has an asset, that of the file as it is when it is its turn. -/
theorem made_of_isSelected (h : IsSelected files directory name contents) :
    ∃ r ∈ assets.map Prod.snd,
      (∃ before, (record (underway files (draftPath output) before) directory name o).1 =
        .ok (some r)) ∧
      (¬ LeadsToDraft files output (Path.join directory name) →
        (record files directory name o).1 = .ok (some r)) := by
  obtain ⟨found, hgive, hassets⟩ := records_ok hrecords
  obtain ⟨hname, hreads⟩ := (isSelected_iff hcollect).1 h
  obtain ⟨before, result, hresult, hmem⟩ := hgive.exists_result name hname
  obtain ⟨place, held, hspot⟩ := exists_spot hcollect hname
  obtain ⟨_, hheld⟩ := (reads_underway_iff hw hspot).2 ⟨contents, hreads⟩
  obtain ⟨r, rfl⟩ := exists_of_reads (admitted_of_collect hcollect name hname) hheld hresult
  refine ⟨r, hassets ▸ hmem r rfl, ⟨before, hresult⟩, fun hapart => ?_⟩
  have hplace : place ≠ w := fun hsame => hapart ⟨w, held, hw, hsame ▸ hspot⟩
  rw [← record_congr (contentsOf_underway hw hspot fun _ => hplace), hresult]

/-- The path of a selected file leads to its asset. -/
theorem find?_of_isSelected (hnames : names.Nodup) {start : Text}
    (hstart : o.pathStart = .text start) (h : IsSelected files directory name contents) :
    ∃ r, (Table.ofRecords (assets.map Prod.snd)).find? (start ++ name) = some r ∧
      (¬ LeadsToDraft files output (Path.join directory name) →
        (record files directory name o).1 = .ok (some r)) := by
  obtain ⟨r, hr, ⟨before, hrecord⟩, hown⟩ := made_of_isSelected hcollect hw hrecords h
  obtain ⟨start', hstart', hurl⟩ := url_of_record hrecord
  cases hstart.symm.trans hstart'
  refine ⟨r, ?_, hown⟩
  rw [Table.find?_eq, ← hurl]
  exact find?_of_isBuilt (isBuilt_of_records hnames hrecords) hr

/-- The paths are those of the selected files. -/
theorem mem_urls_iff : url ∈ (assets.map Prod.snd).map Record.url ↔
    ∃ start name contents, o.pathStart = .text start ∧ url = start ++ name ∧
      IsSelected files directory name contents := by
  constructor
  · intro h
    obtain ⟨r, hr, rfl⟩ := List.mem_map.1 h
    obtain ⟨found, hgive, hassets⟩ := records_ok hrecords
    rw [hassets] at hr
    obtain ⟨before, name, hname, hrecord⟩ := hgive.exists_name r hr
    obtain ⟨start, hstart, hurl⟩ := url_of_record hrecord
    obtain ⟨_, held, _, hheld, _⟩ := record_ok hrecord
    obtain ⟨place, found, hspot⟩ := exists_spot hcollect hname
    obtain ⟨contents, hreads⟩ := (reads_underway_iff hw hspot).1 ⟨held, hheld⟩
    exact ⟨start, name, contents, hstart, hurl, (isSelected_iff hcollect).2 ⟨hname, hreads⟩⟩
  · rintro ⟨start, name, contents, hstart, rfl, hselected⟩
    obtain ⟨r, hr, ⟨before, hrecord⟩, _⟩ := made_of_isSelected hcollect hw hrecords hselected
    obtain ⟨start', hstart', hurl⟩ := url_of_record hrecord
    cases hstart.symm.trans hstart'
    exact List.mem_map.2 ⟨r, hr, hurl⟩

end

end Bundle

namespace Service

variable {s s' : Service} {directory output : Text} {o : BuildOptions} {n : Nat}

/-- The paths of a loaded table are strictly increasing, and are those of the selected files. Each
leads to the asset of its file as it was before, unless the draft was opened as that file. Any other
path leads to nothing. -/
theorem load_selection (hbuild : s.build directory (.text output) o = (.ok n, s'))
    (hproper : s.files.IsProper) (hextension : bundleExtension <:+ Path.clean output)
    (hopens : IsPlain s.files output ∨ OpensWritten s.files s'.files output) (register : Bool) :
    ∃ t, s'.load output register = (.ok t, if register then s'.setTable t else s') ∧
      t.urls.Pairwise (· < ·) ∧
      (∀ url, url ∈ t.urls ↔ ∃ start name contents, o.StartsWith start ∧ url = start ++ name ∧
        Bundle.IsSelected s.files directory name contents) ∧
      (∀ start name contents, o.StartsWith start →
        Bundle.IsSelected s.files directory name contents →
          ∃ r, t.find? (start ++ name) = some r ∧
            (¬ Bundle.LeadsToDraft s.files output (Path.join directory name) →
              (Bundle.record s.files directory name o.withPathStart).1 = .ok (some r))) ∧
      ∀ url, url ∉ t.urls → t.find? url = none := by
  obtain ⟨names, w, assets, hcollect, hw, hrecords, _, _, hload⟩ :=
    load_of_build hbuild hextension hopens
  have hurls : (Table.ofRecords (assets.map Prod.snd)).urls =
      (assets.map Prod.snd).map Record.url := rfl
  refine ⟨_, hload register, ?_, fun url => ?_, ?_, fun url hurl => ?_⟩
  · obtain ⟨found, hgive, hassets⟩ := Bundle.records_ok hrecords
    rw [hurls, hassets]
    exact hgive.urls_increasing (Bundle.names_increasing hproper hcollect)
  · rw [hurls, Bundle.mem_urls_iff hcollect hw hrecords]
    simp only [BuildOptions.startsWith_iff]
  · intro start name contents hstart hselected
    exact Bundle.find?_of_isSelected hcollect hw hrecords (Bundle.names_nodup hproper hcollect)
      (BuildOptions.startsWith_iff.1 hstart) hselected
  · rw [Table.find?_eq, List.find?_eq_none]
    intro r hr hsame
    exact hurl (List.mem_map.2 ⟨r, hr, by simpa using hsame⟩)

theorem exists_build
    (h : (Bundle.build s.files directory (.text output) o).outcome = .ok n) :
    ∃ s', s.build directory (.text output) o = (.ok n, s') ∧
      s'.files = (Bundle.build s.files directory (.text output) o).files :=
  ⟨_, Prod.ext h rfl, rfl⟩

theorem isPlain_linked : IsPlain Bundle.linked "new.py" := by
  have houtput : Bundle.linked.resolve .itself "new.py" = .ok (.free ["new.py"]) := rfl
  have hdraft : Bundle.linked.resolve .itself (Bundle.draftPath "new.py") =
      .ok (.free ["new.py.tmp"]) := rfl
  refine ⟨fun _ h => h, fun place target => ?_⟩
  rw [houtput, hdraft]
  exact ⟨by simp, by simp⟩

/-- Of the entries of a directory the three that can be read under admitted names are found, in
order, the link among them with what it leads to. -/
theorem load_selection_linked :
    let s := initial "" Bundle.linked
    ∃ s' t r, s.build "d" (.text "new.py") Bundle.storing = (.ok 3, s') ∧
      s'.load "new.py" false = (.ok t, s') ∧ t.urls = ["/B.CSS", "/a.html", "/c.js"] ∧
      t.find? "/a.html" = some r ∧
      (Bundle.record Bundle.linked "d" "a.html" Bundle.storing).1 = .ok (some r) ∧
      t.find? "/locked.html" = none := by
  intro s
  obtain ⟨s', hbuild, _⟩ := exists_build (s := s) Bundle.outcome_linked
  obtain ⟨t, hload, hsorted, hurls, hfind, hnone⟩ := load_selection hbuild
    (by unfold Tree.IsProper; decide) (by decide) (.inl isPlain_linked) false
  have hroot : Bundle.storing.StartsWith "/" := .inl ⟨rfl, by decide⟩
  have hselected : ∀ name contents, Bundle.IsSelected s.files "d" name contents ↔
      (name, contents) ∈ Bundle.shelved :=
    fun _ _ => Bundle.isSelected_iff_isSource.trans Bundle.isSource_linked
  have hmem : ∀ url, url ∈ t.urls ↔ url ∈ [("/B.CSS" : Text), "/a.html", "/c.js"] := by
    intro url
    rw [hurls]
    constructor
    · rintro ⟨start, name, contents, hstart, rfl, hsource⟩
      cases (BuildOptions.startsWith_iff.1 hroot).symm.trans (BuildOptions.startsWith_iff.1 hstart)
      exact List.mem_map_of_mem (f := fun source => ("/" : Text) ++ source.1)
        ((hselected name contents).1 hsource)
    · intro hurl
      obtain ⟨⟨name, contents⟩, hsource, rfl⟩ := List.mem_map.1
        (show url ∈ Bundle.shelved.map fun source => ("/" : Text) ++ source.1 from hurl)
      exact ⟨"/", name, contents, hroot, rfl, (hselected name contents).2 hsource⟩
  have hself : t.urls = ["/B.CSS", "/a.html", "/c.js"] :=
    hsorted.eq_of_mem_iff (by decide) hmem
  obtain ⟨r, hr, hown⟩ := hfind "/" "a.html" [60, 112, 62] hroot
    ((hselected _ _).2 (by decide))
  refine ⟨s', t, r, hbuild, hload, hself, hr, hown ?_, hnone _ ?_⟩
  · rintro ⟨w, contents, hw, hspot⟩
    have hw' : Bundle.linked.target (Bundle.draftPath "new.py") = .ok ["new.py.tmp"] := rfl
    cases hw'.symm.trans hw
    have hspot' : Bundle.linked.resolve .followed (Path.join "d" "a.html") =
        .ok (.node ["p"] (.file [60, 112, 62])) := rfl
    cases hspot'.symm.trans hspot
  · rw [hself]
    decide

/-- A file, and a link to a directory with a directory above it, beside a bundle of no assets. -/
def older : Tree := ⟨[(["www"], .directory), (["www", "a.html"], .file [60, 112, 62]),
  (["d"], .directory), (["d", "e"], .directory), (["l"], .link "d/e"),
  (["x.py"], .file ((Artifact.write (Artifact.entries [])).flatMap Utf8.encodePoint))], [], []⟩

/-- Behind a link that leads down, a step up leads to another directory than in a path that is
spelled out. So another bundle may be loaded than the one that was built. -/
theorem load_older :
    ∃ s', (initial "" older).build "www" (.text "l/../x.py") Bundle.storing = (.ok 1, s') ∧
      s'.load "l/../x.py" false = (.ok .empty, s') := by
  have houtcome : (Bundle.build older "www" (.text "l/../x.py") Bundle.storing).outcome = .ok 1 :=
    Tree.eq_ok_of_toOption (by decide +kernel)
  obtain ⟨s', hbuild, hfiles⟩ := exists_build (s := initial "" older) houtcome
  have hdraft : older.resolve .itself (Bundle.draftPath "l/../x.py") =
      .ok (.free ["d", "x.py.tmp"]) := Tree.eq_ok_of_toOption (by decide +kernel)
  have hentry : older.resolve .itself "l/../x.py" = .ok (.free ["d", "x.py"]) :=
    Tree.eq_ok_of_toOption (by decide +kernel)
  have hplace : older.target (Bundle.draftPath "l/../x.py") = .ok ["d", "x.py.tmp"] :=
    Tree.eq_ok_of_toOption (by decide +kernel)
  have hread : s'.files.read "x.py" =
      .ok ((Artifact.write (Artifact.entries [])).flatMap Utf8.encodePoint) := by
    obtain ⟨_, w, assets, _, _, hw, _, _, hrename⟩ := Bundle.build_ok houtcome
    cases hplace.symm.trans hw
    obtain ⟨entry, hentry', _, _, hafter⟩ := Tree.moved_of_rename hw
      (fun _ _ hlink => by cases hdraft.symm.trans hlink) hrename
    cases hentry.symm.trans hentry'
    rw [hfiles, show (initial "" older).files = older from rfl, hafter]
    rfl
  have htable : s'.tableAt "x.py" = .ok .empty := by
    rw [tableAt, if_neg (by decide), show Path.check "x.py" = .ok () from rfl, hread]
    exact Artifact.ofFile_write []
  refine ⟨s', hbuild, ?_⟩
  rw [load, show Path.clean "l/../x.py" = "x.py" by decide, loadAt, htable]
  rfl

theorem isSelected_throughLink :
    Bundle.IsSelected Bundle.throughLink "www" "a.html" [60, 112, 62] :=
  Bundle.isSelected_iff_isSource.2 (Bundle.isSource_throughLink.2 ⟨rfl, rfl⟩)

/-- A draft that is a link to a file empties it before it is read. -/
theorem load_throughLink :
    ∃ s' t r own, (initial "" Bundle.throughLink).build "www" (.text "out.py") Bundle.storing =
        (.ok 1, s') ∧ s'.load "out.py" false = (.ok t, s') ∧ t.find? "/a.html" = some r ∧
      (Bundle.record Bundle.throughLink "www" "a.html" Bundle.storing).1 = .ok (some own) ∧
      r ≠ own := by
  have houtcome :
      (Bundle.build Bundle.throughLink "www" (.text "out.py") Bundle.storing).outcome = .ok 1 :=
    Tree.eq_ok_of_toOption (by decide +kernel)
  obtain ⟨s', hbuild, hfiles⟩ := exists_build (s := initial "" Bundle.throughLink) houtcome
  have hplace : Bundle.throughLink.target (Bundle.draftPath "out.py") = .ok ["www", "a.html"] := rfl
  have hmoved : ∀ text, ∃ after,
      (Bundle.throughLink.set ["www", "a.html"] (.file text)).rename
        (Bundle.draftPath "out.py") "out.py" = .ok after ∧
      after.resolve .followed "out.py" = .ok (.node ["www", "a.html"] (.file text)) :=
    fun text => ⟨_, rfl, rfl⟩
  have hopens : OpensWritten Bundle.throughLink s'.files "out.py" := by
    obtain ⟨_, w, assets, _, _, hw, _, _, hrename⟩ := Bundle.build_ok houtcome
    cases hplace.symm.trans hw
    obtain ⟨after, hafter, hspot⟩ := hmoved _
    cases hafter.symm.trans hrename
    rw [hfiles]
    exact ⟨_, _, hspot, .inl hw⟩
  obtain ⟨names, w, assets, hcollect, hw, hrecords, _, _, hload⟩ := load_of_build hbuild
    (show bundleExtension <:+ Path.clean "out.py" by decide) (.inr hopens)
  cases Bundle.collect_throughLink.symm.trans hcollect
  obtain ⟨found, hgive, hassets⟩ := Bundle.records_ok hrecords
  obtain _ | ⟨hopened, hrest⟩ := hgive
  cases hrest
  -- what is read of the file when the draft has been opened, and what was read before
  have hempty : Bundle.contentsOf
      (Bundle.underway Bundle.throughLink (Bundle.draftPath "out.py") [])
      (Path.join "www" "a.html") = .ok (.ok []) := by
    rw [Bundle.underway_eq hplace, Bundle.reached_nil]
    rfl
  obtain ⟨r, rfl⟩ := Bundle.exists_of_reads rfl hempty hopened
  obtain ⟨start, hstart, hurl⟩ := Bundle.url_of_record hopened
  cases hstart
  have hr : (Table.ofRecords (assets.map Prod.snd)).find? "/a.html" = some r := by
    rw [Table.find?_eq, show (Table.ofRecords (assets.map Prod.snd)).toList = [r] from hassets]
    exact List.find?_cons_of_pos (decide_eq_true hurl)
  obtain ⟨own, hown⟩ := Bundle.exists_record (o := Bundle.storing)
    (ContentType.isSome_ofName?_iff.2 isSelected_throughLink.admitted)
    isSelected_throughLink.reads rfl rfl (by decide) (.inl rfl)
  refine ⟨s', _, r, own, hbuild, hload false, hr, hown, fun hsame => ?_⟩
  have hexpands := (Bundle.isFaithful_of_record hempty hopened).expands
  rw [hsame, (Bundle.isFaithful_of_record isSelected_throughLink.reads hown).expands] at hexpands
  cases hexpands

/-- A table that is loaded need not be that of the bundle that was built, and a file that the name
of the draft leads to is emptied before it is read. The file itself is no link. -/
theorem load_selection_elsewhere :
    (∃ s' t, older.IsProper ∧ Bundle.IsSelected older "www" "a.html" [60, 112, 62] ∧
      (initial "" older).build "www" (.text "l/../x.py") Bundle.storing = (.ok 1, s') ∧
      s'.load "l/../x.py" false = (.ok t, s') ∧ t.urls = []) ∧
    ∃ s' t r own, Bundle.throughLink.IsProper ∧
      Bundle.IsSelected Bundle.throughLink "www" "a.html" [60, 112, 62] ∧
      Bundle.throughLink.resolve .itself "www/a.html" =
        .ok (.node ["www", "a.html"] (.file [60, 112, 62])) ∧
      (initial "" Bundle.throughLink).build "www" (.text "out.py") Bundle.storing = (.ok 1, s') ∧
      s'.load "out.py" false = (.ok t, s') ∧ t.find? "/a.html" = some r ∧
      (Bundle.record Bundle.throughLink "www" "a.html" Bundle.storing).1 = .ok (some own) ∧
      r ≠ own := by
  have hsource : Bundle.IsSource older "www" "a.html" [60, 112, 62] :=
    (Bundle.isSource_iff_of_lone (show older.list "www" = .ok [("a.html" : Text)] from rfl) rfl).2
      ⟨rfl, rfl⟩
  obtain ⟨s', hbuild, hload⟩ := load_older
  obtain ⟨s'', t, r, own, hthrough⟩ := load_throughLink
  refine ⟨⟨s', .empty, ?_, Bundle.isSelected_iff_isSource.2 hsource, hbuild, hload, rfl⟩,
    s'', t, r, own, ?_, isSelected_throughLink, rfl, hthrough⟩
  · unfold Tree.IsProper
    decide
  · unfold Tree.IsProper
    decide

end Service
end AssetBundle
