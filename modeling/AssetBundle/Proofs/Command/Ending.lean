import AssetBundle.Command.Run
import AssetBundle.Proofs.Bundle.Atomic
import AssetBundle.Proofs.Bundle.Faithful
import AssetBundle.Proofs.Bundle.Reading
import AssetBundle.Proofs.Command.Line

/-!
# AssetBundle.Proofs.Command.Ending

How the command ends. A build of what a command line asks for fails because the file system refuses
its directory or its output, because the coder refuses the level, because a path has no form in
bytes or the output is no path (`failsFor_of_build`). The first two are reported, the others let
out, and so is a level that is no machine integer (`reported_or_letsOut`). So the command succeeds
with a complete bundle, or reports a failure and leaves the output as it was, as long as the draft
is no link (`run_ends`). Behind a link it may do neither.
-/

namespace AssetBundle

/-- Whether the last step of a path is no link. -/
def Tree.NamesNoLink (t : Tree) (path : Text) : Prop :=
  ∀ place target, t.resolve .itself path ≠ .ok (.node place (.link target))

namespace Bundle

variable {files : Tree} {directory name : Text} {output : Value} {o : BuildOptions} {e : Failure}

theorem check_of_contentsOf {path : Text} (h : contentsOf files path = .error e) :
    Path.check path = .error e := by
  unfold contentsOf at h
  split at h
  · next hcheck =>
    cases h
    exact hcheck
  · split at h <;> cases h

/-- A file of an admitted type fails to become an asset because its path has no form in bytes, or
because the coder refuses the level. -/
theorem record_refused (ho : o.AreSound) (hname : (ContentType.ofName? name).isSome = true)
    (h : (record files directory name o).1 = .error e) :
    Path.check (Path.join directory name) = .error e ∨
      ∃ contents, contentsOf files (Path.join directory name) = .ok (.ok contents) ∧
        Gzip.compress (.bytes contents) o.level = .error e := by
  obtain ⟨contentType, htype⟩ := Option.isSome_iff_exists.1 hname
  rw [record, htype] at h
  dsimp only at h
  split at h
  · next hcontents =>
    cases h
    exact .inl (check_of_contentsOf hcontents)
  · cases h
  next contents hcontents =>
    refine .inr ⟨contents, hcontents, ?_⟩
    cases hpayload : Gzip.compress (.bytes contents) o.level with
    | error e' =>
      rw [assetOf, hpayload] at h
      cases h
      rfl
    | ok payload =>
      obtain ⟨start, hstart⟩ := ho.pathStart
      obtain ⟨hs, hheaders⟩ := @exists_revalidating contentType o.maxAge
        (Validator.ofBytes contents) ho.maxAge
      have hparse := Headers.parse_print_revalidating (Headers.isPlain_contentType htype)
        not_return_mem_validator hheaders
      rw [assetOf, hpayload] at h
      dsimp only at h
      rw [hheaders, hstart] at h
      dsimp only [BuildOptions.urlOf] at h
      rw [Record.ofParts_eq hparse] at h
      cases h

/-- The complete draft is not moved because the file system refuses it, or the output is no path. -/
theorem publish_refused {w : Place} {assets : List (Text × Record)}
    (hw : files.target (draftPath output.written) = .ok w)
    (h : publish (files.set w (.file [])) output assets = .error e) :
    (∃ path reason, e = .outputWrite path reason) ∨
      ((∀ path, output ≠ .text path) ∧ e = .noPath output.typeName) := by
  rw [publish_set hw] at h
  unfold moveOnto at h
  split at h
  · split at h
    · cases h
    · cases h
      exact .inl ⟨_, _, rfl⟩
  · next hnone =>
    cases h
    exact .inr ⟨fun path hpath => hnone path hpath, rfl⟩

theorem output_of_build {n : Nat} (h : (build files directory output o).outcome = .ok n) :
    ∃ path, output = .text path := by
  rcases build_cases files directory output o with
    ⟨_, _, _, _, hbuild⟩ | ⟨names, w, _, _, hw, hbuild⟩
  · rw [hbuild] at h
    cases h
  · rw [hbuild, fill] at h
    dsimp only at h
    split at h
    · cases h
    · split at h
      · cases h
      next hpublish =>
        rw [publish_set hw] at hpublish
        unfold moveOnto at hpublish
        split at hpublish
        · exact ⟨_, rfl⟩
        · cases hpublish

/-- The paths that a build opens. -/
inductive Opens (files : Tree) (directory : Text) (output : Value) : Text → Prop where
  | directory : Opens files directory output directory
  | draft : Opens files directory output (draftPath output.written)
  | file {names : List Text} {name : Text} : collect files directory = .ok names → name ∈ names →
    Opens files directory output (Path.join directory name)

/-- Why a build of sound options fails. -/
inductive FailsFor (files : Tree) (directory : Text) (output level : Value) (e : Failure) :
    Prop where
  /-- The file system refuses the directory or the output. -/
  | system : Command.isReported e = true → e.kind = "BuildError" →
    FailsFor files directory output level e
  | level {contents : Bytes} : Gzip.compress (.bytes contents) level = .error e →
    FailsFor files directory output level e
  /-- A path has no form in bytes. -/
  | path {path : Text} : Opens files directory output path → Path.check path = .error e →
    FailsFor files directory output level e
  | output : (∀ path, output ≠ .text path) → e = .noPath output.typeName →
    FailsFor files directory output level e

theorem records_refused {seen : List (Text × Record) → Tree} {names : List Text}
    (ho : o.AreSound) (hcollect : collect files directory = .ok names)
    (h : (records seen directory o.withPathStart [] names).1 = .error e) :
    (∃ path, Opens files directory output path ∧ Path.check path = .error e) ∨
      ∃ contents, Gzip.compress (.bytes contents) o.level = .error e := by
  obtain ⟨_, name, hname, hrecord⟩ := records_error h
  rcases record_refused ho.withPathStart (admitted_of_collect hcollect name hname) hrecord with
    hpath | ⟨contents, _, hlevel⟩
  · exact .inl ⟨_, .file hcollect hname, hpath⟩
  · rw [level_withPathStart] at hlevel
    exact .inr ⟨contents, hlevel⟩

theorem failsFor_of_build (ho : o.AreSound)
    (h : (build files directory output o).outcome = .error e) :
    FailsFor files directory output o.level e := by
  rcases build_cases files directory output o with
    ⟨point, e', hpoint, hfront, hbuild⟩ | ⟨names, w, _, hcollect, hw, hbuild⟩
  · rw [hbuild] at h
    cases h
    cases point with
    | age => cases hpoint.symm.trans ho.withPathStart.checkAge
    | directoryPath => exact .path .directory hpoint
    | draftPath => exact .path .draft hpoint
    | listing =>
      obtain ⟨errno, _, rfl⟩ := hpoint
      exact .system rfl rfl
    | creating =>
      obtain ⟨errno, _, rfl⟩ := hpoint
      exact .system rfl rfl
    | _ => cases hfront
  · rw [hbuild, fill] at h
    dsimp only at h
    split at h
    · next hrecords =>
      cases h
      rcases records_refused ho hcollect (by rw [hrecords]) with
        ⟨path, hopens, hcheck⟩ | ⟨contents, hlevel⟩
      · exact .path hopens hcheck
      · exact .level hlevel
    · split at h
      · next hpublish =>
        cases h
        rcases publish_refused hw hpublish with ⟨path, reason, rfl⟩ | ⟨houtput, hnoPath⟩
        · exact .system rfl rfl
        · exact .output houtput hnoPath
      · cases h

theorem ofValue_ok {level : Value} {size : Nat} {own : Gzip.Level}
    (h : Gzip.Level.ofValue level size = .ok own) (other : Nat) :
    Gzip.Level.ofValue level other = .ok own := by
  have hcheck : ∀ n : Int, Gzip.Level.ofValue (.int n) size = .ok own →
      Gzip.Level.ofValue (.int n) other = .ok own := by
    intro n hn
    dsimp only [Gzip.Level.ofValue] at hn ⊢
    split at hn
    · cases hn
    next hsmall =>
      rw [if_neg hsmall]
      split at hn
      · next hlevel => rw [dif_pos hlevel, hn]
      · cases hn
  cases level with
  | int n => exact hcheck n h
  | bool b => exact hcheck _ h
  | _ => cases h

/-- A level that is refused for some contents is refused for all. -/
theorem compress_refused {s : Bytes} {level : Value}
    (h : Gzip.compress (.bytes s) level = .error e) (t : Bytes) :
    ∃ e', Gzip.compress (.bytes t) level = .error e' := by
  rw [Gzip.compress] at h ⊢
  dsimp only [Value.toBytes?] at h ⊢
  cases hlevel : Gzip.Level.ofValue level t.length with
  | error e' => exact ⟨e', rfl⟩
  | ok own =>
    rw [ofValue_ok hlevel] at h
    cases h

/-- If the level is refused for a file, it is not only the others that give an asset. -/
theorem records_of_refused {draft : Text} {w : Place} {names : List Text} {contents : Bytes}
    (hcollect : collect files directory = .ok names) (hname : name ∈ names)
    (hw : files.target draft = .ok w)
    (hcontents : contentsOf files (Path.join directory name) = .ok (.ok contents))
    (hlevel : Gzip.compress (.bytes contents) o.level = .error e) :
    ∃ e', (records (underway files draft) directory o [] names).1 = .error e' := by
  cases hrecords : (records (underway files draft) directory o [] names).1 with
  | error e' => exact ⟨e', rfl⟩
  | ok assets =>
    obtain ⟨found, hgive, _⟩ := records_ok hrecords
    obtain ⟨before, result, hresult, _⟩ := hgive.exists_result name hname
    obtain ⟨contentType, htype⟩ :=
      Option.isSome_iff_exists.1 (admitted_of_collect hcollect name hname)
    obtain ⟨place, own, hspot⟩ := exists_spot hcollect hname
    obtain ⟨held, hheld⟩ := (reads_underway_iff hw hspot).2 ⟨contents, hcontents⟩
    obtain ⟨e', hrefused⟩ := compress_refused hlevel held
    rw [record, htype] at hresult
    dsimp only at hresult
    rw [hheld] at hresult
    dsimp only at hresult
    rw [assetOf, hrefused] at hresult
    cases hresult

/-- Whether the coder refuses the level for one of the files of a directory that can be read, if the
draft can be opened. -/
inductive IsRefused (files : Tree) (directory : Text) (output level : Value) : Prop where
  | file {names : List Text} {w : Place} {name : Text} {contents : Bytes} {e : Failure} :
    collect files directory = .ok names → files.target (draftPath output.written) = .ok w →
    name ∈ names → contentsOf files (Path.join directory name) = .ok (.ok contents) →
    Gzip.compress (.bytes contents) level = .error e → IsRefused files directory output level

theorem build_of_isRefused (ho : o.AreSound) (h : IsRefused files directory output o.level) :
    ∃ e, (build files directory output o).outcome = .error e ∧
      ((∃ path, Opens files directory output path ∧ Path.check path = .error e) ∨
        ∃ contents, Gzip.compress (.bytes contents) o.level = .error e) := by
  obtain @⟨names, w, name, contents, e, hcollect, hw, hname, hcontents, hlevel⟩ := h
  rw [build]
  dsimp only
  rw [ho.withPathStart.checkAge]
  dsimp only
  rw [hcollect]
  dsimp only
  cases hcheck : Path.check (draftPath output.written) with
  | error e' => exact ⟨e', rfl, .inl ⟨_, .draft, hcheck⟩⟩
  | ok =>
    rw [← level_withPathStart o] at hlevel
    -- One file fails, but the build ends with the first that does, which may be another one.
    obtain ⟨e', hrecords⟩ := records_of_refused hcollect hname hw hcontents hlevel
    rw [Tree.write, hw]
    dsimp only
    rw [fill]
    dsimp only
    rw [underway_opened hw]
    split
    · next e'' log hrun =>
      rw [hrun] at hrecords
      cases hrecords
      exact ⟨e', rfl, records_refused ho hcollect (by rw [hrun])⟩
    · next hrun =>
      rw [hrun] at hrecords
      cases hrecords

end Bundle

/-- Whether the output of a command line is a complete bundle: the text of the assets of its
directory stands where the output was, and is read as a table of them. -/
def Line.IsComplete (line : Line) (before after : Tree) : Prop :=
  ∃ (path : Text) (names : List Text) (w : Place) (assets : List (Text × Record))
    (entry : Tree.Spot),
    let text := (Artifact.write (Artifact.entries assets)).flatMap Utf8.encodePoint
    line.output = .text path ∧
    Bundle.collect before line.directory.written = .ok names ∧
    before.target (Bundle.draftPath path) = .ok w ∧
    (Bundle.records (Bundle.underway before (Bundle.draftPath path)) line.directory.written
      line.options.withPathStart [] names).1 = .ok assets ∧
    before.resolve .itself path = .ok entry ∧ after.at? entry.place = some (.file text) ∧
    (before.NamesNoLink path → after.read path = .ok text) ∧
    Reader.ofFile text = .ok (.ofRecords (assets.map Prod.snd))

namespace Command

/-- The command ends with the report of a failure. -/
structure Reports (ran : Ran) (e : Failure) : Prop where
  exit : ran.exit = .ok (.done 1)
  complaints : ran.complaints = report e

/-- What the command does not report: a level that is no machine integer, a path that has no form in
bytes, and an output that is no path. -/
inductive LetsOut (line : Line) (files : Tree) (e : Failure) : Prop where
  | level {n : Int} : line.options.level = .int n → ¬ (-2147483648 ≤ n ∧ n ≤ 2147483647) →
    e.kind = "OverflowError" → LetsOut line files e
  | path {path : Text} : Bundle.Opens files line.directory.written line.output path →
    Path.check path = .error e → LetsOut line files e
  | output : (∀ path, line.output ≠ .text path) → LetsOut line files e

variable {line : Line} {files : Tree} {e : Failure} {n : Nat}

theorem isComplete_of_build (hdraft : files.NamesNoLink (Bundle.draftPath line.output.written))
    (h : (Bundle.build files line.directory.written line.output line.options).outcome = .ok n) :
    line.IsComplete files
      (Bundle.build files line.directory.written line.output line.options).files := by
  obtain ⟨path, houtput⟩ := Bundle.output_of_build h
  rw [houtput] at h hdraft ⊢
  obtain ⟨names, w, assets, hcollect, _, hw, hrecords, _, hrename⟩ := Bundle.build_ok h
  obtain ⟨entry, hentry, hisEntry, _, hafter⟩ := Tree.moved_of_rename hw hdraft hrename
  have hway : files.isOnWay entry.place = false := Tree.not_isOnWay_of_resolve hentry hisEntry
  refine ⟨path, names, w, assets, entry, houtput, hcollect, hw, hrecords, hentry, ?_, ?_,
    Artifact.ofFile_write ..⟩
  · rw [hafter]
    exact (Tree.at?_set (t := (files.set w (.file _)).erase w) hway _ _).trans (if_pos rfl)
  · intro hplain
    obtain ⟨place, hplace, _⟩ := Tree.resolve_of_rename hw hdraft hplain (fun _ h => h) hrename
    rw [Tree.read, Tree.find, hplace]

theorem isReported_of_check {path : Text} (h : Path.check path = .error e) :
    isReported e = false := by
  unfold Path.check at h
  split at h
  · cases h
    rfl
  · split at h <;> cases h
    rfl

theorem reported_of_compress {level : Int} {contents : Bytes}
    (hmachine : -2147483648 ≤ level ∧ level ≤ 2147483647)
    (h : Gzip.compress (.bytes contents) (.int level) = .error e) :
    isReported e = true ∧ e.kind = "CompressionError" := by
  rw [Bundle.eq_refusal h, Bundle.refusal, if_pos hmachine]
  exact ⟨rfl, rfl⟩

theorem letOut_of_compress {level : Int} {contents : Bytes}
    (hmachine : ¬ (-2147483648 ≤ level ∧ level ≤ 2147483647))
    (h : Gzip.compress (.bytes contents) (.int level) = .error e) :
    isReported e = false ∧ e.kind = "OverflowError" := by
  rw [Bundle.eq_refusal h, Bundle.refusal, if_neg hmachine]
  exact ⟨rfl, rfl⟩

theorem reported_or_letsOut (hread : line.IsRead)
    (h : (Bundle.build files line.directory.written line.output line.options).outcome = .error e) :
    (isReported e = true ∧ e.kind ∈ (["BuildError", "CompressionError"] : List Text)) ∨
      (isReported e = false ∧ LetsOut line files e) := by
  cases Bundle.failsFor_of_build hread.options h with
  | system hreported hkind => exact .inl ⟨hreported, by simp [hkind]⟩
  | path hopens hcheck => exact .inr ⟨isReported_of_check hcheck, .path hopens hcheck⟩
  | output houtput hnoPath => exact .inr ⟨by rw [hnoPath]; rfl, .output houtput⟩
  | level hrefused =>
    obtain ⟨level, hlevel⟩ := hread.level
    rw [hlevel] at hrefused
    by_cases hmachine : -2147483648 ≤ level ∧ level ≤ 2147483647
    · obtain ⟨hreported, hkind⟩ := reported_of_compress hmachine hrefused
      exact .inl ⟨hreported, by simp [hkind]⟩
    · obtain ⟨hreported, hkind⟩ := letOut_of_compress hmachine hrefused
      exact .inr ⟨hreported, .level hlevel hmachine hkind⟩

theorem act_of_ok
    (h : (Bundle.build files line.directory.written line.output line.options).outcome = .ok n) :
    (act line files).exit = .ok (.done 0) ∧ (act line files).complaints = [] := by
  rw [act, h]
  exact ⟨rfl, rfl⟩

theorem act_of_error
    (h : (Bundle.build files line.directory.written line.output line.options).outcome = .error e) :
    if isReported e then Reports (act line files) e
    else (act line files).exit = .error e := by
  rw [act, h]
  dsimp only
  split
  · exact ⟨rfl, rfl⟩
  · rfl

theorem act_files (line : Line) (files : Tree) :
    (act line files).printed = [] ∧ (act line files).files =
      (Bundle.build files line.directory.written line.output line.options).files := by
  rw [act]
  split
  · exact ⟨rfl, rfl⟩
  · split <;> exact ⟨rfl, rfl⟩

/-- How the command ends when its line is read. It succeeds, and then its output is a complete
bundle; or it reports a failure of building or of compression, and then the output is as it was;
or one of few failures is let out. That holds of the output as long as its draft is no link. A level
that is refused is reported, unless it is no machine integer or a path has no form in bytes. -/
theorem run_ends {texts : List Text} (hline : Line.ofTexts texts = .ok line) (files : Tree) :
    let ran := run texts files
    let draft := Bundle.draftPath line.output.written
    ran.printed = [] ∧
    ((ran.exit = .ok (.done 0) ∧ ran.complaints = [] ∧
        (files.NamesNoLink draft → line.IsComplete files ran.files)) ∨
      (∃ e : Failure, Reports ran e ∧
        e.kind ∈ (["BuildError", "CompressionError"] : List Text) ∧
        (files.NamesNoLink draft → (ran.files.resolve .itself line.output.written).toOption =
          (files.resolve .itself line.output.written).toOption)) ∨
      ∃ e, ran.exit = .error e ∧ LetsOut line files e) ∧
    ∀ level, line.options.level = .int level →
      Bundle.IsRefused files line.directory.written line.output (.int level) →
      (-2147483648 ≤ level ∧ level ≤ 2147483647 ∧
        ∃ e : Failure, Reports ran e ∧ e.kind = "CompressionError") ∨
      (¬ (-2147483648 ≤ level ∧ level ≤ 2147483647) ∧
        ∃ e : Failure, ran.exit = .error e ∧ e.kind = "OverflowError") ∨
      ∃ path e, ran.exit = .error e ∧ Path.check path = .error e ∧
        Bundle.Opens files line.directory.written line.output path := by
  dsimp only
  have hrun : run texts files = act line files := by rw [run, hline]
  have hread := Line.isRead_of_ofTexts hline
  obtain ⟨hprinted, hfiles⟩ := act_files line files
  rw [hrun, hfiles]
  refine ⟨hprinted, ?_, ?_⟩
  · cases houtcome : (Bundle.build files line.directory.written line.output
        line.options).outcome with
    | ok n =>
      obtain ⟨hexit, hsilent⟩ := act_of_ok houtcome
      exact .inl ⟨hexit, hsilent, fun hdraft => isComplete_of_build hdraft houtcome⟩
    | error e =>
      have hact := act_of_error houtcome
      rcases reported_or_letsOut hread houtcome with ⟨hreported, hkind⟩ | ⟨hreported, hletsOut⟩
      · rw [if_pos hreported] at hact
        exact .inr (.inl ⟨e, hact, hkind, fun hdraft => Bundle.resolve_of_error hdraft houtcome⟩)
      · rw [hreported] at hact
        exact .inr (.inr ⟨e, hact, hletsOut⟩)
  · intro level hlevel hrefused
    rw [← hlevel] at hrefused
    obtain ⟨e, houtcome, hpath | ⟨contents, hcompress⟩⟩ :=
      Bundle.build_of_isRefused hread.options hrefused
    · obtain ⟨path, hopens, hcheck⟩ := hpath
      have hact := act_of_error houtcome
      rw [isReported_of_check hcheck] at hact
      exact .inr (.inr ⟨path, e, hact, hcheck, hopens⟩)
    · rw [hlevel] at hcompress
      have hact := act_of_error houtcome
      by_cases hmachine : -2147483648 ≤ level ∧ level ≤ 2147483647
      · obtain ⟨hreported, hkind⟩ := reported_of_compress hmachine hcompress
        rw [if_pos hreported] at hact
        exact .inl ⟨hmachine.1, hmachine.2, e, hact, hkind⟩
      · obtain ⟨hreported, hkind⟩ := letOut_of_compress hmachine hcompress
        rw [hreported] at hact
        exact .inr (.inl ⟨hmachine, e, hact, hkind⟩)

/-- At a level that there is not the failure is reported, and the older output stays. -/
theorem run_ends_refused :
    let ran := run ["www", "out.py", "--level", "10"] Bundle.oneFile
    (∃ e : Failure, Reports ran e ∧ e.kind = "CompressionError") ∧
      (ran.files.resolve .itself "out.py").toOption =
        (Bundle.oneFile.resolve .itself "out.py").toOption := by
  intro ran
  let line : Line := ⟨.text "www", .text "out.py", ⟨.text "/", .int 10, .none⟩, false⟩
  have hline : Line.ofTexts ["www", "out.py", "--level", "10"] = .ok line := rfl
  obtain ⟨_, hends, hrefused⟩ := run_ends hline Bundle.oneFile
  have hopens : ∀ path e, Bundle.Opens Bundle.oneFile "www" (.text "out.py") path →
      Path.check path ≠ .error e := by
    rintro path e hopens
    cases hopens with
    | directory => exact nofun
    | draft => exact nofun
    | file hcollect hname =>
      cases Bundle.collect_oneFile.symm.trans hcollect
      cases List.mem_singleton.1 hname
      exact nofun
  have hdraft : Bundle.oneFile.NamesNoLink (Bundle.draftPath "out.py") := by
    intro place target h
    cases (show Bundle.oneFile.resolve .itself (Bundle.draftPath "out.py") =
      .ok (.node ["out.py.tmp"] (.file [120])) from rfl).symm.trans h
  have hfile : Bundle.IsRefused Bundle.oneFile "www" (.text "out.py") (.int 10) :=
    @Bundle.IsRefused.file _ _ _ _ _ ["out.py.tmp"] "a.html" [60, 112, 62] _
      Bundle.collect_oneFile rfl (List.mem_singleton.2 rfl) rfl rfl
  rcases hrefused 10 rfl hfile with
    ⟨_, _, e, hreports, hkind⟩ | ⟨hmachine, _⟩ | ⟨path, e, _, hcheck, h⟩
  · refine ⟨⟨e, hreports, hkind⟩, ?_⟩
    rcases hends with ⟨hdone, _⟩ | ⟨_, _, _, hkept⟩ | ⟨_, hout, _⟩
    · cases hreports.exit.symm.trans hdone
    · exact hkept hdraft
    · cases hreports.exit.symm.trans hout
  · exact absurd (by decide) hmachine
  · exact absurd hcheck (hopens path e h)

/-- A level that is no machine integer is refused by no failure of compression. -/
example : (run ["www", "out.py", "--level", "2147483648"] Bundle.oneFile).exit.mapError
    Failure.kind = .error "OverflowError" := by
  decide +kernel

/-- One admitted file, an output from earlier on, and a link to it in place of its draft. -/
def overLink : Tree := ⟨[(["www"], .directory), (["www", "a.html"], .file [60, 112, 62]),
  (["p.py"], .file [111, 108, 100]), (["p.py.tmp"], .link "p.py")], [], []⟩

/-- A draft that is a link is moved in place of what was written, though the command succeeds; and a
command that fails has written over the output. -/
example :
    let built := run ["www", "p.py", "--level", "0"] overLink
    let failed := run ["www", "p.py", "--level", "10"] overLink
    (built.exit.toOption = some (.done 0) ∧ built.files.read "p.py" = .error .tooManyLinks) ∧
      failed.exit.toOption = some (.done 1) ∧ overLink.read "p.py" = .ok [111, 108, 100] ∧
      failed.files.read "p.py" = .ok (Artifact.prelude.flatMap Utf8.encodePoint) := by
  decide +kernel

end Command
end AssetBundle
