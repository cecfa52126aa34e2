import AssetBundle.Proofs.Bundle.Faithful
import AssetBundle.Proofs.Bundle.Reading
import AssetBundle.Proofs.Files.Spelling
import AssetBundle.Service.State

/-!
# AssetBundle.Proofs.Bundle.RoundTrip

What is built is what is loaded. Loading opens the path of the output as it is spelled out. If that
leads to a file that the build wrote, it gives a table of exactly the assets that were built, in
their order (`load_build`). Behind a link it may lead elsewhere (`load_build_elsewhere`).
-/

namespace AssetBundle
namespace Service

variable {s s' : Service} {directory output : Text} {o : BuildOptions} {n : Nat}

/-- The path of a bundle that is spelled out is a path of a bundle. -/
theorem bundleExtension_clean (h : bundleExtension <:+ output) :
    bundleExtension <:+ Path.clean output := by
  obtain ⟨above, name, rfl, habove, hname⟩ := Path.exists_name output
  have hsuffix : bundleExtension <:+ name := by
    refine List.suffix_of_suffix_length_le h (List.suffix_append above name) (Nat.le_of_not_lt ?_)
    intro hshort
    rcases habove with rfl | ⟨front, rfl⟩
    · exact absurd h.length_le (Nat.not_le_of_lt hshort)
    · rw [List.append_assoc] at h
      have hslash := List.suffix_of_suffix_length_le
        (List.suffix_append front ([Path.slash] ++ name)) h
        (by simpa using Nat.succ_le_of_lt hshort)
      exact absurd (hslash.subset (List.mem_append_left _ List.mem_cons_self)) (by decide)
  have hlength : 3 ≤ name.length := hsuffix.length_le
  obtain ⟨front, hfront⟩ := Path.clean_name habove hname (by rintro rfl; cases hlength)
    (by rintro rfl; exact absurd hlength (by decide))
    (by rintro rfl; exact absurd hlength (by decide))
  rw [hfront]
  exact hsuffix.trans (List.suffix_append front name)

/-- A path can be stored if that of its draft can. -/
theorem check_of_draft (h : Path.check (Bundle.draftPath output) = .ok ()) :
    Path.check output = .ok () := by
  rw [Path.check_eq_ok_iff] at h ⊢
  exact ⟨fun c hc => h.1 c (List.mem_append_left _ hc),
    fun hzero => h.2 (List.mem_append_left _ hzero)⟩

/-- Whether the path that loading opens leads to a file that building wrote. -/
def OpensWritten (before after : Tree) (output : Text) : Prop :=
  ∃ place contents,
    after.resolve .followed (Path.clean output) = .ok (.node place (.file contents)) ∧
      before.IsWritten output place

/-- Whether a path names the same entry when it is spelled out, and neither it nor its draft is a
link. -/
def IsPlain (files : Tree) (output : Text) : Prop :=
  (∀ spot, files.resolve .itself output = .ok spot →
    files.resolve .itself (Path.clean output) = .ok spot) ∧
    ∀ place target, files.resolve .itself output ≠ .ok (.node place (.link target)) ∧
      files.resolve .itself (Bundle.draftPath output) ≠ .ok (.node place (.link target))

theorem opensWritten_of_isPlain (hplain : IsPlain s.files output)
    (hbuild : s.build directory (.text output) o = (.ok n, s')) :
    OpensWritten s.files s'.files output := by
  have houtcome : (Bundle.build s.files directory (.text output) o).outcome = .ok n :=
    congrArg Prod.fst hbuild
  have hfiles : (Bundle.build s.files directory (.text output) o).files = s'.files :=
    congrArg (fun built => built.2.files) hbuild
  obtain ⟨_, w, _, _, _, hw, _, _, hrename⟩ := Bundle.build_ok houtcome
  rw [hfiles] at hrename
  obtain ⟨hsame, hlinks⟩ := hplain
  obtain ⟨place, hplace, hwritten⟩ := Tree.resolve_of_rename hw
    (fun place target => (hlinks place target).2) (fun place target => (hlinks place target).1)
    hsame hrename
  exact ⟨place, _, hplace, hwritten⟩

/-- Where the path that is opened leads to a file that the build wrote, the table of the assets is
loaded. -/
theorem load_of_build (hbuild : s.build directory (.text output) o = (.ok n, s'))
    (hextension : bundleExtension <:+ Path.clean output)
    (hopens : IsPlain s.files output ∨ OpensWritten s.files s'.files output) :
    ∃ names w assets,
      Bundle.collect s.files directory = .ok names ∧
      s.files.target (Bundle.draftPath output) = .ok w ∧
      (Bundle.records (Bundle.underway s.files (Bundle.draftPath output)) directory
        o.withPathStart [] names).1 = .ok assets ∧
      n = assets.length ∧
      s'.files.read (Path.clean output) =
        .ok ((Artifact.write (Artifact.entries assets)).flatMap Utf8.encodePoint) ∧
      ∀ register, s'.load output register =
        (.ok (.ofRecords (assets.map Prod.snd)),
          if register then s'.setTable (.ofRecords (assets.map Prod.snd)) else s') := by
  obtain ⟨place, contents, hopened, hwritten⟩ : OpensWritten s.files s'.files output :=
    hopens.elim (fun hplain => opensWritten_of_isPlain hplain hbuild) id
  have houtcome : (Bundle.build s.files directory (.text output) o).outcome = .ok n :=
    congrArg Prod.fst hbuild
  have hfiles : (Bundle.build s.files directory (.text output) o).files = s'.files :=
    congrArg (fun built => built.2.files) hbuild
  obtain ⟨names, w, assets, hcollect, hcheck, hw, hrecords, hn, hrename⟩ :=
    Bundle.build_ok houtcome
  rw [hfiles] at hrename
  have hcontents : contents =
      (Artifact.write (Artifact.entries assets)).flatMap Utf8.encodePoint :=
    Tree.file_of_rename hw hrename hwritten (Tree.at?_of_resolve hopened (by simp))
  subst hcontents
  have hread : s'.files.read (Path.clean output) =
      .ok ((Artifact.write (Artifact.entries assets)).flatMap Utf8.encodePoint) := by
    rw [Tree.read, Tree.find, hopened]
  have htable : s'.tableAt (Path.clean output) = .ok (Table.ofRecords (assets.map Prod.snd)) := by
    rw [tableAt, List.isSuffixOf_iff_suffix.2 hextension,
      Path.check_clean (check_of_draft hcheck), hread, if_neg (by decide)]
    dsimp only
    rw [Artifact.ofFile_write]
  refine ⟨names, w, assets, hcollect, hw, hrecords, hn, hread, fun register => ?_⟩
  rw [load, loadAt, htable]

/-- What is built is what is loaded, if the output is plain, or the path that is opened leads to a
file that the build wrote in any other way. Each file gives what it holds when it is its turn. -/
theorem load_build (hbuild : s.build directory (.text output) o = (.ok n, s'))
    (hextension : bundleExtension <:+ output)
    (hopens : IsPlain s.files output ∨ OpensWritten s.files s'.files output) (register : Bool) :
    ∃ (names : List Text) (w : Place) (found : List (Option Record)) (t : Table)
      (contents : Bytes) (text : Text) (bindings : Reader.Names),
      Bundle.collect s.files directory = .ok names ∧
      s.files.target (Bundle.draftPath output) = .ok w ∧
      Bundle.Give (Bundle.underway s.files (Bundle.draftPath output)) directory o.withPathStart []
        names found ∧
      s'.load output register = (.ok t, if register then s'.setTable t else s') ∧
      t.toList = found.filterMap id ∧ t.size = n ∧
      s'.files.read (Path.clean output) = .ok contents ∧
      Utf8.decodeOrFail contents = .ok text ∧ Reader.names? text = some bindings ∧
      bindings.lookup Artifact.countName = some (.int n) := by
  obtain ⟨names, w, assets, hcollect, hw, hrecords, rfl, hread, hload⟩ :=
    load_of_build hbuild (bundleExtension_clean hextension) hopens
  obtain ⟨found, hgive, hassets⟩ := Bundle.records_ok hrecords
  obtain ⟨bindings, hbindings, hcount⟩ := Option.bind_eq_some_iff.1 (Artifact.lookup_count assets)
  refine ⟨names, w, found, Table.ofRecords (assets.map Prod.snd), _, _, bindings, hcollect, hw,
    hgive, hload register, hassets, ?_, hread, ?_, hbindings, hcount⟩
  · simp [Table.size, Table.ofRecords]
  · exact Artifact.decode_write fun _ he => Artifact.isConstant_of_mem he

theorem isPlain_oneFile : IsPlain Bundle.oneFile "/out.py" := by
  have houtput : Bundle.oneFile.resolve .itself "/out.py" =
      .ok (.node ["out.py"] (.file [111, 108, 100])) := rfl
  have hdraft : Bundle.oneFile.resolve .itself (Bundle.draftPath "/out.py") =
      .ok (.node ["out.py.tmp"] (.file [120])) := rfl
  refine ⟨fun _ h => h, fun place target => ?_⟩
  rw [houtput, hdraft]
  exact ⟨by simp, by simp⟩

theorem load_build_oneFile :
    ∃ (s' : Service) (t : Table),
      (initial "" Bundle.oneFile).build "/www" (.text "/out.py") .standard = (.ok 1, s') ∧
        s'.load "/out.py" false = (.ok t, s') ∧ t.size = 1 := by
  have hkind : ((initial "" Bundle.oneFile).build "/www" (.text "/out.py") .standard).1.mapError
      Failure.kind = .ok 1 := by decide +kernel
  have hbuild : ∃ s', (initial "" Bundle.oneFile).build "/www" (.text "/out.py") .standard =
      (.ok 1, s') := by
    cases hrun : (initial "" Bundle.oneFile).build "/www" (.text "/out.py") .standard with
    | mk outcome s' =>
      rw [hrun] at hkind
      cases outcome with
      | error e => cases hkind
      | ok n =>
        cases hkind
        exact ⟨s', rfl⟩
  obtain ⟨s', hbuild⟩ := hbuild
  obtain ⟨_, _, _, t, _, _, _, _, _, _, hload, _, hsize, _⟩ :=
    load_build hbuild (by decide) (.inl isPlain_oneFile) false
  exact ⟨s', t, hbuild, hload, hsize⟩

/-- A link to a directory, with a directory above it; and a link in place of the draft of `p.py`. -/
def crossed : Tree := ⟨[(["www"], .directory), (["d"], .directory), (["d", "e"], .directory),
  (["l"], .link "d/e"), (["p.py.tmp"], .link "p.py")], [], []⟩

/-- A bundle is not found where a link leads down and a step leads up again, since a path that is
spelled out drops both. And a draft that is a link is moved in place of what was written. -/
theorem load_build_elsewhere :
    let s := initial "" crossed
    let behindLink := s.build "www" (.text "l/../x.py") .standard
    let overLink := s.build "www" (.text "p.py") .standard
    (behindLink.1.mapError Failure.kind = .ok 0 ∧
      ((behindLink.2.load "l/../x.py" false).1.map Table.size).mapError Failure.kind =
        .error "FileNotFoundError") ∧
    overLink.1.mapError Failure.kind = .ok 0 ∧
      ((overLink.2.load "p.py" false).1.map Table.size).mapError Failure.kind =
        .error "OSError" := by
  decide +kernel

end Service
end AssetBundle
