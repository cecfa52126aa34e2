import AssetBundle.Proofs.Bundle.Reading
import AssetBundle.Proofs.Gateway.Scope
import AssetBundle.Proofs.Http.Decision
import AssetBundle.Service.Apps
import AssetBundle.Service.Launching

/-!
# AssetBundle.Proofs.Service.Launching

What the launched application serves. Launching an application without a path makes it the served
one, and launching a bundle makes its table the active one (`appPath_ok`). So a bundle does not take
the place of an application that was launched before it: the launched application goes on to answer
as that application does, and as one over the active table only if there is none (`call_launched`).

* `Launches`: the states of a process that is launched again and again.
* `Launches.isReady`: in all of them the table of a bundle is loaded when it is asked for.
* `keeps_call`: answering keeps what was launched.
-/

namespace AssetBundle
namespace Service

/-- Whether a process kept what was launched. -/
structure Keeps (s s' : Service) : Prop where
  chosen : s'.registry.chosen = s.registry.chosen
  served : s'.served = s.served
  bundle : s'.bundle = s.bundle

/-- The processes in which these targets were launched, newest first. -/
inductive Launches : List Target → Service → Prop
  | fresh (built : Text) (files : Tree) : Launches [] (initial built files)
  | kept {past : List Target} {s s' : Service} : Launches past s → s.Keeps s' → Launches past s'
  | launched {past : List Target} {s s' : Service} {target : Target} {path : Text} :
      Launches past s → s.appPath target = (.ok path, s') → Launches (target :: past) s'

/-- The application that was launched last without a path of its own, and the one over the active
table if there is none. -/
def standing : List Target → AppName
  | [] => .active
  | .app app none :: _ => app
  | .app _ (some _) :: past => standing past
  | .value _ :: past => standing past

variable {past : List Target} {s s' s'' : Service} {target : Target} {path : Text}

/-- What launching does: an application without a path is served, the table of a bundle is made the
active one, and what has a path is left to the server. -/
theorem appPath_ok (h : s.appPath target = (.ok path, s')) :
    (∃ app, target = .app app none ∧ path = launchedPath ∧ s' = { s with served := app }) ∨
    (∃ t table, target = .value (.text t) ∧ path = launchedPath ∧
      s.tableAt (Path.clean t) = .ok table ∧
      s' = { s.setTable table with bundle := some (Path.clean t) }) ∨
    (s' = s ∧ ((∃ app, target = .app app (some path)) ∨
      (target = .value (.text path) ∧ ¬ bundleExtension <:+ path))) := by
  unfold appPath at h
  split at h
  · next t =>
    split at h
    · right
      left
      simp only [targetBundle, loadAt] at h
      split at h
      · cases h
      · cases htable : s.tableAt (Path.clean t) with
        | error e =>
          rw [htable] at h
          cases h
        | ok table =>
          rw [htable] at h
          cases h
          exact ⟨t, table, rfl, rfl, htable, rfl⟩
    · next hextension =>
      split at h <;> cases h
      exact .inr (.inr ⟨rfl, .inr ⟨rfl, by rwa [← List.isSuffixOf_iff_suffix]⟩⟩)
  · cases h
  · next app path =>
    cases h
    exact .inr (.inr ⟨rfl, .inl ⟨app, rfl⟩⟩)
  · next app =>
    cases h
    exact .inl ⟨app, rfl, rfl, rfl⟩

/-- A target that is refused is not launched. -/
theorem appPath_error {e : Failure} (h : s.appPath target = (.error e, s')) : s' = s := by
  unfold appPath at h
  split at h
  · split at h
    · simp only [targetBundle, loadAt] at h
      split at h
      · cases h
        rfl
      · next t _ _ =>
        cases htable : s.tableAt (Path.clean t) with
        | error e =>
          rw [htable] at h
          cases h
          rfl
        | ok table =>
          rw [htable] at h
          cases h
    · split at h <;> cases h
      rfl
  · cases h
    rfl
  · cases h
  · cases h

/-- Whether a process has the table at hand that a fresh process would have to load. -/
def IsReady (s : Service) : Prop := s.bundle.isSome = true → s.registry.isSet = true

theorem Keeps.isReady (h : s.Keeps s') (hready : s.IsReady) : s'.IsReady := by
  intro hbundle
  rw [h.bundle] at hbundle
  rw [Registry.isSet, h.chosen]
  exact hready hbundle

theorem Launches.isReady (h : Launches past s) : s.IsReady := by
  induction h with
  | fresh built files => exact fun hbundle => by cases hbundle
  | kept _ hkeeps ih => exact hkeeps.isReady ih
  | launched _ hlaunch ih =>
    rcases appPath_ok hlaunch with ⟨_, _, _, rfl⟩ | ⟨_, _, _, _, _, rfl⟩ | ⟨rfl, _⟩
    · exact ih
    · exact fun _ => rfl
    · exact ih

theorem Launches.served (h : Launches past s) : s.served = standing past := by
  induction h with
  | fresh built files => rfl
  | kept _ hkeeps ih => rw [hkeeps.served, ih]
  | launched _ hlaunch ih =>
    rcases appPath_ok hlaunch with
      ⟨_, rfl, _, rfl⟩ | ⟨_, _, rfl, _, _, rfl⟩ | ⟨rfl, ⟨_, rfl⟩ | ⟨rfl, _⟩⟩
    · rfl
    · exact ih
    · exact ih
    · exact ih

theorem prepare_eq (h : s.IsReady) : s.prepare = (.ok (), s) := by
  unfold prepare
  split
  · rfl
  · next place hplace => rw [if_pos (h (by rw [hplace]; rfl))]

/-- The launched application answers as the served one does. -/
theorem call_launched_eq (h : s.IsReady) (scope : Scope) (c : Channel) :
    s.call .launched scope c = s.call s.served scope c := by
  simp only [call, prepare_eq h]
  cases s.served <;> rfl

/-- Answering keeps what was launched, whichever application is called. -/
theorem keeps_call (h : s.IsReady) (app : AppName) (scope : Scope) (c : Channel) :
    s.Keeps (s.call app scope c).2.2 := by
  simp only [call, prepare_eq h]
  split
  · exact ⟨rfl, rfl, rfl⟩
  · exact ⟨rfl, rfl, rfl⟩
  · split <;> exact ⟨rfl, rfl, rfl⟩
  · split <;> exact ⟨rfl, rfl, rfl⟩

/-- The launched application answers as the last target does, if that is an application, now and
ever after. If it is a bundle its table is the active one, but the answer is that of an application
that was launched before, if there is one. -/
theorem call_launched (h : Launches past s) (hlaunch : s.appPath target = (.ok launchedPath, s'))
    (hkeeps : s'.Keeps s'') (scope : Scope) (c : Channel) :
    s''.Keeps (s''.call .launched scope c).2.2 ∧
    (∀ app path, target = .app app path → (path = some launchedPath → app = .launched) →
      s''.call .launched scope c = s''.call app scope c) ∧
    ∀ t, target = .value (.text t) → bundleExtension <:+ t →
      ∃ table, s.tableAt (Path.clean t) = .ok table ∧ s''.registry.active = table ∧
        s''.call .launched scope c = s''.call (standing past) scope c ∧
        (standing past = .active →
          let called := (Gateway.call scope table s''.registry.rootAlias c).1
          (s''.call .launched scope c).1 = called.outcome ∧
            (s''.call .launched scope c).2.1 = called.channel) := by
  have hafter : Launches (target :: past) s'' := .kept (.launched h hlaunch) hkeeps
  have hcall := call_launched_eq hafter.isReady scope c
  rw [hafter.served] at hcall
  refine ⟨keeps_call hafter.isReady .launched scope c, ?_, ?_⟩
  · rintro app path rfl hpath
    cases path with
    | none => exact hcall
    | some path =>
      cases congrArg Prod.fst hlaunch
      rw [hpath rfl]
  · rintro t rfl hextension
    rcases appPath_ok hlaunch with
      ⟨_, htarget, _⟩ | ⟨t, table, htarget, _, htable, hs'⟩ | ⟨_, ⟨_, htarget⟩ | ⟨htarget, hnot⟩⟩
    · cases htarget
    · cases htarget
      have hactive : s''.registry.active = table := by
        rw [Registry.active, hkeeps.chosen, hs']
        rfl
      refine ⟨table, htable, hactive, hcall, fun hstanding => ?_⟩
      rw [hcall, standing, hstanding, ← hactive]
      exact ⟨rfl, rfl⟩
    · cases htarget
    · cases htarget
      exact absurd hextension hnot

/-- A page. -/
def onePage : Record :=
  ⟨"/a.html", "text/html", [60, 112, 62], [("Content-Type", "text/html")], by rfl⟩

/-- A file that holds the bundle of a page. -/
def bundled : Tree := ⟨[(["out.py"],
  .file ((Artifact.write (Artifact.entries [("a.html", onePage)])).flatMap Utf8.encodePoint))],
  [], []⟩

theorem clean_bundled : Path.clean "out.py" = "out.py" := by decide +kernel

theorem tableAt_bundled (h : s.files = bundled) :
    s.tableAt "out.py" = .ok (Table.ofRecords [onePage]) := by
  have hread : s.files.read "out.py" =
      .ok ((Artifact.write (Artifact.entries [("a.html", onePage)])).flatMap
        Utf8.encodePoint) := by
    rw [h]
    rfl
  have hcheck : Path.check "out.py" = .ok () := rfl
  rw [tableAt, if_neg (by decide), hcheck]
  dsimp only
  rw [hread]
  dsimp only
  rw [Artifact.ofFile_write]
  rfl

theorem appPath_bundled (h : s.files = bundled) :
    s.appPath (.value (.text "out.py")) =
      (.ok launchedPath,
        { s.setTable (Table.ofRecords [onePage]) with bundle := some "out.py" }) := by
  have hfile : s.files.isFile "out.py" = true := by
    rw [h]
    rfl
  rw [appPath, if_pos (by decide), targetBundle, clean_bundled, hfile, loadAt, tableAt_bundled h]
  rfl

theorem call_own (s : Service) (n : Nat) (scope : Scope) (c : Channel) :
    (s.call (.own n) scope c).2.1 = (Gateway.call scope (s.own.getD n default).table
      (s.own.getD n default).rootAlias c).1.channel := rfl

theorem call_active (s : Service) (scope : Scope) (c : Channel) :
    (s.call .active scope c).2.1 =
      (Gateway.call scope s.registry.active s.registry.rootAlias c).1.channel := rfl

/-- A bundle that is launched behind an application without assets is not what is served: its page
is not found. -/
theorem call_launched_behind :
    let s := ((initial "" bundled).makeApp (some .empty)).2
    let launched := (s.appPath (.app (.own 0) none)).2
    let s' := (launched.appPath (.value (.text "out.py"))).2
    let h : HttpScope := ⟨"GET", "/a.html", none, []⟩
    let c : Channel := ⟨[], .recursion, fun _ => none, 0, []⟩
    s'.registry.active = Table.ofRecords [onePage] ∧
      s'.call .launched h.toScope c = s'.call (.own 0) h.toScope c ∧
      (∃ headers, (s'.call .launched h.toScope c).2.1.sent.head? =
        some (.responseStart 404 headers)) ∧
      ∃ headers, (s'.call .active h.toScope c).2.1.sent.head? =
        some (.responseStart 200 headers) := by
  intro s launched s' h c
  have hmade : Launches [] s := .kept (.fresh "" bundled) ⟨rfl, rfl, rfl⟩
  have happ : Launches [.app (.own 0) none] launched := .launched hmade rfl
  have hfiles : launched.files = bundled := rfl
  have hs' : s' =
      { launched.setTable (Table.ofRecords [onePage]) with bundle := some "out.py" } :=
    congrArg Prod.snd (appPath_bundled hfiles)
  have hbundle : launched.appPath (.value (.text "out.py")) = (.ok launchedPath, s') := by
    rw [hs', appPath_bundled hfiles]
  obtain ⟨table, hread, hactive, hcall, _⟩ :=
    (call_launched happ hbundle ⟨rfl, rfl, rfl⟩ h.toScope c).2.2 "out.py" rfl (by decide)
  rw [clean_bundled, tableAt_bundled hfiles] at hread
  cases hread
  have hresponse : ∀ t : Table, (Reply.toRequest h.request t .initial).response =
      Reply.lookUp t "/a.html" h.request := fun t => by
    rw [Reply.toRequest_of_reading (.inl rfl)]
    rfl
  have hmissing : (Reply.toRequest h.request .empty .initial).response = .ofError 404 := by
    rw [hresponse, Reply.lookUp_of_none rfl]
  have hfound : (Reply.toRequest h.request (.ofRecords [onePage]) .initial).response =
      ⟨200, Response.composeHeaders onePage.headers onePage.size, onePage.payload⟩ := by
    rw [hresponse, Reply.lookUp_of_some (.inl rfl) (show _ = some onePage from rfl)]
    rfl
  have hlatin : onePage.headers.IsLatin1 := by
    intro line hline
    cases List.mem_singleton.1 hline
    exact ⟨rfl, rfl⟩
  obtain ⟨own, _, hown, _⟩ := Gateway.call_ok h .empty .initial (c := c) (fun _ => rfl)
    (hmissing ▸ Response.isLatin1_ofError 404)
  obtain ⟨headers, _, hsent, _⟩ := Gateway.call_ok h (.ofRecords [onePage]) .initial (c := c)
    (fun _ => rfl) (hfound ▸ Response.isLatin1_composeHeaders hlatin _)
  have howned : s'.own.getD 0 default = ⟨.empty, .initial⟩ := by
    rw [hs']
    rfl
  have halias : s'.registry.rootAlias = .initial := by
    rw [hs']
    rfl
  refine ⟨hactive, hcall, ⟨own, ?_⟩, headers, ?_⟩
  · rw [hcall, standing, call_own, howned, hown, hmissing]
    rfl
  · rw [call_active, hactive, halias, hsent, hfound]
    rfl

end Service
end AssetBundle
