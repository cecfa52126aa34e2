import AssetBundle.Gateway.App
import AssetBundle.Service.State

/-!
# AssetBundle.Service.Apps

The applications of a process. An application is made over a table, with an alias of its own, or
over whatever is active when it is called. The launched application stands for what was launched
last; in a fresh process it loads the bundle first that the launcher left for it.
-/

namespace AssetBundle
namespace Service

/-- Makes an application. -/
def makeApp (s : Service) (t : Option Table) : AppName × Service :=
  match t with
  | none => (.active, s)
  | some t => (.own s.own.size, { s with own := s.own.push ⟨t, .initial⟩ })

/-- Calls the application over the active table. -/
def callActive (s : Service) (scope : Scope) (c : Channel) : Outcome Unit × Channel × Service :=
  let (called, a) := Gateway.call scope s.registry.active s.registry.rootAlias c
  (called.outcome, called.channel,
    { s with registry := { s.registry with rootAlias := a } }.report called.log)

/-- Calls the application of a number. -/
def callOwn (s : Service) (n : Nat) (scope : Scope) (c : Channel) :
    Outcome Unit × Channel × Service :=
  let app := s.own.getD n default
  let (called, a) := Gateway.call scope app.table app.rootAlias c
  (called.outcome, called.channel,
    { s with own := s.own.setIfInBounds n ⟨app.table, a⟩ }.report called.log)

/-- Loads the bundle that was left for a fresh process. -/
def prepare (s : Service) : Outcome Unit × Service :=
  match s.bundle with
  | none => (.ok (), s)
  | some place =>
    if s.registry.isSet then (.ok (), s)
    else
      match s.loadAt place true with
      | (.error e, s) => (.error e, s)
      | (.ok _, s) => (.ok (), s)

/-- Calls an application. One that passes calls on to itself never comes to an end. -/
def call (s : Service) (app : AppName) (scope : Scope) (c : Channel) :
    Outcome Unit × Channel × Service :=
  match app with
  | .active => s.callActive scope c
  | .own n => s.callOwn n scope c
  | .launched | .forwarding =>
    match s.prepare with
    | (.error e, s) => (.error e, c, s)
    | (.ok (), s) =>
      match s.served with
      | .active => s.callActive scope c
      | .own n => s.callOwn n scope c
      | .launched | .forwarding => (.error .recursion, c, s)

end Service
end AssetBundle
