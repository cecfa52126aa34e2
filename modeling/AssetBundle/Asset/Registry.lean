import AssetBundle.Asset.RootAlias

/-!
# AssetBundle.Asset.Registry

The active table and the root alias that belongs to it. While no table has been set, a
placeholder with a single page at the root takes its place. Setting a table leaves the alias as
it is; only a reset forgets it.
-/

namespace AssetBundle

/-- A table that holds one page. -/
def Table.singlePage (payload : Bytes) : Table :=
  .ofRecords [⟨"/", "text/html; charset=utf-8", payload,
    [("Content-Type", "text/html; charset=utf-8")], by rfl⟩]

structure Registry where
  /-- The table that was set last. -/
  chosen : Option Table
  rootAlias : RootAlias
  placeholder : Table
  /-- How many tables have been set. -/
  revision : Nat

namespace Registry

/-- The page that tells that the server runs, with the time at which it was built. -/
def placeholderPage (built : Text) : Text :=
  "<html><head><title>WS STATIC OK</title></head><body>Success<br>Built: " ++ built ++
    "</body></html>"

def initial (built : Text) : Registry :=
  ⟨none, .initial, .singlePage ((placeholderPage built).flatMap Utf8.encodePoint), 0⟩

def isSet (r : Registry) : Bool := r.chosen.isSome

def active (r : Registry) : Table := r.chosen.getD r.placeholder

def set (r : Registry) (t : Table) : Registry :=
  { r with chosen := some t, revision := r.revision + 1 }

/-- Refuses a value that is no table. -/
def setValue (_ : Registry) (_ : Value) : Outcome Registry := .error .tableType

def reset (r : Registry) : Registry := { r with chosen := none, rootAlias := .initial }

/-- Decides what answers the root, on the active table. -/
def resolveRoot (r : Registry) : Text × Registry × Log :=
  let (url, a, log) := r.rootAlias.resolve r.active
  (url, { r with rootAlias := a }, log)

end Registry
end AssetBundle
