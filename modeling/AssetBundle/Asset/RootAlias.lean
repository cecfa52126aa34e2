import AssetBundle.Asset.Table
import AssetBundle.Log

/-!
# AssetBundle.Asset.RootAlias

Which path answers a request for the root. The decision is made once, at the first request that
needs it, from the table at hand: the index page if there is one, else an asset at the root
itself, else the only page if there is exactly one; otherwise a default stays. A path that is set
by hand is never looked for again.
-/

namespace AssetBundle

structure RootAlias where
  value : Text
  resolved : Bool
deriving DecidableEq, Repr

namespace RootAlias

def indexPage : Text := "/index.html"

/-- Not yet decided, with the given default. -/
def unresolved (default : Text) : RootAlias := ⟨default, false⟩

def initial : RootAlias := unresolved indexPage

instance : Inhabited RootAlias := ⟨initial⟩

def set (_ : RootAlias) (url : Value) : RootAlias := ⟨url.written, true⟩

/-- Sets the path to a value given from outside, if it has a written form. -/
def setValue (a : RootAlias) (url : Value) : Outcome RootAlias :=
  if url.isWritable then .ok (a.set url) else .error .integerTooLong

def isPage (url : Text) : Bool := List.isSuffixOf (".html" : Text) url

/-- The path that a table offers for the root. -/
def pick? (t : Table) : Option Text :=
  if (t.find? indexPage).isSome then some indexPage
  else if (t.find? "/").isSome then some "/"
  else
    match t.urls.filter isPage with
    | [url] => some url
    | _ => none

/-- The decided path, the alias afterwards, and what is logged of the decision. -/
def resolve (a : RootAlias) (t : Table) : Text × RootAlias × Log :=
  if a.resolved then (a.value, a, [])
  else
    match pick? t with
    | some url =>
      (url, ⟨url, true⟩, [⟨.info, "Will use [" ++ url ++ "] for default root /"⟩])
    | none => (a.value, ⟨a.value, true⟩, [])

end RootAlias
end AssetBundle
