import AssetBundle.Sequence
import AssetBundle.Text.CaseMapping

/-!
# AssetBundle.Asset.ContentType

Which files become assets, and as what. The last dot of a name starts its extension; a name
without a dot, or with its only dot in front, has none. The letters of an extension are compared
in lower case, and only the extensions listed here are admitted.
-/

namespace AssetBundle
namespace ContentType

def admitted : List (Text × Text) := [
  (".html", "text/html; charset=utf-8"),
  (".htm", "text/html; charset=utf-8"),
  (".js", "text/javascript; charset=utf-8"),
  (".css", "text/css; charset=utf-8"),
  (".json", "application/json; charset=utf-8"),
  (".txt", "text/plain; charset=utf-8"),
  (".svg", "image/svg+xml"),
  (".png", "image/png"),
  (".jpg", "image/jpeg"),
  (".jpeg", "image/jpeg"),
  (".gif", "image/gif"),
  (".ico", "image/x-icon"),
  (".wasm", "application/wasm"),
  (".woff", "font/woff"),
  (".woff2", "font/woff2")]

/-- The stem and the extension, dot included, of a name with a stem that is not empty. -/
def extension? (name : Text) : Option (Text × Text) :=
  match Sequence.cutAtLast? (CodePoint.ofChar '.') name with
  | none => none
  | some ([], _) => none
  | some (stem, letters) => some (stem, CodePoint.ofChar '.' :: letters)

def ofName? (name : Text) : Option Text :=
  match extension? name with
  | none => none
  | some (_, extension) => admitted.lookup (Text.lower extension)

end ContentType
end AssetBundle
