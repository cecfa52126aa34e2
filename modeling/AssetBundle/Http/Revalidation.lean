import AssetBundle.Asset.Record
import AssetBundle.Http.Request

/-!
# AssetBundle.Http.Revalidation

Conditional requests. A request names the versions it has in `If-None-Match` headers, as lists of
entity tags; the asset has not been modified if one of them is its whole validator. Quotes, a
mark for weak comparison and the case of letters make no difference.
-/

namespace AssetBundle
namespace Revalidation

def comma : Text := [0x2C]

def weakMark : Text := "W/"

/-- What identifies a version in an entity tag, in upper case. -/
def tagBody (tag : Text) : Text :=
  let tag := Text.trim tag
  let tag := if weakMark.isPrefixOf tag then tag.drop 2 else tag
  Text.upper (Sequence.trim Record.isDoubleQuote tag)

/-- Whether a list of entity tags has the given validator, in upper case, among its elements. -/
def lists (validator value : Text) : Bool :=
  (Sequence.splitOn comma value).any fun tag => tagBody tag = validator

def notModified (r : Record) (request : Request) : Bool :=
  match r.validator? with
  | none => false
  | some validator =>
    request.fields.any fun field =>
      field.1 = "if-none-match" && lists (Text.upper validator) field.2

end Revalidation
end AssetBundle
