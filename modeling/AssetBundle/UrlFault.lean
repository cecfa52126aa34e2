import AssetBundle.Text.Quoted

/-!
# AssetBundle.UrlFault

What can be wrong with an address. Some faults the client finds when it prepares a request; the
others are found when the parts of an address are read.
-/

namespace AssetBundle

inductive UrlFault where
  -- Found by the client.
  | noScheme (url : Text)
  | noHost (url : Text)
  /-- What names the place is neither a host nor a host with a port. -/
  | hostOrPort (place : Text)
  | hostCharacter (place : Text) (c : CodePoint)
  | hostCode (place code : Text)
  | portTooLarge (url : Text)
  | hostWord (word : Text)
  | hostLabel
  -- Found in the parts.
  | unpairedBracket
  | bracketedHost (host : Text)
  | bracketedDotted
  | futureHost
  /-- A character of the authority looks like one of its delimiters. -/
  | disguised (authority : Text)
  | portNumeral (port : Text)
  | portRange
deriving DecidableEq, Repr

namespace UrlFault

def isClients : UrlFault → Bool
  | noScheme _ | noHost _ | hostOrPort _ | hostCharacter .. | hostCode .. | portTooLarge _
  | hostWord _ | hostLabel => true
  | unpairedBracket | bracketedHost _ | bracketedDotted | futureHost | disguised _
  | portNumeral _ | portRange => false

def kind (fault : UrlFault) : Text :=
  match fault with
  | noScheme _ => "MissingSchema"
  | fault => if fault.isClients then "InvalidURL" else "ValueError"

def unparsed (reason : Text) : Text := "Failed to parse: " ++ reason

def message : UrlFault → Text
  | noScheme url =>
    "Invalid URL " ++ Quoted.text url ++ ": No scheme supplied. Perhaps you meant https://" ++
      url ++ "?"
  | noHost url => "Invalid URL " ++ Quoted.text url ++ ": No host supplied"
  | hostOrPort place => unparsed (Quoted.text place ++ " is not a valid host or port")
  | hostCharacter place c =>
    unparsed ("Host " ++ Quoted.text place ++ " contains invalid character " ++ Quoted.text [c])
  | hostCode place code =>
    unparsed ("Host " ++ Quoted.text place ++
      " contains invalid percent-encoded control character " ++ Quoted.text code)
  | portTooLarge url => unparsed url
  | hostWord word => unparsed ("Name '" ++ word ++ "' is not a valid IDNA label")
  | hostLabel => "URL has an invalid label."
  | unpairedBracket => "Invalid IPv6 URL"
  | bracketedHost host => Quoted.text host ++ " does not appear to be an IPv4 or IPv6 address"
  | bracketedDotted => "An IPv4 address cannot be in brackets"
  | futureHost => "IPvFuture address is invalid"
  | disguised authority =>
    "netloc '" ++ authority ++ "' contains invalid characters under NFKC normalization"
  | portNumeral port => "Port could not be cast to integer value as " ++ Quoted.text port
  | portRange => "Port out of range 0-65535"

end UrlFault
end AssetBundle
