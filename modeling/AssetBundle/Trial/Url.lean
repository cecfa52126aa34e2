import AssetBundle.Failure
import AssetBundle.Hostname.Numeric
import AssetBundle.Text.CaseMapping

/-!
# AssetBundle.Trial.Url

Addresses of requests. `read` takes an address apart at its delimiters and checks what stands in
brackets. The host and the port are parts of the authority, and so are the credentials of a user.
`decode` reads percent codes back as UTF-8.
-/

namespace AssetBundle

/-- The parts of an address that a server looks at. The parameters of the last segment are not
part of the path. -/
structure Url where
  scheme : Text
  authority : Text
  path : Text
  query : Text
deriving DecidableEq, Repr

namespace Url

def isAsciiLetter (c : CodePoint) : Bool :=
  (65 ≤ c.val && c.val ≤ 90) || (97 ≤ c.val && c.val ≤ 122)

def oneOf (marks : Text) (c : CodePoint) : Bool := marks.contains c

def isSchemePart (c : CodePoint) : Bool :=
  isAsciiLetter c || Hostname.isAsciiDigit c || oneOf "+-." c

/-- The scheme in front of the first colon, and the rest. -/
def splitScheme (t : Text) : Option Text × Text :=
  match Sequence.cutAt? ([0x3A] : Text) t with
  | some (scheme, rest) =>
    if scheme.head?.any isAsciiLetter && scheme.all isSchemePart then (some scheme, rest)
    else (none, t)
  | none => (none, t)

/-- The authority behind two slashes, up to one of some delimiters, and the rest. -/
def splitAuthority (delimiters t : Text) : Option Text × Text :=
  match t with
  | 0x2F :: 0x2F :: rest =>
    let authority := rest.takeWhile fun c => !oneOf delimiters c
    (some authority, rest.drop authority.length)
  | t => (none, t)

/-- The code points whose plain form holds a delimiter of an authority. -/
def disguisedDelimiters : List Nat := [
  0x2047, 0x2048, 0x2049, 0x2100, 0x2101, 0x2105, 0x2106, 0x2A74, 0xFE13, 0xFE16, 0xFE55, 0xFE56,
  0xFE5F, 0xFE6B, 0xFF03, 0xFF0F, 0xFF1A, 0xFF1F, 0xFF20]

def isDisguised (c : CodePoint) : Bool := disguisedDelimiters.contains c.val

def openBracket : CodePoint := 0x5B

def closeBracket : CodePoint := 0x5D

/-- Whether a text is an address of a version to come: the version and some text. -/
def isFuture (host : Text) : Bool :=
  match Sequence.cutAt? ([0x2E] : Text) (host.drop 1) with
  | some (version, text) =>
    !version.isEmpty && (version.all fun c => (Quoted.hexValue? c).isSome) && !text.isEmpty
  | none => false

/-- What stands in brackets is an address of eight groups, or of a version to come. -/
def checkBracketed (host : Text) : Outcome Unit :=
  if host.head? = some (CodePoint.ofChar 'v') then
    if isFuture host then .ok () else .error (.url .futureHost)
  else if Hostname.isDotted Hostname.isByteNumber host then .error (.url .bracketedDotted)
  else if Hostname.isZoned host then .ok ()
  else .error (.url (.bracketedHost host))

def checkAuthority (authority : Text) : Outcome Unit :=
  let bracketed :=
    if authority.contains openBracket != authority.contains closeBracket then
      .error (.url .unpairedBracket)
    else
      match Sequence.cutAt? [openBracket] authority with
      | some (_, inside) => checkBracketed (Sequence.before [closeBracket] inside)
      | none => .ok ()
  match bracketed with
  | .error e => .error e
  | .ok () => if authority.any isDisguised then .error (.url (.disguised authority)) else .ok ()

/-- The path without the parameters of its last segment. -/
def dropParameters (path : Text) : Text :=
  match Sequence.cutAtLast? 0x2F path with
  | some (front, last) => front ++ 0x2F :: Sequence.before ([0x3B] : Text) last
  | none => Sequence.before ([0x3B] : Text) path

/-- The schemes under which segments have parameters. Those of an address without a scheme have. -/
def parametric : List Text := [
  "", "ftp", "hdl", "prospero", "http", "https", "shttp", "rtsp", "rtspu", "sip", "sips", "mms",
  "sftp", "tel"]

/-- Blanks and controls, which do not count in front of an address. -/
def isPadding (c : CodePoint) : Bool := c.val ≤ 0x20

/-- Tabs and line breaks, which do not count anywhere. -/
def isLayout (c : CodePoint) : Bool := c.val = 9 || c.val = 10 || c.val = 13

/-- Takes an address apart. What stands behind a number sign is dropped. -/
def read (t : Text) : Outcome Url :=
  let (scheme, rest) := splitScheme ((t.dropWhile isPadding).filter fun c => !isLayout c)
  let scheme := Text.lower (scheme.getD [])
  let (authority, rest) := splitAuthority "/?#" rest
  let authority := authority.getD []
  let rest := Sequence.before ([0x23] : Text) rest
  let (path, query) := (Sequence.cutAt? ([0x3F] : Text) rest).getD (rest, [])
  match checkAuthority authority with
  | .error e => .error e
  | .ok () =>
    .ok ⟨scheme, authority, if parametric.contains scheme then dropParameters path else path, query⟩

/-- The user in front of the place. -/
def user? (u : Url) : Option Text := (Sequence.cutAtLast? 0x40 u.authority).map Prod.fst

/-- What names the place: a host, perhaps with a port. -/
def place (u : Url) : Text :=
  match Sequence.cutAtLast? 0x40 u.authority with
  | some (_, place) => place
  | none => u.authority

/-- The host and the port as they stand in an address. -/
def hostAndPort (u : Url) : Text × Text :=
  let cut (c : CodePoint) (t : Text) : Text × Text := (Sequence.cutAt? [c] t).getD (t, [])
  match Sequence.cutAt? [openBracket] u.place with
  | some (_, bracketed) =>
    let (host, rest) := cut closeBracket bracketed
    (host, (cut 0x3A rest).2)
  | none => cut 0x3A u.place

/-- The host in small letters. The zone of a numeric address is left as it is. -/
def host? (u : Url) : Option Text :=
  let host := u.hostAndPort.1
  if host.isEmpty then none
  else
    match Sequence.cutAt? ([0x25] : Text) host with
    | some (address, zone) => some (Text.lower address ++ 0x25 :: zone)
    | none => some (Text.lower host)

def largestPort : Int := 65535

/-- The number of the port. -/
def port? (u : Url) : Outcome (Option Int) :=
  let port := u.hostAndPort.2
  if port.isEmpty then .ok none
  else if !port.all Hostname.isAsciiDigit then .error (.url (.portNumeral port))
  else
    match Integer.readOrFail port with
    | .error e => .error e
    | .ok n => if n ≤ largestPort then .ok (some n) else .error (.url .portRange)

def percent : CodePoint := 0x25

/-- The value of a percent code at the front of a text. -/
def code? (t : Text) : Option Nat :=
  match t with
  | c :: high :: low :: _ =>
    if c = percent then
      match Quoted.hexValue? high, Quoted.hexValue? low with
      | some high, some low => some (high * 16 + low)
      | _, _ => none
    else none
  | _ => none

/-- The bytes that a text with percent codes stands for. -/
def bytes : Text → Bytes
  | c :: high :: low :: tail =>
    match code? [c, high, low] with
    | some n => UInt8.ofNat n :: bytes tail
    | none => Utf8.encodePoint c ++ bytes (high :: low :: tail)
  | rest => rest.flatMap Utf8.encodePoint

/-- Reads percent codes as UTF-8. -/
def decode (t : Text) : Text := Utf8.decodeWith (some Utf8.replacement) (bytes t)

/-- The name and the password of the user, if both are given. -/
def credentials? (u : Url) : Option (Text × Text) :=
  match u.user? with
  | none => none
  | some user =>
    (Sequence.cutAt? ([0x3A] : Text) user).map fun pair => (decode pair.1, decode pair.2)

end Url
end AssetBundle
