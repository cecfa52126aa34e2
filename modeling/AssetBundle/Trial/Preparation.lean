import AssetBundle.Hostname.Label
import AssetBundle.Text.Alphanumeric
import AssetBundle.Trial.Url

/-!
# AssetBundle.Trial.Preparation

How a client prepares an address before it sends a request there. `Url.prepare` brings the parts
of a web address into normal form: dot segments are resolved, international names are written in
ASCII, and what a part cannot hold is percent-encoded. At last codes of letters, digits and the
like are decoded anywhere in the address, unless some code in it is broken.
-/

namespace AssetBundle

/-- The parts of an address as a client finds them. -/
structure UrlParts where
  scheme : Option Text
  authority : Text
  path : Text
  query : Text
  fragment : Text
deriving DecidableEq, Repr

namespace UrlParts

/-- Takes an address apart. A backslash ends the authority too. -/
def ofText (t : Text) : UrlParts :=
  let (scheme, rest) := Url.splitScheme t
  let (authority, rest) := Url.splitAuthority "\\/?#" rest
  let (rest, fragment) := (Sequence.cutAt? ([0x23] : Text) rest).getD (rest, [])
  let (path, query) := (Sequence.cutAt? ([0x3F] : Text) rest).getD (rest, [])
  ⟨scheme, authority.getD [], path, query, fragment⟩

/-- Whether the address is one of the web, whose parts have a normal form. Those without a scheme
are. -/
def isWeb (p : UrlParts) : Bool :=
  match p.scheme with
  | none => true
  | some scheme => Text.isWord "http" scheme || Text.isWord "https" scheme

end UrlParts

namespace Url

/-- Letters, digits and the four marks that are never encoded. -/
def isUnreserved (c : CodePoint) : Bool :=
  isAsciiLetter c || Hostname.isAsciiDigit c || oneOf "._-~" c

def isUserPart (c : CodePoint) : Bool := isUnreserved c || oneOf "!$&'()*+,;=:" c

def isPathPart (c : CodePoint) : Bool := isUserPart c || oneOf "@/" c

def isQueryPart (c : CodePoint) : Bool := isPathPart c || oneOf "?" c

/-- Whether every percent sign begins a code. -/
def isCoded : Text → Bool
  | [] => true
  | c :: rest => (c ≠ percent || (code? (c :: rest)).isSome) && isCoded rest

def encodeByte (b : UInt8) : Text :=
  percent :: (Quoted.hex 2 b.toNat).flatMap CaseMapping.upperPoint

def encodePoint (c : CodePoint) : Text := (Utf8.encodePoint c).flatMap encodeByte

/-- Writes codes with capital digits. -/
def capitalCodes : Text → Text
  | c :: high :: low :: tail =>
    match code? [c, high, low] with
    | some n => encodeByte (UInt8.ofNat n) ++ capitalCodes tail
    | none => c :: capitalCodes (high :: low :: tail)
  | rest => rest

/-- Encodes what a part cannot hold. Percent signs stay if they all begin codes already. -/
def encode (allowed : CodePoint → Bool) (t : Text) : Text :=
  let coded := isCoded t
  (capitalCodes t).flatMap fun c =>
    if allowed c || (coded && c = percent) then [c] else encodePoint c

/-- The value of a hexadecimal digit, where decimal digits may be of any script. -/
def digitValue? (c : CodePoint) : Option Nat :=
  (Quoted.hexValue? c).orElse fun _ => CodePoint.decimalValue? c

/-- The value of a code as it is decoded. -/
def looseCode? (c high low : CodePoint) : Option Nat :=
  if c = percent then
    match digitValue? high, digitValue? low with
    | some high, some low => some (high * 16 + low)
    | _, _ => none
  else none

/-- Decodes the codes of what is never encoded. -/
def decodeUnreserved : Text → Text
  | c :: high :: low :: tail =>
    match looseCode? c high low with
    | some n =>
      let point : CodePoint := Fin.ofNat 0x110000 n
      if isUnreserved point then point :: decodeUnreserved tail
      else c :: decodeUnreserved (high :: low :: tail)
    | none => c :: decodeUnreserved (high :: low :: tail)
  | rest => rest

/-- Whether a percent sign has two letters or digits behind it that are no code. -/
def hasBrokenCode : Text → Bool
  | c :: high :: low :: tail =>
    (c = percent && high.isAlphanumeric && low.isAlphanumeric && (looseCode? c high low).isNone) ||
      hasBrokenCode (high :: low :: tail)
  | _ => false

/-- What may stand anywhere in an address. -/
def isAddressPart (c : CodePoint) : Bool := isUnreserved c || oneOf "!#$%&'()*+,/:;=?@[]" c

/-- Brings codes into their final form, and encodes what no address can hold. Where a code is
broken, all percent signs stand for themselves. -/
def requote (t : Text) : Outcome Text :=
  let broken := hasBrokenCode t
  let t := if broken then t else decodeUnreserved t
  match Utf8.encodeOrFail t with
  | .error e => .error e
  | .ok _ =>
    .ok (t.flatMap fun c =>
      if isAddressPart c && !(broken && c = percent) then [c] else encodePoint c)

def slash : Text := [0x2F]

def dot : Text := "."

def dotDot : Text := ".."

/-- Resolves dot segments; going up from the top stays there. -/
def resolveDots (path : Text) : Text :=
  let kept := (Sequence.splitOn slash path).foldl (fun done segment =>
    if segment = dot then done else if segment = dotDot then done.dropLast
    else done ++ [segment]) []
  let front : List Text :=
    if slash.isPrefixOf path && (kept.head?.all fun first => !first.isEmpty) then [[]] else []
  let back : List Text :=
    if (slash ++ dot).isSuffixOf path || (slash ++ dotDot).isSuffixOf path then [[]] else []
  List.intercalate slash (front ++ (kept ++ back))

/-- What a name cannot hold, not even where it is no host. -/
def isForbidden (c : CodePoint) : Bool := c.val ≤ 0x20 || c.val = 0x7F

/-- The first percent code that stands for a control. -/
def controlCode? : Text → Option Text
  | c :: high :: low :: tail =>
    match code? [c, high, low] with
    | some n =>
      if n < 0x20 || n = 0x7F then some [c, high, low] else controlCode? (high :: low :: tail)
    | none => controlCode? (high :: low :: tail)
  | _ => none

/-- Whether a text can be the zone of a numeric address. -/
def isZone (t : Text) : Bool :=
  !t.isEmpty && isCoded t && t.all fun c => isUnreserved c || c = percent

/-- A numeric address that stands in brackets, cut at its zone. -/
def zoned (t : Text) : Text × Option Text :=
  match Sequence.cutAt? [percent] t with
  | some (address, zone) => (address, some zone)
  | none => (t, none)

/-- Whether a text can be a host: a name whose percent signs begin codes, or a numeric address in
brackets. -/
def isHost (t : Text) : Bool :=
  match t with
  | 0x5B :: rest =>
    let (address, zone) := zoned rest.dropLast
    rest.getLast? = some closeBracket && Hostname.isGrouped Hostname.isShortNumber address &&
      zone.all isZone
  | t => !t.any (oneOf "[]:") && isCoded t

/-- The host and the port of a place. A port has up to five digits behind any zeros. -/
def hostWithPort? (place : Text) : Option (Text × Option Nat) :=
  let (host, digits) :=
    match Sequence.cutAtLast? 0x3A place with
    | some (host, digits) =>
      if digits.all Hostname.isAsciiDigit then (host, digits) else (place, [])
    | none => (place, [])
  let significant := digits.dropWhile (· = 0x30)
  if !isHost host || significant.length > 5 then none
  else some (host, if digits.isEmpty then none else some (Hostname.valueOf significant))

/-- The mark in front of a zone, as addresses spell it. -/
def zoneMark : Text := "25"

/-- The normal form of a zone. -/
def normalZone (zone : Text) : Text :=
  let isMarked := zoneMark.isPrefixOf zone && zone ≠ zoneMark
  encode isUnreserved (if isMarked then zone.drop zoneMark.length else zone)

/-- The words of a name in ASCII. -/
def encodeWords : List Text → Outcome (List Text)
  | [] => .ok []
  | word :: rest =>
    match Hostname.encodeWord? word with
    | none => .error (.url (.hostWord word))
    | some coded =>
      match encodeWords rest with
      | .error e => .error e
      | .ok rest => .ok (coded :: rest)

/-- The normal form of the host of a web address. -/
def normalHost (host : Text) : Outcome Text :=
  match host with
  | 0x5B :: rest =>
    match zoned rest.dropLast with
    | (_, none) => .ok (Text.lower host)
    | (address, some zone) =>
      .ok (openBracket :: (Text.lower address ++ percent :: (normalZone zone ++ [closeBracket])))
  | host =>
    match encodeWords (Sequence.splitOn dot (decodeUnreserved host)) with
    | .error e => .error e
    | .ok words => .ok (List.intercalate dot words)

/-- The host of an address, in ASCII. A name that is no web address's is taken in any spelling. -/
def asciiHost (host : Text) : Outcome Text :=
  if Hostname.isAscii host then
    if host.head?.any (oneOf "*.") then .error (.url .hostLabel) else .ok host
  else
    match Hostname.encode? host with
    | some coded => .ok coded
    | none => .error (.url .hostLabel)

/-- A place whose host and port were told apart: the user, the host and the port. -/
structure Destination where
  user : Text
  host : Text
  port : Option Nat

/-- Where an address leads, its host in normal form. -/
def destination (spelled : Text) (p : UrlParts) : Outcome Destination :=
  let (user, place) := (Sequence.cutAtLast? 0x40 p.authority).getD ([], p.authority)
  let found := hostWithPort? place
  let shown := (found.map Prod.fst).getD place
  match shown.find? isForbidden, controlCode? shown, found with
  | some c, _, _ => .error (.url (.hostCharacter shown c))
  | none, some code, _ => .error (.url (.hostCode shown code))
  | none, none, none => .error (.url (.hostOrPort place))
  | none, none, some (host, port) =>
    if port.any fun n => largestPort < n then .error (.url (.portTooLarge spelled))
    else if p.isWeb then
      match normalHost host with
      | .error e => .error e
      | .ok host => .ok ⟨encode isUserPart user, host, port⟩
    else .ok ⟨user, host, port⟩

/-- A destination as an authority. The port zero is left out. -/
def Destination.authority (d : Destination) : Text :=
  let user := if d.user.isEmpty then [] else d.user ++ [0x40]
  match d.port with
  | none | some 0 => user ++ d.host
  | some port => user ++ (d.host ++ 0x3A :: Text.ofNat port)

/-- A part behind its delimiter, unless it is empty. -/
def behind (delimiter : CodePoint) (part : Text) : Text :=
  if part.isEmpty then [] else delimiter :: part

/-- The parts of an address put together again, those of a web address in normal form. -/
def assemble (scheme authority : Text) (p : UrlParts) : Text :=
  let normal (allowed : CodePoint → Bool) (t : Text) : Text :=
    if p.isWeb then encode allowed t else t
  let path := if p.isWeb then encode isPathPart (resolveDots p.path) else p.path
  let path := if slash.isPrefixOf path then path else slash ++ path
  let query := behind 0x3F (normal isQueryPart p.query)
  let fragment := behind 0x23 (normal isQueryPart p.fragment)
  Text.lowerAscii scheme ++ (("://" : Text) ++ (authority ++ (path ++ (query ++ fragment))))

/-- Whether an address begins with a scheme. One with a dot in it does not count. -/
def namesScheme (t : Text) : Bool :=
  match splitScheme t with
  | (some scheme, _) => !scheme.any (oneOf ".")
  | (none, _) => false

/-- Brings an address into the form in which it is sent. An address without a scheme is read as if
it began with its authority. -/
def prepare (t : Text) : Outcome Text :=
  let spelled := if namesScheme t then t else slash ++ slash ++ t
  let parts := UrlParts.ofText spelled
  match destination spelled parts, parts.scheme with
  | .error e, _ => .error e
  | .ok _, none => .error (.url (.noScheme t))
  | .ok d, some scheme =>
    if d.host.isEmpty then .error (.url (.noHost t))
    else
      match asciiHost d.host with
      | .error e => .error e
      | .ok host => requote (assemble scheme (Destination.authority { d with host := host }) parts)

end Url
end AssetBundle
