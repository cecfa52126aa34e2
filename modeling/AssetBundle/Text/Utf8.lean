import AssetBundle.Text.CodePoint

/-!
# AssetBundle.Text.Utf8

UTF-8. Encoding fails on surrogates, which have no bytes. Decoding is strict or lenient: the
strict reader reports the first malformed run of bytes and why it is malformed, the lenient one
drops every such run, or puts a substitute in its place, and goes on behind it.
-/

namespace AssetBundle

/-- A run of adjacent code points that an encoding cannot express, from the position `first` to
the position `last`; `point` stands at `first`. -/
structure Unencodable where
  point : CodePoint
  first : Nat
  last : Nat
deriving DecidableEq, Repr

/-- Finds the first run of code points that fail a test. -/
def Unencodable.find? (encodable : CodePoint → Bool) (t : Text) : Option Unencodable :=
  match t.dropWhile encodable with
  | [] => none
  | point :: rest =>
    let first := (t.takeWhile encodable).length
    some ⟨point, first, first + (rest.takeWhile fun c => !encodable c).length⟩

namespace Utf8

def encodePoint (c : CodePoint) : Bytes :=
  let n := c.val
  if n < 0x80 then [UInt8.ofNat n]
  else if n < 0x800 then [UInt8.ofNat (0xC0 + n / 64), UInt8.ofNat (0x80 + n % 64)]
  else if n < 0x10000 then
    [UInt8.ofNat (0xE0 + n / 4096), UInt8.ofNat (0x80 + n / 64 % 64), UInt8.ofNat (0x80 + n % 64)]
  else
    [UInt8.ofNat (0xF0 + n / 262144), UInt8.ofNat (0x80 + n / 4096 % 64),
      UInt8.ofNat (0x80 + n / 64 % 64), UInt8.ofNat (0x80 + n % 64)]

def encode (t : Text) : Except Unencodable Bytes :=
  match Unencodable.find? (fun c => !c.isSurrogate) t with
  | some run => .error run
  | none => .ok (t.flatMap encodePoint)

inductive Reason where
  | startByte
  | continuationByte
  | endOfData
deriving DecidableEq, Repr

/-- The first malformed run of a byte string: `width` bytes from the position `first` on, the
first of which is `byte`. -/
structure Malformed where
  byte : UInt8
  first : Nat
  width : Nat
  reason : Reason
deriving DecidableEq, Repr

/-- What the front of a byte string holds. -/
inductive Front where
  | point (c : CodePoint) (rest : Bytes)
  | malformed (width : Nat) (reason : Reason)

def isContinuation (b : UInt8) : Bool := 0x80 ≤ b && b ≤ 0xBF

/-- Whether the second byte keeps the sequence the shortest one, below U+110000 and off the
surrogates. -/
def secondFits (lead second : UInt8) : Bool :=
  isContinuation second &&
    (lead != 0xE0 || 0xA0 ≤ second) && (lead != 0xED || second < 0xA0) &&
    (lead != 0xF0 || 0x90 ≤ second) && (lead != 0xF4 || second < 0x90)

def low (b : UInt8) : Nat := b.toNat % 64

def pointOf (n : Nat) : CodePoint := Fin.ofNat 0x110000 n

/-- Reads one code point behind its lead byte. -/
def front (lead : UInt8) (rest : Bytes) : Front :=
  if lead < 0x80 then .point (pointOf lead.toNat) rest
  else if lead < 0xC2 then .malformed 1 .startByte
  else if lead < 0xE0 then
    match rest with
    | [] => .malformed 1 .endOfData
    | b :: rest =>
      if isContinuation b then .point (pointOf (lead.toNat % 32 * 64 + low b)) rest
      else .malformed 1 .continuationByte
  else if lead < 0xF0 then
    match rest with
    | [] => .malformed 1 .endOfData
    | [b] => if secondFits lead b then .malformed 2 .endOfData else .malformed 1 .continuationByte
    | b :: c :: rest =>
      if !secondFits lead b then .malformed 1 .continuationByte
      else if !isContinuation c then .malformed 2 .continuationByte
      else .point (pointOf (lead.toNat % 16 * 4096 + low b * 64 + low c)) rest
  else if lead < 0xF5 then
    match rest with
    | [] => .malformed 1 .endOfData
    | [b] => if secondFits lead b then .malformed 2 .endOfData else .malformed 1 .continuationByte
    | [b, c] =>
      if !secondFits lead b then .malformed 1 .continuationByte
      else if !isContinuation c then .malformed 2 .continuationByte
      else .malformed 3 .endOfData
    | b :: c :: d :: rest =>
      if !secondFits lead b then .malformed 1 .continuationByte
      else if !isContinuation c then .malformed 2 .continuationByte
      else if !isContinuation d then .malformed 3 .continuationByte
      else
        .point (pointOf (lead.toNat % 8 * 262144 + low b * 4096 + low c * 64 + low d)) rest
  else .malformed 1 .startByte

/-- Reads to the end, or to the first malformed run. Every step takes at least one byte, so the
number of bytes bounds the number of steps. -/
def decode.go (total : Nat) (done : Text) : Nat → Bytes → Except Malformed Text
  | 0, _ => .ok done.reverse
  | _ + 1, [] => .ok done.reverse
  | fuel + 1, lead :: rest =>
    match front lead rest with
    | .point c rest => decode.go total (c :: done) fuel rest
    | .malformed width reason => .error ⟨lead, total - (rest.length + 1), width, reason⟩

def decode (s : Bytes) : Except Malformed Text := decode.go s.length [] s.length s

def decodeWith.go (substitute done : Text) : Nat → Bytes → Text
  | 0, _ => done.reverse
  | _ + 1, [] => done.reverse
  | fuel + 1, lead :: rest =>
    match front lead rest with
    | .point c rest => decodeWith.go substitute (c :: done) fuel rest
    | .malformed width _ =>
      decodeWith.go substitute (substitute ++ done) fuel ((lead :: rest).drop width)

/-- Puts a substitute of at most one code point in place of every malformed run. -/
def decodeWith (substitute : Option CodePoint) (s : Bytes) : Text :=
  decodeWith.go substitute.toList [] s.length s

/-- Drops what is malformed. -/
def decodeLenient (s : Bytes) : Text := decodeWith none s

/-- The code point that marks what could not be read. -/
def replacement : CodePoint := 0xFFFD

end Utf8
end AssetBundle
