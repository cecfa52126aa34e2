import AssetBundle.Checksum.Crc32
import AssetBundle.Gzip.Matching
import AssetBundle.Gzip.Stored

/-!
# AssetBundle.Gzip.Container

The gzip container. Written members have no file name and a zero time stamp, so equal input and
level give equal output. A container that is read may hold several members, one after another,
with zero bytes between them; each must have its checksum and its length right.
-/

namespace AssetBundle
namespace Gzip

/-- How hard to compress, from -1 (the default) and 0 (not at all) to 9. -/
structure Level where
  value : Int
  inRange : -1 ≤ value ∧ value ≤ 9

namespace Level

/-- The byte of the header that hints at the effort spent. -/
def effort (level : Level) : UInt8 :=
  if level.value = 9 then 2 else if level.value = 0 ∨ level.value = 1 then 4 else 0

/-- A level given from outside, for data of some size: an integer or a truth value, within the
range of a machine integer, and one of the levels that there are. -/
def ofValue (v : Value) (size : Nat) : Outcome Level :=
  let check (n : Int) : Outcome Level :=
    if n < -2147483648 ∨ 2147483647 < n then .error .integerTooLarge
    else if h : -1 ≤ n ∧ n ≤ 9 then .ok ⟨n, h⟩
    else .error (.compressionLevel size)
  match v with
  | .bool b => check (if b then 1 else 0)
  | .int n => check n
  | v => .error (.notInteger v.typeName)

end Level

def magic : Bytes := [0x1F, 0x8B]

/-- Deflate as the method, no flags, no time, and an unspecific origin. -/
def header (level : Level) : Bytes := magic ++ [8, 0, 0, 0, 0, 0, level.effort, 3]

/-- A trailer keeps the length below 2^32. -/
def lengthBound : Nat := 0x100000000

def trailer (s : Bytes) : Bytes :=
  Stored.littleEndian 4 (Crc32.checksum s).toNat ++ Stored.littleEndian 4 (s.length % lengthBound)

/-- One member around a stream of blocks. -/
def member (level : Level) (stream s : Bytes) : Bytes := header level ++ (stream ++ trailer s)

def dropField (s : Bytes) : Bytes := (s.dropWhile (· ≠ 0)).drop 1

/-- Skips the optional fields of a header: extra data, file name, comment and header check. -/
def skipFields (flags : Nat) (s : Bytes) : Outcome Bytes :=
  let extra : Outcome Bytes :=
    if flags / 4 % 2 = 1 then
      match s with
      | a :: b :: rest =>
        let size := a.toNat + 256 * b.toNat
        if rest.length < size then .error .truncated else .ok (rest.drop size)
      | _ => .error .truncated
    else .ok s
  match extra with
  | .error e => .error e
  | .ok s =>
    let s := if flags / 8 % 2 = 1 then dropField s else s
    let s := if flags / 16 % 2 = 1 then dropField s else s
    if flags / 2 % 2 = 1 then
      if s.length < 2 then .error .truncated else .ok (s.drop 2)
    else .ok s

/-- The header of a member is read off: what is left starts with its stream. -/
def skipHeader (s : Bytes) : Outcome Bytes :=
  match s with
  | 0x1F :: 0x8B :: rest =>
    match rest with
    | method :: flags :: _ :: _ :: _ :: _ :: _ :: _ :: rest =>
      if method ≠ 8 then .error .unknownMethod else skipFields flags.toNat rest
    | _ => .error .truncated
  | _ => .error (.notGzip (s.take 2))

def readLittleEndian : Bytes → Nat
  | [] => 0
  | b :: rest => b.toNat + 256 * readLittleEndian rest

/-- One member: its contents, and what stands behind it and any zero bytes. -/
def readMember (s : Bytes) : Outcome (Bytes × Bytes) :=
  match skipHeader s with
  | .error e => .error e
  | .ok s =>
    match inflate s with
    | .error .endOfInput => .error .truncated
    | .error (.fault fault) => .error (.stream fault)
    | .ok (contents, rest) =>
      if rest.length < 8 then .error .truncated
      else if readLittleEndian (rest.take 4) ≠ (Crc32.checksum contents).toNat then
        .error .checksum
      else if readLittleEndian ((rest.drop 4).take 4) ≠ contents.length % lengthBound then
        .error .wrongLength
      else .ok (contents, (rest.drop 8).dropWhile (· = 0))

/-- Every member takes a byte at least. -/
def decompress.go : Nat → List Bytes → Bytes → Outcome Bytes
  | _, done, [] => .ok done.reverse.flatten
  | 0, done, _ => .ok done.reverse.flatten
  | fuel + 1, done, s =>
    match readMember s with
    | .error e => .error e
    | .ok (contents, rest) => decompress.go fuel (contents :: done) rest

def decompress (s : Bytes) : Outcome Bytes := decompress.go s.length [] s

/-- Compresses at a level. Level zero stores, the other levels look for matches. -/
def pack (level : Level) (s : Bytes) : Bytes :=
  member level (if level.value = 0 then Stored.stream s else Matching.stream s) s

/-- Compresses a value at a level given from outside. -/
def compress (data level : Value) : Outcome Bytes :=
  match data.toBytes? with
  | none => .error (.notCompressible data.typeName)
  | some s =>
    match Level.ofValue level s.length with
    | .error e => .error e
    | .ok level => .ok (pack level s)

end Gzip
end AssetBundle
