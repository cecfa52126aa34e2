import AssetBundle.Failure
import AssetBundle.Gzip.PrefixCode

/-!
# AssetBundle.Gzip.Inflate

Expanding a stream of compressed blocks. A block is stored, or coded with the fixed codes, or
coded with codes of its own that stand in front of it. The coded blocks hold literal bytes and
references to what has been expanded before.
-/

namespace AssetBundle
namespace Gzip

/-- Why a stream cannot be expanded. -/
inductive Stop where
  | endOfInput
  | fault (fault : StreamFault)
deriving DecidableEq, Repr

namespace Inflate

abbrev Step (α : Type) := Except Stop (α × Cursor)

def takeBits (n : Nat) (c : Cursor) : Step Nat :=
  match c.bits? n with
  | some step => .ok step
  | none => .error .endOfInput

/-- Base value and number of further bits of each length symbol from 257 on. -/
def lengthTable : List (Nat × Nat) := [
  (3, 0), (4, 0), (5, 0), (6, 0), (7, 0), (8, 0), (9, 0), (10, 0), (11, 1), (13, 1), (15, 1),
  (17, 1), (19, 2), (23, 2), (27, 2), (31, 2), (35, 3), (43, 3), (51, 3), (59, 3), (67, 4),
  (83, 4), (99, 4), (115, 4), (131, 5), (163, 5), (195, 5), (227, 5), (258, 0)]

/-- Base value and number of further bits of each distance symbol. -/
def distanceTable : List (Nat × Nat) := [
  (1, 0), (2, 0), (3, 0), (4, 0), (5, 1), (7, 1), (9, 2), (13, 2), (17, 3), (25, 3), (33, 4),
  (49, 4), (65, 5), (97, 5), (129, 6), (193, 6), (257, 7), (385, 7), (513, 8), (769, 8),
  (1025, 9), (1537, 9), (2049, 10), (3073, 10), (4097, 11), (6145, 11), (8193, 12), (12289, 12),
  (16385, 13), (24577, 13)]

-- Not to be opened by computation, which would count the subtraction down one by one.
/-- Base value and number of further bits of a length symbol. -/
@[irreducible]
def lengthRow? (symbol : Nat) : Option (Nat × Nat) := lengthTable[symbol - 257]?

def fixedLiterals : PrefixCode :=
  .ofLengths (List.replicate 144 8 ++ List.replicate 112 9 ++ List.replicate 24 7 ++
    List.replicate 8 8)

def fixedDistances : PrefixCode := .ofLengths (List.replicate 32 5)

/-- Appends bytes found a fixed distance back, one by one, so that a reference may overlap what
it writes. -/
def copyBack (distance : Nat) : Nat → Array UInt8 → Array UInt8
  | 0, out => out
  | n + 1, out => copyBack distance n (out.push (out.getD (out.size - distance) 0))

def stored (out : Array UInt8) (c : Cursor) : Step (Array UInt8) :=
  match c.bytes with
  | a :: b :: x :: y :: rest =>
    let size := a.toNat + 256 * b.toNat
    if x.toNat + 256 * y.toNat ≠ 65535 - size then .error (.fault .storedLengths)
    else
      let data := rest.take size
      if data.length < size then .error .endOfInput
      else .ok (data.foldl Array.push out, .ofBytes (rest.drop size))
  | _ => .error .endOfInput

/-- The distance behind a length: its symbol, then its further bits. -/
def distance (distances : PrefixCode) (c : Cursor) : Step Nat :=
  match distances.read c with
  | none => .error .endOfInput
  | some (none, _) => .error (.fault .distanceSymbol)
  | some (some symbol, c) =>
    match distanceTable[symbol]? with
    | none => .error (.fault .distanceSymbol)
    | some (base, further) =>
      match takeBits further c with
      | .error stop => .error stop
      | .ok (more, c) => .ok (base + more, c)

/-- Reads symbols up to the end of the block. Every symbol takes a bit at least. -/
def coded (literals distances : PrefixCode) :
    Nat → Array UInt8 → Cursor → Step (Array UInt8)
  | 0, _, _ => .error .endOfInput
  | fuel + 1, out, c =>
    match literals.read c with
    | none => .error .endOfInput
    | some (none, _) => .error (.fault .literalSymbol)
    | some (some symbol, c) =>
      if symbol < 256 then coded literals distances fuel (out.push (UInt8.ofNat symbol)) c
      else if symbol = 256 then .ok (out, c)
      else
        match lengthRow? symbol with
        | none => .error (.fault .literalSymbol)
        | some (base, further) =>
          match takeBits further c with
          | .error stop => .error stop
          | .ok (more, c) =>
            match distance distances c with
            | .error stop => .error stop
            | .ok (back, c) =>
              if back > out.size then .error (.fault .distanceTooFar)
              else coded literals distances fuel (copyBack back (base + more) out) c

/-- The order in which the lengths of the code for code lengths are given. -/
def lengthOrder : List Nat :=
  [16, 17, 18, 0, 8, 7, 9, 6, 10, 5, 11, 4, 12, 3, 13, 2, 14, 1, 15]

def threeBits : Nat → Cursor → Step (List Nat)
  | 0, c => .ok ([], c)
  | n + 1, c =>
    match takeBits 3 c with
    | .error stop => .error stop
    | .ok (length, c) =>
      match threeBits n c with
      | .error stop => .error stop
      | .ok (rest, c) => .ok (length :: rest, c)

/-- Reads code lengths until `wanted` are there; `found` has them newest first. -/
def codeLengths (code : PrefixCode) (wanted : Nat) :
    Nat → List Nat → Cursor → Step (List Nat)
  | 0, _, _ => .error .endOfInput
  | fuel + 1, found, c =>
    if found.length ≥ wanted then .ok (found.reverse, c)
    else
      match code.read c with
      | none => .error .endOfInput
      | some (symbol, c) =>
        -- A code without words stands for a row of zeros.
        let symbol := symbol.getD 0
        if symbol < 16 then codeLengths code wanted fuel (symbol :: found) c
        else
          let (width, least) :=
            if symbol = 16 then (2, 3) else if symbol = 17 then (3, 3) else (7, 11)
          match takeBits width c with
          | .error stop => .error stop
          | .ok (more, c) =>
            let count := least + more
            match symbol, found with
            | 16, [] => .error (.fault .lengthRepeat)
            | _, _ =>
              let length := if symbol = 16 then found.headD 0 else 0
              if found.length + count > wanted then .error (.fault .lengthRepeat)
              else codeLengths code wanted fuel (List.replicate count length ++ found) c

/-- Whether a code for literals or distances may be used: it has no overlap, and a gap only if
its words are all one bit long. -/
def usable (code : PrefixCode) : Bool :=
  !PrefixCode.overfull code.counts && (code.complete || code.counts.length = 1)

/-- The codes that stand in front of a block. -/
def ownCodes (c : Cursor) : Step (PrefixCode × PrefixCode) :=
  match takeBits 14 c with
  | .error stop => .error stop
  | .ok (sizes, c) =>
    let literalCount := sizes % 32 + 257
    let distanceCount := sizes / 32 % 32 + 1
    let lengthCount := sizes / 1024 + 4
    if literalCount > 286 ∨ distanceCount > 30 then .error (.fault .symbolCounts)
    else
      match threeBits lengthCount c with
      | .error stop => .error stop
      | .ok (given, c) =>
        let lengths := (List.range 19).map fun symbol =>
          ((lengthOrder.zip given).lookup symbol).getD 0
        let code := PrefixCode.ofLengths lengths
        let unused := lengths.all (· = 0)
        if !unused && (PrefixCode.overfull code.counts || !code.complete) then
          .error (.fault .codeLengthCode)
        else
          let wanted := literalCount + distanceCount
          match codeLengths code wanted (wanted + 1) [] c with
          | .error stop => .error stop
          | .ok (all, c) =>
            let literals := PrefixCode.ofLengths (all.take literalCount)
            let distances := PrefixCode.ofLengths (all.drop literalCount)
            if all.getD 256 0 = 0 then .error (.fault .noEndOfBlock)
            else if !usable literals then .error (.fault .literalCode)
            else if !usable distances then .error (.fault .distanceCode)
            else .ok ((literals, distances), c)

/-- One block: whether it is the last one, and the output with its contents. -/
def block (out : Array UInt8) (c : Cursor) : Step (Bool × Array UInt8) :=
  match takeBits 3 c with
  | .error stop => .error stop
  | .ok (head, c) =>
    let last := head % 2 = 1
    let contents : Step (Array UInt8) :=
      match head / 2 with
      | 0 => stored out c
      | 1 => coded fixedLiterals fixedDistances (c.size + 1) out c
      | 2 =>
        match ownCodes c with
        | .error stop => .error stop
        | .ok ((literals, distances), c) => coded literals distances (c.size + 1) out c
      | _ => .error (.fault .blockType)
    match contents with
    | .error stop => .error stop
    | .ok (out, c) => .ok ((last, out), c)

def blocks : Nat → Array UInt8 → Cursor → Step (Array UInt8)
  | 0, _, _ => .error .endOfInput
  | fuel + 1, out, c =>
    match block out c with
    | .error stop => .error stop
    | .ok ((true, out), c) => .ok (out, c)
    | .ok ((false, out), c) => blocks fuel out c

end Inflate

/-- Expands one stream: its contents, and the bytes behind it. -/
def inflate (s : Bytes) : Except Stop (Bytes × Bytes) :=
  let c := Cursor.ofBytes s
  match Inflate.blocks (c.size + 1) #[] c with
  | .error stop => .error stop
  | .ok (out, c) => .ok (out.toList, c.bytes)

end Gzip
end AssetBundle
