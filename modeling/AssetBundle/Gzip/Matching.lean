import Std.Data.HashMap
import AssetBundle.Gzip.Inflate

/-!
# AssetBundle.Gzip.Matching

Compression by matching: a run of three bytes or more that was seen before is written as a
reference to its last occurrence, any other byte as itself. All goes into a single block with the
fixed codes.
-/

namespace AssetBundle
namespace Gzip
namespace Matching

inductive Token where
  | literal (b : UInt8)
  | reference (length distance : Nat)
deriving DecidableEq, Repr

def longestMatch : Nat := 258
def farthestMatch : Nat := 32768

/-- How many bytes from the positions `i` and `j` on agree, counting up to a limit. -/
def agreement (s : Array UInt8) (i j : Nat) : Nat → Nat → Nat
  | 0, n => n
  | fuel + 1, n =>
    match s[i + n]?, s[j + n]? with
    | some a, some b => if a = b then agreement s i j fuel (n + 1) else n
    | _, _ => n

/-- Three bytes as one number, the key under which their position is kept. -/
def key (a b c : UInt8) : Nat := a.toNat + 256 * (b.toNat + 256 * c.toNat)

/-- Walks over the bytes with the last position of each triple. While `skip` is positive the
bytes belong to a reference that has been emitted. -/
def tokens.go (s : Array UInt8) (seen : Std.HashMap Nat Nat) (done : List Token)
    (position skip : Nat) : Bytes → List Token
  | [] => done.reverse
  | a :: rest =>
    match rest with
    | b :: c :: _ =>
      let k := key a b c
      let last := seen[k]?
      let seen := seen.insert k position
      match skip with
      | skip + 1 => tokens.go s seen done (position + 1) skip rest
      | 0 =>
        match last with
        | some j =>
          let length := agreement s j position longestMatch 0
          if position - j ≤ farthestMatch ∧ 3 ≤ length then
            tokens.go s seen (.reference length (position - j) :: done) (position + 1)
              (length - 1) rest
          else tokens.go s seen (.literal a :: done) (position + 1) 0 rest
        | none => tokens.go s seen (.literal a :: done) (position + 1) 0 rest
    | _ =>
      match skip with
      | skip + 1 => tokens.go s seen done (position + 1) skip rest
      | 0 => tokens.go s seen (.literal a :: done) (position + 1) 0 rest

def tokens (s : Bytes) : List Token := tokens.go s.toArray {} [] 0 0 s

/-- The word of a literal or length symbol in the fixed code: its width and its number. -/
def literalWord (symbol : Nat) : Nat × Nat :=
  if symbol < 144 then (8, 48 + symbol)
  else if symbol < 256 then (9, 400 + (symbol - 144))
  else if symbol < 280 then (7, symbol - 256)
  else (8, 192 + (symbol - 280))

/-- The last row of a table whose base does not exceed a value: the number of the row, how many
further bits it has, and what they hold. -/
def row (table : List (Nat × Nat)) (value : Nat) : Nat × Nat × Nat :=
  table.zipIdx.foldl (fun best ((base, further), index) =>
    if base ≤ value then (index, further, value - base) else best) (0, 0, 0)

def write (p : Pen) : Token → Pen
  | .literal b =>
    let (width, n) := literalWord b.toNat
    p.code width n
  | .reference length distance =>
    let (index, further, more) := row Inflate.lengthTable length
    let (width, n) := literalWord (257 + index)
    let p := (p.code width n).bits further more
    let (index, further, more) := row Inflate.distanceTable distance
    (p.code 5 index).bits further more

def stream (s : Bytes) : Bytes :=
  let p := (Pen.empty.bits 1 1).bits 2 1
  let p := (tokens s).foldl write p
  let (width, n) := literalWord 256
  (p.code width n).toBytes

end Matching
end Gzip
end AssetBundle
