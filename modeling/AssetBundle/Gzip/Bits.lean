import AssetBundle.Text.CodePoint

/-!
# AssetBundle.Gzip.Bits

A byte string read and written bit by bit, the low bit of a byte first. `Cursor` is the reading
side, `Pen` the writing side.
-/

namespace AssetBundle
namespace Gzip

/-- The bits of a byte that are left to read, lowest first, and the bytes behind it. -/
structure Cursor where
  byte : Nat
  left : Nat
  rest : Bytes

namespace Cursor

def ofBytes (s : Bytes) : Cursor := ⟨0, 0, s⟩

/-- The number of bits to the end. -/
def size (c : Cursor) : Nat := c.left + 8 * c.rest.length

def bit? (c : Cursor) : Option (Nat × Cursor) :=
  match c.left, c.rest with
  | left + 1, rest => some (c.byte % 2, ⟨c.byte / 2, left, rest⟩)
  | 0, b :: rest => some (b.toNat % 2, ⟨b.toNat / 2, 7, rest⟩)
  | 0, [] => none

/-- The next bits as a number, the first one lowest. -/
def bits? : Nat → Cursor → Option (Nat × Cursor)
  | 0, c => some (0, c)
  | n + 1, c =>
    match c.bit? with
    | none => none
    | some (b, c) =>
      match bits? n c with
      | none => none
      | some (high, c) => some (b + 2 * high, c)

/-- The whole bytes behind the byte at hand. -/
def bytes (c : Cursor) : Bytes := c.rest

end Cursor

/-- Bytes written, newest first, and the bits of the byte in the making. -/
structure Pen where
  done : Bytes
  byte : Nat
  used : Nat

namespace Pen

def empty : Pen := ⟨[], 0, 0⟩

def bit (p : Pen) (b : Nat) : Pen :=
  let byte := p.byte + (b % 2) <<< p.used
  if p.used = 7 then ⟨UInt8.ofNat byte :: p.done, 0, 0⟩ else ⟨p.done, byte, p.used + 1⟩

/-- Writes so many bits of a number, the lowest first. -/
def bits (p : Pen) : Nat → Nat → Pen
  | 0, _ => p
  | width + 1, n => (p.bit (n % 2)).bits width (n / 2)

/-- Writes a code word: so many bits of a number, the highest first. -/
def code (p : Pen) : Nat → Nat → Pen
  | 0, _ => p
  | width + 1, n => (p.bit (n >>> width % 2)).code width n

def toBytes (p : Pen) : Bytes :=
  (if p.used = 0 then p.done else UInt8.ofNat p.byte :: p.done).reverse

end Pen
end Gzip
end AssetBundle
