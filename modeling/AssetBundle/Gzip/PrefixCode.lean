import AssetBundle.Gzip.Bits

/-!
# AssetBundle.Gzip.PrefixCode

Canonical binary codes. A code is given by the length of each symbol's code word, zero for an
unused symbol; words of one length are consecutive numbers in the order of their symbols, and
shorter words come before longer ones.
-/

namespace AssetBundle
namespace Gzip

/-- How many words there are of each length from one up to the longest, and the symbols in the
order of their words. -/
structure PrefixCode where
  counts : List Nat
  symbols : Array Nat

namespace PrefixCode

def longest : Nat := 15

/-- The room that words of the given counts leave, in words of the greatest length: negative when
the words overlap. -/
def room (counts : List Nat) : Int :=
  counts.foldl (fun room count => 2 * room - Int.ofNat count) 1

/-- Whether some length asks for more words than there are. -/
def overfull (counts : List Nat) : Bool :=
  (counts.foldl (fun (state : Int × Bool) count =>
    let room := 2 * state.1 - Int.ofNat count
    (room, state.2 || room < 0)) (1, false)).2

def ofLengths (lengths : List Nat) : PrefixCode :=
  let numbered := lengths.zipIdx
  let counts := (List.range longest).map fun n => lengths.count (n + 1)
  let used := (counts.reverse.dropWhile (· = 0)).reverse
  let symbols := (List.range longest).flatMap fun n =>
    (numbered.filter fun entry => entry.1 = n + 1).map Prod.snd
  ⟨if used.isEmpty then [0] else used, symbols.toArray⟩

/-- Whether the words leave no gap. -/
def complete (code : PrefixCode) : Bool := room code.counts = 0

/-- Walks down the lengths. `first` is the number of the first word of the length at hand and
`index` the place of its symbol. -/
def read.go (symbols : Array Nat) (word first index : Nat) :
    List Nat → Cursor → Option (Option Nat × Cursor)
  | [], c => some (none, c)
  | count :: counts, c =>
    match c.bit? with
    | none => none
    | some (b, c) =>
      let word := word + b
      if word < first + count then some (symbols[index + (word - first)]?, c)
      else read.go symbols (2 * word) (2 * (first + count)) (index + count) counts c

/-- Reads one word: its symbol, or no symbol when the bits are no word of the code. The whole is
`none` when the bits run out. -/
def read (code : PrefixCode) (c : Cursor) : Option (Option Nat × Cursor) :=
  read.go code.symbols 0 0 0 code.counts c

end PrefixCode
end Gzip
end AssetBundle
