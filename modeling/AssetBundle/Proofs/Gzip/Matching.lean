import AssetBundle.Proofs.Gzip.Bits
import AssetBundle.Proofs.Gzip.Tokens
import Mathlib.Data.List.Chain
import Mathlib.Data.List.Induction

/-!
# AssetBundle.Proofs.Gzip.Matching

A stream of matching is expanded to the bytes that it was made of (`inflate_stream`). Its tokens are
written one behind the other, as bits that do not depend on what stands in front (`adds_write`). The
reader finds the symbol of every word of the fixed codes (`isWord_literal`, `isWord_distance`), and
adds to the base of a row what the further bits hold (`row_of_chain`). So it reads the tokens back
in their order, and holds the bytes that they spell (`coded_tokens`).
-/

namespace AssetBundle
namespace Gzip

open Cursor (Gives)

variable {c c' : Cursor}

namespace PrefixCode

/-- The place of the symbol whose word these bits are. -/
def place? : Nat → Nat → Nat → List Nat → List Nat → Option Nat
  | word, first, index, count :: counts, b :: bits =>
    let word := word + b
    if word < first + count then
      if bits.isEmpty then some (index + (word - first)) else none
    else place? (2 * word) (2 * (first + count)) (index + count) counts bits
  | _, _, _, _, _ => none

/-- Whether bits are the word of a symbol. -/
def IsWord (code : PrefixCode) (symbol : Nat) (word : List Nat) : Prop :=
  ∃ place, place? 0 0 0 code.counts word = some place ∧ code.symbols[place]? = some symbol

theorem go_of_place {symbols : Array Nat} {symbol place : Nat}
    (hsymbol : symbols[place]? = some symbol) : ∀ {counts word : List Nat} {start first index : Nat}
    {c : Cursor}, place? start first index counts word = some place → Gives c word c' →
      read.go symbols start first index counts c = some (some symbol, c') := by
  intro counts
  induction counts with
  | nil =>
    intro word start first index c hplace _
    cases word <;> cases hplace
  | cons count counts ih =>
    intro word start first index c hplace hgives
    cases hgives with
    | none => cases hplace
    | next hbit hrest =>
      rw [place?] at hplace
      rw [read.go, hbit]
      dsimp only at hplace ⊢
      split at hplace
      · next hword =>
        split at hplace <;> cases hplace
        next hend =>
          cases List.isEmpty_iff.1 hend
          cases hrest
          rw [if_pos hword, hsymbol]
      · next hword =>
        rw [if_neg hword]
        exact ih hplace hrest

variable {code : PrefixCode} {symbol : Nat} {word : List Nat}

theorem IsWord.read (h : code.IsWord symbol word) (hgives : Gives c word c') :
    code.read c = some (some symbol, c') := by
  obtain ⟨_, hplace, hsymbol⟩ := h
  exact go_of_place hsymbol hplace hgives

/-- Where the words lead to the places of all symbols, they are the words of these symbols. -/
theorem isWord_of_places (wordOf : Nat → List Nat)
    (hplaces : ∀ entry ∈ code.symbols.toList.zipIdx,
      place? 0 0 0 code.counts (wordOf entry.1) = some entry.2)
    (hsymbol : symbol ∈ code.symbols.toList) : code.IsWord symbol (wordOf symbol) := by
  obtain ⟨place, hplace⟩ := List.mem_iff_getElem?.1 hsymbol
  refine ⟨place, hplaces (symbol, place) (List.mk_mem_zipIdx_iff_getElem?.2 hplace), ?_⟩
  rwa [Array.getElem?_toList] at hplace

end PrefixCode

namespace Matching

open Inflate

/-- The word of a literal or length symbol, bit by bit. -/
def literalBits (symbol : Nat) : List Nat :=
  highBits (literalWord symbol).1 (literalWord symbol).2

theorem length_literalBits_pos (symbol : Nat) : 0 < (literalBits symbol).length := by
  rw [literalBits, length_highBits, literalWord]
  split
  · exact Nat.succ_pos 7
  · split
    · exact Nat.succ_pos 8
    · split
      · exact Nat.succ_pos 6
      · exact Nat.succ_pos 7

/-- The shortest words of the fixed code are those of the lengths. -/
theorem symbols_fixedLiterals : fixedLiterals.symbols.toList = List.range' 256 24 ++
    (List.range 144 ++ (List.range' 280 8 ++ List.range' 144 112)) := by decide +kernel

theorem isWord_literal (symbol : Nat) (h : symbol < 288) :
    fixedLiterals.IsWord symbol (literalBits symbol) := by
  refine PrefixCode.isWord_of_places literalBits (by decide +kernel) ?_
  rw [symbols_fixedLiterals]
  simp only [List.mem_append, List.mem_range'_1, List.mem_range]
  omega

theorem isWord_distance (symbol : Nat) (h : symbol < 32) :
    fixedDistances.IsWord symbol (highBits 5 symbol) := by
  refine PrefixCode.isWord_of_places (highBits 5) (by decide +kernel) ?_
  rw [show fixedDistances.symbols.toList = List.range 32 by decide +kernel]
  exact List.mem_range.2 h

section Row

variable {table : List (Nat × Nat)} {value : Nat}

theorem row_concat (table : List (Nat × Nat)) (r : Nat × Nat) (value : Nat) :
    row (table ++ [r]) value =
      if r.1 ≤ value then (table.length, r.2, value - r.1) else row table value := by
  simp [row, List.zipIdx_append, List.foldl_append]

/-- In a table whose rows reach up to the next one, the row of a value has it, unless it is the last
one and the value lies behind it. -/
theorem row_of_chain (hchain : table.IsChain fun r next => next.1 ≤ r.1 + bitRoom r.2)
    (hhead : ∃ r ∈ table.head?, r.1 ≤ value) :
    ∃ base, table[(row table value).1]? = some (base, (row table value).2.1) ∧
      base + (row table value).2.2 = value ∧
      (table.getLast? = some (base, (row table value).2.1) ∨
        value < base + bitRoom (row table value).2.1) := by
  induction table using List.reverseRecOn with
  | nil =>
    obtain ⟨_, hmem, _⟩ := hhead
    cases hmem
  | append_singleton table r ih =>
    rw [row_concat]
    split
    · next hle =>
      refine ⟨r.1, ?_, Nat.add_sub_cancel' hle, .inl ?_⟩
      · simp
      · simp
    · next hgt =>
      obtain ⟨hfront, _, hjoin⟩ := List.isChain_append.1 hchain
      have hhead' : ∃ r ∈ table.head?, r.1 ≤ value := by
        obtain ⟨first, hfirst, hle⟩ := hhead
        cases table with
        | nil =>
          cases hfirst
          exact absurd hle hgt
        | cons next table => exact ⟨first, hfirst, hle⟩
      obtain ⟨base, hrow, hsum, hlast⟩ := ih hfront hhead'
      refine ⟨base, ?_, hsum, .inr ?_⟩
      · rw [List.getElem?_append_left (List.getElem?_eq_some_iff.1 hrow).1, hrow]
      · rcases hlast with hlast | hlt
        · have := hjoin _ hlast r rfl
          dsimp only at this
          omega
        · exact hlt

/-- Whether a row holds a value: its base and the bits behind it come to the value. -/
def Holds (table : List (Nat × Nat)) (value : Nat) (found : Nat × Nat × Nat) : Prop :=
  ∃ base, table[found.1]? = some (base, found.2.1) ∧ base + found.2.2 = value ∧
    found.2.2 < bitRoom found.2.1

theorem holds_row (hchain : table.IsChain fun r next => next.1 ≤ r.1 + bitRoom r.2)
    (hhead : ∃ r ∈ table.head?, r.1 ≤ value) (hlast : ∀ r ∈ table.getLast?, value < r.1 + bitRoom r.2) :
    Holds table value (row table value) := by
  obtain ⟨base, hrow, hsum, hend | hlt⟩ := row_of_chain hchain hhead
  · have := hlast _ hend
    exact ⟨base, hrow, hsum, by dsimp only at this; omega⟩
  · exact ⟨base, hrow, hsum, by omega⟩

theorem holds_length {length : Nat} (h : 3 ≤ length ∧ length ≤ longestMatch) :
    Holds lengthTable length (row lengthTable length) := by
  refine holds_row (by decide) ⟨(3, 0), rfl, h.1⟩ ?_
  rintro _ ⟨⟩
  exact Nat.lt_succ_of_le h.2

theorem holds_distance {distance : Nat} (h : 0 < distance ∧ distance ≤ farthestMatch) :
    Holds distanceTable distance (row distanceTable distance) := by
  refine holds_row (by decide) ⟨(1, 0), rfl, h.1⟩ ?_
  rintro _ ⟨⟩
  exact Nat.lt_succ_of_le h.2

theorem lengthRow?_add (index : Nat) : lengthRow? (257 + index) = lengthTable[index]? := by
  have hindex : 257 + index - 257 = index := Nat.add_sub_cancel_left 257 index
  unfold lengthRow?
  rw [hindex]

end Row

/-- The bits behind the word of a row. -/
def furtherBits (found : Nat × Nat × Nat) : List Nat := lowBits found.2.1 found.2.2

/-- The bits of a token. -/
def Token.bits : Token → List Nat
  | .literal b => literalBits b.toNat
  | .reference length distance =>
    literalBits (257 + (row lengthTable length).1) ++ furtherBits (row lengthTable length) ++
      highBits 5 (row distanceTable distance).1 ++ furtherBits (row distanceTable distance)

theorem Token.length_bits_pos (token : Token) : 0 < token.bits.length := by
  cases token with
  | literal b => exact length_literalBits_pos _
  | reference length distance =>
    have := length_literalBits_pos (257 + (row lengthTable length).1)
    simp only [bits, List.length_append]
    omega

theorem length_le_length_bits (tokens : List Token) :
    tokens.length ≤ (tokens.flatMap Token.bits).length := by
  induction tokens with
  | nil => exact Nat.le_refl 0
  | cons token tokens ih =>
    have := token.length_bits_pos
    rw [List.flatMap_cons, List.length_append, List.length_cons]
    omega

theorem adds_write (p : Pen) (token : Token) : p.Adds token.bits (write p token) := by
  cases token with
  | literal b => exact p.adds_code _ _
  | reference length distance =>
    exact (((p.adds_code _ _).trans (Pen.adds_bits _ _ _)).trans (Pen.adds_code _ _ _)).trans
      (Pen.adds_bits _ _ _)

theorem adds_foldl (tokens : List Token) (p : Pen) :
    p.Adds (tokens.flatMap Token.bits) (tokens.foldl write p) := by
  induction tokens generalizing p with
  | nil => exact .refl p
  | cons token tokens ih => exact (adds_write p token).trans (ih (write p token))

theorem takeBits_of_gives {width n : Nat} (hn : n < bitRoom width) (h : Gives c (lowBits width n) c') :
    takeBits width c = .ok (n, c') := by
  rw [takeBits, h.bits? hn]

section Codes

variable {literals distances : PrefixCode}
  (hliterals : ∀ symbol < 288, literals.IsWord symbol (literalBits symbol))
  (hdistances : ∀ symbol < 32, distances.IsWord symbol (highBits 5 symbol))

include hdistances in
/-- A distance is read back. -/
theorem distance_of_gives {distance : Nat} (h : 0 < distance ∧ distance ≤ farthestMatch)
    (hgives : Gives c (highBits 5 (row distanceTable distance).1 ++
      furtherBits (row distanceTable distance)) c') :
    Inflate.distance distances c = .ok (distance, c') := by
  obtain ⟨base, hrow, hsum, hfits⟩ := holds_distance h
  obtain ⟨m, hsymbol, hfurther⟩ := hgives.split
  have hindex : (row distanceTable distance).1 < 30 := (List.getElem?_eq_some_iff.1 hrow).1
  rw [Inflate.distance, (hdistances _ (by omega)).read hsymbol]
  dsimp only
  rw [hrow]
  dsimp only
  rw [takeBits_of_gives hfits hfurther]
  dsimp only
  rw [hsum]

include hliterals hdistances in
/-- Tokens are read back, up to the end of the block, as the bytes that they spell. -/
theorem coded_tokens {s : Bytes} {position : Nat} {tokens : List Token}
    (h : Spells s position tokens) : ∀ {fuel : Nat} {out : Array UInt8} {c : Cursor},
      tokens.length < fuel → out.toList = s.take position →
        Gives c (tokens.flatMap Token.bits ++ literalBits 256) c' →
          coded literals distances fuel out c = .ok (s.toArray, c') := by
  induction h with
  | none =>
    intro fuel out c hfuel hout hgives
    obtain ⟨fuel, rfl⟩ : ∃ n, fuel = n + 1 := ⟨fuel - 1, by omega⟩
    rw [List.take_length] at hout
    rw [List.flatMap_nil, List.nil_append] at hgives
    rw [coded, (hliterals 256 (by decide)).read hgives]
    dsimp only
    rw [if_neg (by decide), if_pos rfl, ← hout]
  | @literal position b tokens hb _ ih =>
    intro fuel out c hfuel hout hgives
    obtain ⟨fuel, rfl⟩ : ∃ n, fuel = n + 1 := ⟨fuel - 1, by omega⟩
    rw [List.flatMap_cons, List.append_assoc, Token.bits] at hgives
    obtain ⟨m, hword, hrest⟩ := hgives.split
    have hlt := b.toNat_lt
    rw [coded, (hliterals b.toNat (Nat.lt_trans hlt (by decide))).read hword]
    dsimp only
    rw [if_pos hlt, UInt8.ofNat_toNat]
    refine ih (by rw [List.length_cons] at hfuel; omega) ?_ hrest
    rw [Array.toList_push, hout, List.take_add_one, hb]
    rfl
  | @reference position length distance tokens hrepeat _ ih =>
    intro fuel out c hfuel hout hgives
    obtain ⟨fuel, rfl⟩ : ∃ n, fuel = n + 1 := ⟨fuel - 1, by omega⟩
    obtain ⟨base, hrow, hsum, hfits⟩ := holds_length hrepeat.long
    have hindex : (row lengthTable length).1 < 29 := (List.getElem?_eq_some_iff.1 hrow).1
    simp only [List.flatMap_cons, Token.bits, List.append_assoc] at hgives
    obtain ⟨m, hword, hgives⟩ := hgives.split
    obtain ⟨m', hfurther, hgives⟩ := hgives.split
    rw [← List.append_assoc] at hgives
    obtain ⟨m'', hback, hrest⟩ := hgives.split
    have hsize : out.size = position := by
      have := hrepeat.end_le
      rw [← Array.length_toList, hout, List.length_take]
      omega
    rw [coded, (hliterals _ (by omega)).read hword]
    dsimp only
    rw [if_neg (by omega), if_neg (by omega), lengthRow?_add, hrow]
    dsimp only
    rw [takeBits_of_gives hfits hfurther]
    dsimp only
    rw [distance_of_gives hdistances hrepeat.near hback]
    dsimp only
    rw [hsize, if_neg (Nat.not_lt.2 hrepeat.inFront), hsum]
    exact ih (by rw [List.length_cons] at hfuel; omega)
      (copyBack_repeat hrepeat.near.1 length position out hrepeat.inFront hout hrepeat.agrees) hrest

end Codes

/-- A stream of matching is expanded to the bytes that it was made of, and what stands behind it is
left. -/
theorem inflate_stream (s rest : Bytes) : inflate (stream s ++ rest) = .ok (s, rest) := by
  let start := (Pen.empty.bits 1 1).bits 2 1
  let written := (tokens s).foldl write start
  have hadds : Pen.empty.Adds
      (lowBits 3 3 ++ ((tokens s).flatMap Token.bits ++ literalBits 256))
      (written.code (literalWord 256).1 (literalWord 256).2) :=
    ((Pen.empty.adds_bits 1 1).trans (Pen.adds_bits _ 2 1)).trans
      ((adds_foldl (tokens s) start).trans (written.adds_code _ _))
  obtain ⟨hproper, hall⟩ := hadds Pen.isProper_empty
  obtain ⟨c', hgives, hrest⟩ := Pen.gives_toBytes hproper rest
  rw [hall, Pen.all_empty, List.nil_append] at hgives
  obtain ⟨m, hhead, htokens⟩ := hgives.split
  have hfuel : (tokens s).length < m.size + 1 := by
    have hsize := htokens.size_eq
    have := length_le_length_bits (tokens s)
    rw [List.length_append] at hsize
    omega
  have hcoded : coded fixedLiterals fixedDistances (m.size + 1) #[] m = .ok (s.toArray, c') :=
    coded_tokens isWord_literal isWord_distance (spells_tokens s) hfuel rfl htokens
  have hblock : block #[] (.ofBytes (stream s ++ rest)) = .ok ((true, s.toArray), c') := by
    rw [block, show takeBits 3 (.ofBytes (stream s ++ rest)) = .ok (3, m) from
      takeBits_of_gives (by decide) hhead]
    dsimp only
    rw [hcoded]
    rfl
  rw [inflate, blocks, hblock]
  dsimp only
  rw [hrest]

end Matching
end Gzip
end AssetBundle
