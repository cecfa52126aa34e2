import AssetBundle.Sequence
import AssetBundle.Text.CodePoint

/-!
# AssetBundle.Hostname.Punycode

Text in letters, digits and hyphens. What is ASCII comes first. The other code points follow in
ascending order as the steps of a walk through all pairs of a code point and a place in the text;
the lengths of the steps are numerals of base 36 that mark their own ends. How soon a numeral ends
is adapted to the steps before it.
-/

namespace AssetBundle
namespace Punycode

def base : Nat := 36

def hyphen : CodePoint := 0x2D

/-- A digit: letters first, then numerals. -/
def digit (n : Nat) : CodePoint := Fin.ofNat 0x110000 (if n < 26 then n + 97 else n + 22)

def digitValue? (c : CodePoint) : Option Nat :=
  if 97 ≤ c.val && c.val ≤ 122 then some (c.val - 97)
  else if 65 ≤ c.val && c.val ≤ 90 then some (c.val - 65)
  else if 48 ≤ c.val && c.val ≤ 57 then some (c.val - 22)
  else none

/-- The least digit that does not end a numeral, at a multiple of the base that grows by place. -/
def threshold (bias place : Nat) : Nat := min 26 (max 1 (place - bias))

def numeral.go (bias : Nat) : Nat → Nat → Nat → Text
  | 0, _, n => [digit n]
  | fuel + 1, place, n =>
    let t := threshold bias place
    if n < t then [digit n]
    else
      let rest := (n - t) / (base - t)
      digit (t + (n - t) % (base - t)) :: numeral.go bias fuel (place + base) rest

/-- A number as a numeral, which has at most one digit for each of its halvings. -/
def numeral (bias n : Nat) : Text := numeral.go bias (n.log2 + 1) base n

def adapt.go : Nat → Nat → Nat → Nat
  | 0, skipped, step => skipped + base * step / (step + 38)
  | fuel + 1, skipped, step =>
    if 455 < step then adapt.go fuel (skipped + base) (step / 35)
    else skipped + base * step / (step + 38)

/-- The bias behind a step in a text of so many code points. The first step is damped, since it is
long. -/
def adapt (step count : Nat) (isFirst : Bool) : Nat :=
  let step := if isFirst then step / 700 else step / 2
  let step := step + step / count
  adapt.go step.log2 0 step

/-- Where a writer stands: the numerals so far, the length of the step so far, the bias, and the
number of code points written. -/
structure Writing where
  out : Text
  step : Nat
  bias : Nat
  count : Nat

/-- Passes one code point of the text while looking for those of a given number. -/
def Writing.pass (plain : Nat) (w : Writing) (sought : Nat) (c : CodePoint) : Writing :=
  if c.val < sought then { w with step := w.step + 1 }
  else if c.val = sought then
    ⟨w.out ++ numeral w.bias w.step, 0, adapt w.step (w.count + 1) (w.count = plain), w.count + 1⟩
  else w

/-- Writes all code points of the given numbers, which ascend. -/
def Writing.all (t : Text) (plain : Nat) (w : Writing) (reached : Nat) : List Nat → Writing
  | [] => w
  | sought :: rest =>
    let w := { w with step := w.step + (sought - reached) * (w.count + 1) }
    let w := t.foldl (fun w c => w.pass plain sought c) w
    Writing.all t plain { w with step := w.step + 1 } (sought + 1) rest

def isPlain (c : CodePoint) : Bool := c.val < 0x80

/-- Drops repetitions from a sorted list. -/
def distinct : List Nat → List Nat
  | a :: b :: rest => if a = b then distinct (b :: rest) else a :: distinct (b :: rest)
  | short => short

def encode (t : Text) : Text :=
  let plain := t.filter isPlain
  let sought := distinct (((t.filter fun c => !isPlain c).map Fin.val).mergeSort fun a b => a ≤ b)
  let front : Text := if plain.isEmpty then [] else plain ++ [hyphen]
  front ++ (Writing.all t plain.length ⟨[], 0, 72, plain.length⟩ 0x80 sought).out

/-- Reads a numeral: its value on top of a sum, and what stands behind it. -/
def readNumeral (bias : Nat) (place weight sum : Nat) : Text → Option (Nat × Text)
  | [] => none
  | c :: rest =>
    match digitValue? c with
    | none => none
    | some n =>
      let t := threshold bias place
      if n < t then some (sum + n * weight, rest)
      else readNumeral bias (place + base) (weight * (base - t)) (sum + n * weight) rest

def read (plain : Nat) : Nat → Text → Nat → Nat → Nat → Text → Option Text
  | 0, done, _, _, _, _ => some done
  | _ + 1, done, _, _, _, [] => some done
  | fuel + 1, done, reached, spot, bias, c :: rest =>
    match readNumeral bias base 1 0 (c :: rest) with
    | none => none
    | some (step, rest) =>
      let count := done.length + 1
      let next := reached + (spot + step) / count
      let spot := (spot + step) % count
      if h : next < 0x110000 then
        read plain fuel (done.take spot ++ (⟨next, h⟩ :: done.drop spot)) next (spot + 1)
          (adapt step count (done.length = plain)) rest
      else none

/-- Reads text back. Each code point that is not plain takes at least one digit. -/
def decode (t : Text) : Option Text :=
  let (plain, steps) := (Sequence.cutAtLast? hyphen t).getD ([], t)
  read plain.length steps.length plain 0x80 0 72 steps

end Punycode
end AssetBundle
