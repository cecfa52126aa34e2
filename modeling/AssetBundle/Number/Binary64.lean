import AssetBundle.Text.CodePoint

/-!
# AssetBundle.Number.Binary64

Binary floating-point numbers of 64 bits, as exact values: a finite one is a mantissa below 2^53
times a power of two. Decimal numerals are rounded to the nearest value, ties to the even
mantissa, and a value is written with the fewest decimal digits that read back as the same value.
-/

namespace AssetBundle

inductive Binary64 where
  | finite (negative : Bool) (mantissa : Nat) (exponent : Int)
  | infinite (negative : Bool)
  | undefined
deriving DecidableEq, Repr

namespace Binary64

/-- The quotient rounded to the nearest integer, a half to the even neighbour. -/
def roundDiv (num den : Nat) : Nat :=
  let q := num / den
  let r := num % den
  if 2 * r < den then q
  else if 2 * r > den then q + 1
  else if q % 2 = 0 then q else q + 1

/-- All mantissas are below 2^53. -/
def mantissaBound : Nat := 0x20000000000000

/-- A number scaled by a power of a base, as numerator and denominator. -/
def scaled (base n : Nat) (exponent : Int) : Nat × Nat :=
  match exponent with
  | .ofNat e => (n * Nat.pow base e, 1)
  | .negSucc e => (n, Nat.pow base (e + 1))

/-- The nearest value to a positive fraction. The exponent is the least one for which the
mantissa stays below 2^53, but no less than -1074. -/
def ofFraction (negative : Bool) (num den : Nat) : Binary64 :=
  let guess : Int := Int.ofNat num.log2 - Int.ofNat den.log2 - 52
  let round (e : Int) : Nat :=
    match e with
    | .ofNat e => roundDiv num (den <<< e)
    | .negSucc e => roundDiv (num <<< (e + 1)) den
  let e := max (guess - 1) (-1074)
  let e :=
    if round e < mantissaBound then e
    else if round (e + 1) < mantissaBound then e + 1
    else e + 2
  let m := round e
  if m = 0 then .finite negative 0 0
  else if e > 971 then .infinite negative
  else .finite negative m e

/-- The nearest value to `digits` times a power of ten. Exponents far outside the range are
settled by the number of digits alone. -/
def ofDecimal (negative : Bool) (digits : Nat) (exponent : Int) : Binary64 :=
  if digits = 0 then .finite negative 0 0
  else
    let size : Int := (Nat.toDigits 10 digits).length + exponent
    if size > 310 then .infinite negative
    else if size < -330 then .finite negative 0 0
    else
      let (num, den) := scaled 10 digits exponent
      ofFraction negative num den

/-- Lowers the mantissa by common factors of two, so that equal values are equal terms. -/
def normalize : Nat → Nat → Int → Nat × Int
  | 0, m, e => (m, e)
  | fuel + 1, m, e =>
    if m ≠ 0 ∧ m % 2 = 0 then normalize fuel (m / 2) (e + 1) else (m, e)

def same (a b : Binary64) : Bool :=
  match a, b with
  | .finite na ma ea, .finite nb mb eb =>
    (ma = 0 && mb = 0) || (na = nb && normalize 60 ma ea = normalize 60 mb eb)
  | .infinite na, .infinite nb => na = nb
  | _, _ => false

/-- The integer that equals the value, if there is one. -/
def toInt? (x : Binary64) : Option Int :=
  match x with
  | .finite negative m e =>
    let (num, den) := scaled 2 m e
    if num % den = 0 then
      let n := Int.ofNat (num / den)
      some (if negative then -n else n)
    else none
  | _ => none

/-- The decimal exponent of the first digit of a positive fraction, from a guess no greater than
it. -/
def leading : Nat → Nat → Nat → Int → Int
  | 0, _, _, k => k
  | fuel + 1, num, den, k =>
    let (a, b) := scaled 10 1 (k + 1)
    if num * b < a * den then k else leading fuel num den (k + 1)

/-- Tries grids of ever more digits until a neighbour of the value on the grid reads back; of two
the nearer one is taken. The answer is the digits as a number and the exponent of the last one. -/
def shortest (m : Nat) (e : Int) (num den : Nat) (first : Int) : Nat → Nat → Nat × Int
  | 0, _ => (m, e)
  | fuel + 1, count =>
    let unit := first - Int.ofNat count
    let (un, ud) := scaled 10 1 unit
    let below := num * ud / (den * un)
    let reads (n : Nat) : Bool := same (ofDecimal false n unit) (.finite false m e)
    match reads below, reads (below + 1) with
    | true, true => (roundDiv (num * ud) (den * un), unit)
    | true, false => (below, unit)
    | false, true => (below + 1, unit)
    | false, false => shortest m e num den first fuel (count + 1)

def digitsOf (m : Nat) (e : Int) : Nat × Int :=
  let (num, den) := scaled 2 m e
  let guess := (Int.ofNat num.log2 - Int.ofNat den.log2) * 30103 / 100000 - 2
  let first := leading 8 num den guess
  shortest m e num den first 20 0

def zeros (n : Nat) : Text := List.replicate n (CodePoint.ofChar '0')

/-- The written form: positional for decimal exponents from -4 to 15 and always with a point,
otherwise with an exponent of at least two digits. -/
def text (x : Binary64) : Text :=
  match x with
  | .undefined => "nan"
  | .infinite negative => if negative then "-inf" else "inf"
  | .finite negative m e =>
    let sign : Text := if negative then "-" else ""
    if m = 0 then sign ++ "0.0"
    else
      let (n, unit) := digitsOf m e
      let all := Text.ofNat n
      let point : Int := all.length + unit
      let kept := (all.reverse.dropWhile (· = CodePoint.ofChar '0')).reverse
      let count : Int := kept.length
      if -4 < point && point ≤ 16 then
        if point ≤ 0 then sign ++ "0." ++ zeros (-point).toNat ++ kept
        else if count ≤ point then sign ++ kept ++ zeros (point - count).toNat ++ ".0"
        else sign ++ kept.take point.toNat ++ "." ++ kept.drop point.toNat
      else
        let exponent := point - 1
        let digits := Text.ofNat exponent.natAbs
        let padded := if digits.length < 2 then zeros 1 ++ digits else digits
        let mantissa := if kept.length ≤ 1 then kept else kept.take 1 ++ "." ++ kept.drop 1
        sign ++ mantissa ++ "e" ++ (if exponent < 0 then "-" else "+") ++ padded

end Binary64
end AssetBundle
