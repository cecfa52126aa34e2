import AssetBundle.Text.Digit

/-!
# AssetBundle.Number.Integer

Reading a decimal integer: blanks around it, an optional sign, decimal digits of any script and
single underscores between them. Very long numerals are refused by a limit on their digits, which
also holds where a number is written.
-/

namespace AssetBundle
namespace Integer

inductive Unreadable where
  | notANumeral
  | tooManyDigits (digits : Nat)
deriving DecidableEq, Repr

/-- The longest numeral that is read or written, in digits. -/
def digitLimit : Nat := 4300

def underscore : CodePoint := 0x5F

/-- The blanks that may surround a numeral. The information separators are not among them. -/
def isPadding (c : CodePoint) : Bool := c.isBlank && !(0x1C ≤ c.val && c.val ≤ 0x1F)

/-- Whether an underscore ends the run or stands beside another one. -/
def badUnderscore : Text → Bool
  | [] => false
  | [c] => c = underscore
  | c :: d :: rest => (c = underscore && d = underscore) || badUnderscore (d :: rest)

def magnitude (digits : Text) : Nat :=
  digits.foldl (fun value c => value * 10 + (CodePoint.decimalValue? c).getD 0) 0

def readMagnitude (t : Text) : Except Unreadable Nat :=
  let run := t.takeWhile fun c => (CodePoint.decimalValue? c).isSome || c = underscore
  let rest := t.drop run.length
  let digits := run.filter (· ≠ underscore)
  if digits.isEmpty || run.head? = some underscore || badUnderscore run then .error .notANumeral
  else if digits.length > digitLimit then .error (.tooManyDigits digits.length)
  else if !rest.isEmpty then .error .notANumeral
  else .ok (magnitude digits)

def read (t : Text) : Except Unreadable Int :=
  match Sequence.trim isPadding t with
  | c :: rest =>
    if c = CodePoint.ofChar '-' then (readMagnitude rest).map fun n => -Int.ofNat n
    else if c = CodePoint.ofChar '+' then (readMagnitude rest).map Int.ofNat
    else (readMagnitude (c :: rest)).map Int.ofNat
  | [] => .error .notANumeral

/-- Whether a number has more digits than are written. -/
def isTooLong (n : Int) : Bool := digitLimit < (Nat.toDigits 10 n.natAbs).length

end Integer
end AssetBundle
