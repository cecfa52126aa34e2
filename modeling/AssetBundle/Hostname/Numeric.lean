import AssetBundle.Sequence
import AssetBundle.Text.Quoted

/-!
# AssetBundle.Hostname.Numeric

Numeric addresses: four numbers between dots, or eight groups of hexadecimal digits between
colons, of which two colons stand for one or more and a dotted address for the last two. Readers
differ in the numbers they admit between dots.
-/

namespace AssetBundle
namespace Hostname

def isAsciiDigit (c : CodePoint) : Bool := 48 ≤ c.val && c.val ≤ 57

/-- A number of up to three digits. -/
def isShortNumber (t : Text) : Bool := !t.isEmpty && t.length ≤ 3 && t.all isAsciiDigit

def valueOf (digits : Text) : Nat := digits.foldl (fun n c => n * 10 + (c.val - 48)) 0

/-- A number of one byte, without needless zeros. -/
def isByteNumber (t : Text) : Bool :=
  isShortNumber t && valueOf t ≤ 255 && (t.length = 1 || t.head? ≠ some 0x30)

/-- Whether a text is four numbers between dots. -/
def isDotted (isNumber : Text → Bool) (t : Text) : Bool :=
  let numbers := Sequence.splitOn ([0x2E] : Text) t
  numbers.length = 4 && numbers.all isNumber

/-- The number of 16-bit groups written between colons. A dotted address may be the last two. -/
def groupCount? (isNumber : Text → Bool) (mayEndDotted : Bool) (t : Text) : Option Nat :=
  let isGroup (g : Text) : Bool :=
    !g.isEmpty && g.length ≤ 4 && g.all fun c => (Quoted.hexValue? c).isSome
  let groups := Sequence.splitOn ([0x3A] : Text) t
  if t.isEmpty then some 0
  else if groups.all isGroup then some groups.length
  else if mayEndDotted && groups.dropLast.all isGroup && groups.getLast?.any (isDotted isNumber)
    then some (groups.length + 1)
  else none

/-- Whether a text is an address of eight groups. -/
def isGrouped (isNumber : Text → Bool) (t : Text) : Bool :=
  match Sequence.cutAt? ("::" : Text) t with
  | none => groupCount? isNumber true t = some 8
  | some (left, right) =>
    match groupCount? isNumber false left, groupCount? isNumber true right with
    | some m, some n => m + n ≤ 7
    | _, _ => false

/-- Whether a text is an address of eight groups, perhaps with the zone in which it is valid. -/
def isZoned (t : Text) : Bool :=
  match Sequence.cutAt? ([0x25] : Text) t with
  | none => isGrouped isByteNumber t
  | some (address, zone) =>
    isGrouped isByteNumber address && !zone.isEmpty && !zone.contains 0x25

end Hostname
end AssetBundle
