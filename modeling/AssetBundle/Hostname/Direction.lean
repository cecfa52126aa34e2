import AssetBundle.Hostname.Marks

/-!
# AssetBundle.Hostname.Direction

The direction of labels. A label that holds anything written from right to left has one direction
throughout, given by its first letter, and ends in a letter or digit, marks apart. So its order
does not change with what stands around it.
-/

namespace AssetBundle
namespace Hostname

/-- How a code point takes part in the direction of a line. -/
inductive Flow where
  | leftward
  | rightward
  /-- A digit that goes with either direction. -/
  | digit
  /-- A digit of Arabic script. -/
  | arabicDigit
  | mark
  | neutral
deriving DecidableEq, Repr

/-- Letters that are written from right to left. -/
def leftwardRanges : List (Nat × Nat) := [
  (1488, 1514), (1519, 1524), (1568, 1599), (1601, 1610), (1646, 1647), (1649, 1652), (1657, 1747),
  (1749, 1749), (1765, 1766), (1774, 1775), (1786, 1791), (1808, 1808), (1810, 1839), (1869, 1957),
  (1969, 1969), (1984, 2026), (2036, 2037), (2048, 2069), (2074, 2074), (2084, 2084), (2088, 2088),
  (2112, 2136), (2144, 2154), (2160, 2183), (2185, 2190), (2208, 2249), (65139, 65139),
  (67584, 67589), (67592, 67592), (67594, 67637), (67639, 67640), (67644, 67644), (67647, 67669),
  (67680, 67702), (67712, 67742), (67808, 67826), (67828, 67829), (67840, 67861), (67872, 67897),
  (67968, 68023), (68030, 68031), (68096, 68096), (68112, 68115), (68117, 68119), (68121, 68149),
  (68192, 68220), (68224, 68252), (68288, 68295), (68297, 68324), (68352, 68405), (68416, 68437),
  (68448, 68466), (68480, 68497), (68608, 68680), (68800, 68850), (68864, 68899), (69248, 69289),
  (69296, 69297), (69376, 69404), (69415, 69415), (69424, 69445), (69488, 69505), (69552, 69572),
  (69600, 69622), (124928, 125124), (125218, 125251), (125259, 125259), (125264, 125273)]

def arabicDigitRanges : List (Nat × Nat) := [
  (1632, 1641), (68912, 68921)]

def digitRanges : List (Nat × Nat) := [
  (48, 57), (1776, 1785)]

def neutralRanges : List (Nat × Nat) := [
  (45, 45), (183, 183), (697, 698), (710, 719), (748, 748), (885, 885), (8204, 8205),
  (11823, 11823), (12539, 12539), (42623, 42623), (42775, 42783), (42888, 42888)]

def flow (c : CodePoint) : Flow :=
  if c.within leftwardRanges then .leftward
  else if c.within arabicDigitRanges then .arabicDigit
  else if c.within digitRanges then .digit
  else if c.within neutralRanges then .neutral
  else if isNonspacing c then .mark
  else .rightward

/-- What the last code point is that is no mark. -/
def lastFlow? (flows : List Flow) : Option Flow := (flows.filter (· ≠ .mark)).getLast?

/-- A label from right to left does not mix the two kinds of digits. -/
def runsLeftward (flows : List Flow) : Bool :=
  !flows.contains .rightward && !(flows.contains .digit && flows.contains .arabicDigit) &&
    (lastFlow? flows).any fun f => f = .leftward || f = .digit || f = .arabicDigit

def runsRightward (flows : List Flow) : Bool :=
  !flows.contains .leftward && !flows.contains .arabicDigit &&
    (lastFlow? flows).any fun f => f = .rightward || f = .digit

/-- Whether a label has one direction, or nothing that needs one. -/
def isDirected (label : Text) : Bool :=
  let flows := label.map flow
  if flows.any fun f => f = .leftward || f = .arabicDigit then
    match flows.head? with
    | some .leftward => runsLeftward flows
    | some .rightward => runsRightward flows
    | _ => false
  else true

end Hostname
end AssetBundle
