import AssetBundle.Hostname.Composition
import AssetBundle.Hostname.Context
import AssetBundle.Hostname.Direction
import AssetBundle.Hostname.Letters
import AssetBundle.Hostname.Punycode
import AssetBundle.Text.Ascii
import AssetBundle.Text.CaseMapping

/-!
# AssetBundle.Hostname.Label

International host names in ASCII. A name consists of labels between dots. A label with other
letters than ASCII is checked and written in Punycode behind a mark, `encodeLabel?`.

* `encodeWord?` takes a label as it is spelled, capitals apart.
* `encode?` takes a whole name in any usual spelling: letters with a capital are made small, wide
  letters narrow, and composed.
-/

namespace AssetBundle
namespace Hostname

def dot : CodePoint := 0x2E

def hyphen : CodePoint := 0x2D

def isAscii (t : Text) : Bool := t.all fun c => c.val < 0x80

/-- What stands in front of a label that is written in Punycode. -/
def encodedMark : Text := "xn--"

/-- Whether every code point of a label is permitted where it stands. -/
def allFit (before : Text) : Text → Bool
  | [] => true
  | c :: rest => (isLetter c || fits before c rest) && allFit (c :: before) rest

/-- Hyphens stand neither at an end of a label nor both in its third and fourth place. -/
def isHyphenated (label : Text) : Bool :=
  label.head? ≠ some hyphen && label.getLast? ≠ some hyphen &&
    (label.drop 2).take 2 ≠ [hyphen, hyphen]

/-- Whether a label is in its normal form and holds what a label may hold. -/
def isLabel (label : Text) : Bool :=
  !label.isEmpty && isHyphenated label && !label.head?.any isMark && allFit [] label &&
    normalize label = label && isDirected label

/-- The longest label. -/
def longestLabel : Nat := 63

/-- Whether a label in ASCII stands for a label, directly or behind the mark. -/
def isPlainLabel (label : Text) : Bool :=
  if encodedMark.isPrefixOf label then
    let coded := label.drop encodedMark.length
    coded.getLast?.any (· ≠ hyphen) && (Punycode.decode coded).any isLabel
  else isLabel label

/-- A label in ASCII, if it is one. -/
def encodeLabel? (label : Text) : Option Text :=
  let coded := if isAscii label then label else encodedMark ++ Punycode.encode label
  let isValid := if isAscii label then isPlainLabel label else isLabel label
  if isValid && coded.length ≤ longestLabel then some coded else none

/-- A label in ASCII, by its small letters. One that is ASCII needs no check. -/
def encodeWord? (word : Text) : Option Text :=
  if isAscii word then some (Text.lowerAscii word) else encodeLabel? (Text.lower word)

/-- The code points that no spelling of a name counts: soft hyphens, selectors of variants and
spaces without width. -/
def ignoredRanges : List (Nat × Nat) := [
  (0xAD, 0xAD), (0x34F, 0x34F), (0x180B, 0x180D), (0x180F, 0x180F), (0x200B, 0x200B),
  (0x2060, 0x2060), (0x2064, 0x2064), (0xFE00, 0xFE0F), (0xFEFF, 0xFEFF), (0x1BCA0, 0x1BCA3),
  (0xE0100, 0xE01EF)]

/-- The forms of ASCII that are as wide as ideographs, and how far they lie from it. -/
def wideRanges : List (Nat × Nat) := [(0xFF01, 0xFF5E)]

def wideDistance : Nat := 0xFEE0

/-- The code points that separate labels, besides the dot. -/
def isOtherDot (c : CodePoint) : Bool := c.val = 0x3002 || c.val = 0xFF61

def smallLetter (c : CodePoint) : Text := (CaseMapping.upperPoint c).map CaseMapping.lowerPoint

/-- The usual spelling of one code point. -/
def respell (c : CodePoint) : Text :=
  if c.val < 0x80 then [CaseMapping.lowerPoint c]
  else if c.within ignoredRanges then []
  else if isOtherDot c then [dot]
  else if c.within wideRanges then [CaseMapping.lowerPoint (codePoint (c.val - wideDistance))]
  else if isLetter c then [c]
  else smallLetter c

/-- The longest name, without a dot at its end. -/
def longestName : Nat := 253

/-- The labels of a name in ASCII, the last of which can be empty. -/
def encodeAll? : List Text → Option (List Text)
  | [] => some []
  | [label] => if label.isEmpty then some [[]] else (encodeLabel? label).map fun coded => [coded]
  | label :: rest =>
    match encodeLabel? label, encodeAll? rest with
    | some coded, some rest => some (coded :: rest)
    | _, _ => none

/-- A whole name in ASCII, by its usual spelling. -/
def encode? (name : Text) : Option Text :=
  let name := normalize (name.flatMap respell)
  match if name.isEmpty then none else encodeAll? (Sequence.splitOn [dot] name) with
  | none => none
  | some labels =>
    let coded := List.intercalate [dot] labels
    let limit := if labels.getLast?.any List.isEmpty then longestName + 1 else longestName
    if coded.length ≤ limit then some coded else none

end Hostname
end AssetBundle
