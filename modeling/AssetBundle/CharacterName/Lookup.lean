import AssetBundle.CharacterName.Letters
import AssetBundle.CharacterName.Pictures
import AssetBundle.CharacterName.Symbols
import AssetBundle.Text.Ascii

/-!
# AssetBundle.CharacterName.Lookup

The code point of a name. Names are those of Unicode 14 for the letters of a few alphabets and for
common symbols and pictures; the case of their letters does not count. Controls have no name of
their own but several they go by. The name of a Chinese ideograph is its number, in capitals.
-/

namespace AssetBundle
namespace CharacterName

/-- Names of controls, and short names, for each code point. -/
def others : List (Nat × String) := [
  (0x0, "null;nul"), (0x1, "start of heading;soh"), (0x2, "start of text;stx"),
  (0x3, "end of text;etx"), (0x4, "end of transmission;eot"), (0x5, "enquiry;enq"),
  (0x6, "acknowledge;ack"), (0x7, "alert;bel"), (0x8, "backspace;bs"),
  (0x9, "character tabulation;horizontal tabulation;ht;tab"),
  (0xA, "line feed;new line;end of line;lf;nl;eol"),
  (0xB, "line tabulation;vertical tabulation;vt"), (0xC, "form feed;ff"),
  (0xD, "carriage return;cr"), (0xE, "shift out;locking-shift one;so"),
  (0xF, "shift in;locking-shift zero;si"), (0x10, "data link escape;dle"),
  (0x11, "device control one;dc1"), (0x12, "device control two;dc2"),
  (0x13, "device control three;dc3"), (0x14, "device control four;dc4"),
  (0x15, "negative acknowledge;nak"), (0x16, "synchronous idle;syn"),
  (0x17, "end of transmission block;etb"), (0x18, "cancel;can"), (0x19, "end of medium;eom"),
  (0x1A, "substitute;sub"), (0x1B, "escape;esc"),
  (0x1C, "information separator four;file separator;fs"),
  (0x1D, "information separator three;group separator;gs"),
  (0x1E, "information separator two;record separator;rs"),
  (0x1F, "information separator one;unit separator;us"), (0x20, "sp"), (0x7F, "delete;del"),
  (0x80, "padding character;pad"), (0x81, "high octet preset;hop"),
  (0x82, "break permitted here;bph"), (0x83, "no break here;nbh"), (0x84, "index;ind"),
  (0x85, "next line;nel"), (0x86, "start of selected area;ssa"), (0x87, "end of selected area;esa"),
  (0x88, "character tabulation set;horizontal tabulation set;hts"),
  (0x89, "character tabulation with justification;horizontal tabulation with justification;htj"),
  (0x8A, "line tabulation set;vertical tabulation set;vts"),
  (0x8B, "partial line forward;partial line down;pld"),
  (0x8C, "partial line backward;partial line up;plu"), (0x8D, "reverse line feed;reverse index;ri"),
  (0x8E, "single shift two;single-shift-2;ss2"), (0x8F, "single shift three;single-shift-3;ss3"),
  (0x90, "device control string;dcs"), (0x91, "private use one;private use-1;pu1"),
  (0x92, "private use two;private use-2;pu2"), (0x93, "set transmit state;sts"),
  (0x94, "cancel character;cch"), (0x95, "message waiting;mw"),
  (0x96, "start of guarded area;start of protected area;spa"),
  (0x97, "end of guarded area;end of protected area;epa"), (0x98, "start of string;sos"),
  (0x99, "single graphic character introducer;sgc"), (0x9A, "single character introducer;sci"),
  (0x9B, "control sequence introducer;csi"), (0x9C, "string terminator;st"),
  (0x9D, "operating system command;osc"), (0x9E, "privacy message;pm"),
  (0x9F, "application program command;apc"), (0xA0, "nbsp"), (0xAD, "shy"), (0x34F, "cgj"),
  (0x200B, "zwsp"), (0x200C, "zwnj"), (0x200D, "zwj"), (0x200E, "lrm"), (0x200F, "rlm"),
  (0x202A, "lre"), (0x202B, "rle"), (0x202C, "pdf"), (0x202D, "lro"), (0x202E, "rlo"),
  (0x202F, "nnbsp"), (0x205F, "mmsp"), (0x2060, "wj"), (0x2066, "lri"), (0x2067, "rli"),
  (0x2068, "fsi"), (0x2069, "pdi"), (0x2118, "weierstrass elliptic function"),
  (0xFEFF, "byte order mark;bom;zwnbsp")]

/-- The code point that goes by some other name. -/
def other? (name : Text) : Option Nat :=
  (others.find? fun entry => (Run.split entry.2).contains name).map Prod.fst

def ideographStart : Text := "CJK UNIFIED IDEOGRAPH-"

/-- First and last of the ideographs without a name of their own. -/
def ideographs : List (Nat × Nat) := [
  (0x3400, 0x4DBF), (0x4E00, 0x9FFF), (0x20000, 0x2A6DF), (0x2A700, 0x2B738), (0x2B740, 0x2B81D),
  (0x2B820, 0x2CEA1), (0x2CEB0, 0x2EBE0), (0x30000, 0x3134A)]

def capitalHexValue? (c : CodePoint) : Option Nat :=
  if 48 ≤ c.val && c.val ≤ 57 then some (c.val - 48)
  else if 65 ≤ c.val && c.val ≤ 70 then some (c.val - 55)
  else none

/-- The number that four or five digits stand for. -/
def capitalHex? (t : Text) : Option Nat :=
  if t.length = 4 ∨ t.length = 5 then
    (t.mapM capitalHexValue?).map fun digits => digits.foldl (fun n digit => n * 16 + digit) 0
  else none

def ideograph? (name : Text) : Option Nat :=
  if ideographStart.isPrefixOf name then
    match capitalHex? (name.drop ideographStart.length) with
    | some n => if ideographs.any fun r => r.1 ≤ n && n ≤ r.2 then some n else none
    | none => none
  else none

def runs : List Run :=
  latin ++ (marks ++ (greek ++ (cyrillic ++ (punctuation ++ (currencies ++ (letterlike ++
    (arrows ++ (operators ++ (shapes ++ (symbols ++ (dingbats ++ (specials ++
      (pictographs ++ (faces ++ (transport ++ morePictographs)))))))))))))))

/-- The code point of a name. The empty text is no name. -/
def find? (name : Text) : Option CodePoint :=
  let small := Text.lowerAscii name
  if name.isEmpty then none
  else
    (((runs.findSome? fun r => r.find? small).orElse fun _ => other? small).orElse fun _ =>
      ideograph? name).map (Fin.ofNat 0x110000)

end CharacterName
end AssetBundle
