import AssetBundle.CharacterName.Lookup
import AssetBundle.Text.Printable

/-!
# AssetBundle.Text.Quoted

Quoted text, as it stands in messages and as a literal in a written bundle. The quote is the
apostrophe, unless the text holds an apostrophe and no double quote. The quote and the backslash
are written with a backslash, tab, line feed and carriage return by their letters, and all else
that is unprintable by its number in two, four or eight hexadecimal digits. So a quoted text has
no line break in it, whatever the text was.

`read` is the reader of such literals, and of the other spellings an author may choose by hand:
triple quotes, octal and control escapes, escapes by name, raw text.
-/

namespace AssetBundle
namespace Quoted

def apostrophe : CodePoint := 0x27
def doubleQuote : CodePoint := 0x22
def backslash : CodePoint := 0x5C

def hexDigit (n : Nat) : CodePoint := CodePoint.ofChar (Nat.digitChar (n % 16))

/-- The last `width` hexadecimal digits of a number. -/
def hex : Nat → Nat → Text
  | 0, _ => []
  | width + 1, n => hex width (n / 16) ++ [hexDigit n]

/-- The escape of a code point by its number. -/
def numbered (c : CodePoint) : Text :=
  if c.val < 0x100 then backslash :: CodePoint.ofChar 'x' :: hex 2 c.val
  else if c.val < 0x10000 then backslash :: CodePoint.ofChar 'u' :: hex 4 c.val
  else backslash :: CodePoint.ofChar 'U' :: hex 8 c.val

def escape (quote c : CodePoint) : Text :=
  if c = quote ∨ c = backslash then [backslash, c]
  else if c.val = 9 then [backslash, CodePoint.ofChar 't']
  else if c.val = 10 then [backslash, CodePoint.ofChar 'n']
  else if c.val = 13 then [backslash, CodePoint.ofChar 'r']
  else if c.isPrintable then [c]
  else numbered c

/-- The quote for a text with the given code points. -/
def quoteFor (t : Text) : CodePoint :=
  if t.contains apostrophe && !t.contains doubleQuote then doubleQuote else apostrophe

def text (t : Text) : Text :=
  let quote := quoteFor t
  quote :: (t.flatMap (escape quote) ++ [quote])

def escapeByte (quote : CodePoint) (b : UInt8) : Text :=
  let c : CodePoint := Fin.ofNat 0x110000 b.toNat
  if c = quote ∨ c = backslash then [backslash, c]
  else if b = 9 then [backslash, CodePoint.ofChar 't']
  else if b = 10 then [backslash, CodePoint.ofChar 'n']
  else if b = 13 then [backslash, CodePoint.ofChar 'r']
  else if 32 ≤ b && b < 127 then [c]
  else backslash :: CodePoint.ofChar 'x' :: hex 2 b.toNat

/-- A byte string, quoted like text and marked by a `b`. -/
def bytes (s : Bytes) : Text :=
  let quote := quoteFor (s.map fun b => Fin.ofNat 0x110000 b.toNat)
  CodePoint.ofChar 'b' :: quote :: (s.flatMap (escapeByte quote) ++ [quote])

def hexValue? (c : CodePoint) : Option Nat :=
  if 48 ≤ c.val && c.val ≤ 57 then some (c.val - 48)
  else if 97 ≤ c.val && c.val ≤ 102 then some (c.val - 87)
  else if 65 ≤ c.val && c.val ≤ 70 then some (c.val - 55)
  else none

def octalValue? (c : CodePoint) : Option Nat :=
  if 48 ≤ c.val && c.val ≤ 55 then some (c.val - 48) else none

def openBrace : CodePoint := 0x7B
def closeBrace : CodePoint := 0x7D

/-- The code points written by a backslash and one letter. -/
def letterEscapes : List (Char × CodePoint) := [
  ('\\', 0x5C), ('\'', 0x27), ('"', 0x22), ('n', 10), ('t', 9), ('r', 13),
  ('a', 7), ('b', 8), ('f', 12), ('v', 11)]

/-- Where a reader stands inside a literal. -/
inductive Place where
  | plain
  /-- Behind a backslash. -/
  | escaped
  /-- Inside a numbered escape with so many digits to come. -/
  | numbered (missing value : Nat)
  /-- Inside an octal escape with at most so many digits to come. -/
  | octal (missing value : Nat)
  /-- Inside an escape by name: the name so far, newest first, once its brace is open. -/
  | named (name : Option Text)
  /-- Behind so many quotes that may begin the end of a triply quoted text. -/
  | quotes (count : Nat)

/-- The spelling of a literal: its quote, whether the quote is tripled, and whether backslashes
stand for themselves. -/
structure Style where
  quote : CodePoint
  triple : Bool
  raw : Bool

/-- One step in the plain part of a literal: the text read so far, newest first, and the place
behind the step. `none` means that the literal ends or is broken off here. -/
def plainStep (style : Style) (done : Text) (c : CodePoint) : Option (Text × Place) :=
  if c = style.quote then
    if style.triple then some (done, .quotes 1) else none
  else if c = backslash then some (if style.raw then c :: done else done, .escaped)
  else if c.val = 10 && !style.triple then none
  else some (c :: done, .plain)

/-- The step behind a backslash. -/
def escapedStep (style : Style) (done : Text) (c : CodePoint) : Text × Place :=
  if style.raw then (c :: done, .plain)
  else
    match letterEscapes.find? fun entry => CodePoint.ofChar entry.1 = c with
    | some (_, point) => (point :: done, .plain)
    | none =>
      if c.val = 10 then (done, .plain)
      else if c = CodePoint.ofChar 'x' then (done, .numbered 2 0)
      else if c = CodePoint.ofChar 'u' then (done, .numbered 4 0)
      else if c = CodePoint.ofChar 'U' then (done, .numbered 8 0)
      else if c = CodePoint.ofChar 'N' then (done, .named none)
      else
        match octalValue? c with
        | some digit => (done, .octal 2 digit)
        | none => (c :: backslash :: done, .plain)

/-- Reads up to the closing quote: the text, and what stands behind the quote. -/
def body (style : Style) (done : Text) (place : Place) : Text → Option (Text × Text)
  | [] => none
  | c :: rest =>
    let plain (done : Text) : Option (Text × Text) :=
      match plainStep style done c with
      | some (done, place) => body style done place rest
      | none => if c = style.quote then some (done.reverse, rest) else none
    match place with
    | .plain => plain done
    | .escaped =>
      let (done, place) := escapedStep style done c
      body style done place rest
    | .numbered missing value =>
      match hexValue? c with
      | none => none
      | some digit =>
        let value := value * 16 + digit
        if missing ≤ 1 then
          if h : value < 0x110000 then body style (⟨value, h⟩ :: done) .plain rest else none
        else body style done (.numbered (missing - 1) value) rest
    | .octal missing value =>
      match missing, octalValue? c with
      | missing + 1, some digit => body style done (.octal missing (value * 8 + digit)) rest
      | _, _ => plain (Fin.ofNat 0x110000 value :: done)
    | .named none => if c = openBrace then body style done (.named (some [])) rest else none
    | .named (some name) =>
      if c = closeBrace then
        match CharacterName.find? name.reverse with
        | some point => body style (point :: done) .plain rest
        | none => none
      else body style done (.named (some (c :: name))) rest
    | .quotes count =>
      if c = style.quote then
        if count = 2 then some (done.reverse, rest) else body style done (.quotes (count + 1)) rest
      else plain (List.replicate count style.quote ++ done)

def isQuote (c : CodePoint) : Bool := c = apostrophe || c = doubleQuote

/-- Whether a quote opens here, and how: the style and what stands behind the opening. -/
def opening? (raw : Bool) : Text → Option (Style × Text)
  | a :: b :: c :: rest =>
    if !isQuote a then none
    else if b = a ∧ c = a then some (⟨a, true, raw⟩, rest)
    else some (⟨a, false, raw⟩, b :: c :: rest)
  | a :: rest => if isQuote a then some (⟨a, false, raw⟩, rest) else none
  | [] => none

/-- Reads one literal off the front of a text. -/
def read (t : Text) : Option (Text × Text) :=
  let (raw, t) :=
    match t with
    | c :: rest =>
      if c = CodePoint.ofChar 'r' ∨ c = CodePoint.ofChar 'R' then (true, rest)
      else if c = CodePoint.ofChar 'u' ∨ c = CodePoint.ofChar 'U' then (false, rest)
      else (false, t)
    | [] => (false, t)
  match opening? raw t with
  | some (style, rest) => body style [] .plain rest
  | none => none

end Quoted
end AssetBundle
