import AssetBundle.Command.Flag
import AssetBundle.Sequence
import AssetBundle.Text.Digit

/-!
# AssetBundle.Command.Word

What the words of a command line are, seen one by one: flags with or without a value attached,
operands, and the separator behind which every word is an operand.
-/

namespace AssetBundle

inductive Word where
  | operand (t : Text)
  /-- Two dashes. -/
  | separator
  /-- A flag in full, perhaps cut short, with the text behind its equal sign. -/
  | long (f : Flag) (value : Option Text)
  /-- A flag by its letter, with the text attached to it. -/
  | letter (f : Flag) (attached : Option Text)
  /-- Looks like a flag and is none. -/
  | unknown (t : Text)
deriving DecidableEq, Repr

/-- More than one flag begins this way. -/
structure Ambiguous where
  word : Text
  matching : List Text
deriving DecidableEq, Repr

namespace Word

def twoDashes : Text := [Flag.dash, Flag.dash]

def isFlag : Word → Bool
  | .operand _ | .separator => false
  | _ => true

def isSeparator : Word → Bool
  | .separator => true
  | _ => false

def written : Word → Option Text
  | .operand t | .unknown t => some t
  | .separator => some twoDashes
  | _ => none

def isDecimal (c : CodePoint) : Bool := (CodePoint.decimalValue? c).isSome

/-- Whether a text is digits, of which some stand behind a point if there is one. One line feed
may follow. -/
def isNumeral (t : Text) : Bool :=
  let t := if t.getLast? = some 10 then t.dropLast else t
  match Sequence.cutAt? [CodePoint.ofChar '.'] t with
  | none => !t.isEmpty && t.all isDecimal
  | some (whole, fraction) => whole.all isDecimal && !fraction.isEmpty && fraction.all isDecimal

/-- A word behind a dash that spells no flag. -/
def plain (t : Text) : Word :=
  if isNumeral (t.drop 1) || t.contains 0x20 then .operand t else .unknown t

/-- The spelling and the value around the first equal sign. -/
def cut (t : Text) : Text × Option Text :=
  match Sequence.cutAt? [Flag.equalSign] t with
  | some (spelling, value) => (spelling, some value)
  | none => (t, none)

/-- A flag in a spelling, long or of one letter. -/
def spelled (f : Flag) (spelling : Text) (value : Option Text) : Word :=
  if twoDashes.isPrefixOf spelling then .long f value else .letter f value

/-- A word of which no flag is the exact spelling. -/
def resolve (t : Text) : Except Ambiguous Word :=
  if twoDashes.isPrefixOf t then
    let (start, value) := cut t
    match Flag.completions start with
    | [] => .ok (plain t)
    | [(_, f)] => .ok (.long f value)
    | several => .error ⟨t, several.map Prod.fst⟩
  else
    match t with
    | _ :: c :: attached =>
      match Flag.ofLetter? c with
      | some f => .ok (.letter f (some attached))
      | none => .ok (plain t)
    | t => .ok (.operand t)

/-- A word in front of the separator. -/
def classify (t : Text) : Except Ambiguous Word :=
  if t.head? ≠ some Flag.dash then .ok (.operand t)
  else
    match Flag.ofSpelling? t with
    | some f => .ok (spelled f t none)
    | none =>
      if t.length = 1 then .ok (.operand t)
      else
        match cut t with
        | (_, none) => resolve t
        | (spelling, some value) =>
          match Flag.ofSpelling? spelling with
          | some f => .ok (spelled f spelling (some value))
          | none => resolve t

/-- The words of a command line. -/
def ofTexts : List Text → Except Ambiguous (List Word)
  | [] => .ok []
  | t :: rest =>
    if t = twoDashes then .ok (.separator :: rest.map .operand)
    else
      match classify t with
      | .error e => .error e
      | .ok word =>
        match ofTexts rest with
        | .error e => .error e
        | .ok words => .ok (word :: words)

end Word
end AssetBundle
