import AssetBundle.Bundle.Build
import AssetBundle.Command.Word

/-!
# AssetBundle.Command.Line

Reading a command line. Flags act in the order in which they stand. Operands are placed by runs:
a run is what stands between two flags, and it fills the places that are still free, of which the
path start is filled or left to its default together with the output. What finds no place is
refused at the end.
-/

namespace AssetBundle

/-- What a command line asks for. An operand can come out empty-handed: a place that is given
nothing but a second separator has an empty list in it. -/
structure Line where
  directory : Value
  output : Value
  options : BuildOptions
  verbose : Bool

/-- Why a command line is not acted upon. -/
inductive Stop where
  | help
  | misuse (message : Text)
deriving DecidableEq, Repr

namespace Line

/-- A command line that is being read: the places filled so far, in order, whether the others
are closed, what found no place, and the flags so far. -/
structure Progress where
  places : List Value
  closed : Bool
  extras : List Text
  level : Int
  maxAge : Option Int
  verbose : Bool

namespace Progress

def start : Progress := ⟨[], false, [], BuildOptions.defaultLevel, none, false⟩

/-- Directory, output and path start. -/
def placeCount : Nat := 3

/-- The number of places without a default. -/
def requiredCount : Nat := 2

def freePlaces (p : Progress) : Nat := if p.closed then 0 else placeCount - p.places.length

/-- Splits words into one group for each place, and the rest. A group is an operand with the
separators around it. -/
def groups : Nat → List Word → List (List Text) × List Word
  | 0, words => ([], words)
  | places + 1, words =>
    let front := (words.takeWhile Word.isSeparator).filterMap Word.written
    match words.dropWhile Word.isSeparator with
    | .operand t :: rest =>
      let back := (rest.takeWhile Word.isSeparator).filterMap Word.written
      let (more, rest) := groups places (rest.dropWhile Word.isSeparator)
      ((front ++ t :: back) :: more, rest)
    | _ => ([], words)

/-- What a place gets from its group: of the group, one pair of dashes is dropped. -/
def placed (group : List Text) : Value :=
  match group.erase Word.twoDashes with
  | [t] => .text t
  | texts => .list (texts.map .text)

/-- Fills places from a run of words. -/
def fill (p : Progress) (words : List Word) : Progress × List Word :=
  let (filled, rest) := groups p.freePlaces words
  let places := p.places ++ filled.map placed
  ({ p with places := places, closed := p.closed || requiredCount ≤ places.length }, rest)

def setNumber (p : Progress) (f : Flag) (n : Int) : Progress :=
  match f with
  | .level => { p with level := n }
  | .maxAge => { p with maxAge := some n }
  | .help | .verbose => p

def complaint (f : Flag) (message : Text) : Stop :=
  .misuse ("argument " ++ f.label ++ ": " ++ message)

/-- A flag that takes a value, with its value. -/
def withValue (p : Progress) (f : Flag) (value : Text) : Except Stop Progress :=
  match Integer.read value with
  | .ok n => .ok (p.setNumber f n)
  | .error _ => .error (complaint f ("invalid int value: " ++ Quoted.text value))

/-- A flag that takes no value. -/
def act (p : Progress) (f : Flag) : Except Stop Progress :=
  match f with
  | .help => .error .help
  | .verbose => .ok { p with verbose := true }
  | .level | .maxAge => .ok p

def actAll (p : Progress) : List Flag → Except Stop Progress
  | [] => .ok p
  | f :: rest =>
    match p.act f with
    | .error e => .error e
    | .ok p => actAll p rest

def ignored (f : Flag) (value : Text) : Stop :=
  complaint f ("ignored explicit argument " ++ Quoted.text value)

/-- Flags written as letters in one word: a letter and what is attached to it. -/
def letters (f : Flag) : Text → Except Stop (List Flag)
  | [] => .ok [f]
  | c :: rest =>
    match Flag.ofLetter? c with
    | none => .error (ignored f (c :: rest))
    | some g =>
      match letters g rest with
      | .error e => .error e
      | .ok flags => .ok (f :: flags)

/-- A flag with a text attached to it. -/
def attached (p : Progress) (f : Flag) (isLetter : Bool) (value : Text) : Except Stop Progress :=
  if f.takesValue then p.withValue f value
  else if !isLetter || value.isEmpty then .error (ignored f value)
  else
    match letters f value with
    | .error e => .error e
    | .ok flags => p.actAll flags

/-- A flag by itself, with the words behind it. -/
def alone (p : Progress) (f : Flag) (rest : List Word) : Except Stop (Progress × List Word) :=
  if f.takesValue then
    match rest with
    | .operand value :: rest => (p.withValue f value).map fun p => (p, rest)
    | _ => .error (complaint f "expected one argument")
  else (p.act f).map fun p => (p, rest)

def addExtras (p : Progress) (words : List Word) : Progress :=
  { p with extras := p.extras ++ words.filterMap Word.written }

/-- Reads words to the end. Every step takes at least one word. -/
def read : Nat → Progress → List Word → Except Stop Progress
  | 0, p, words => .ok (p.addExtras words)
  | fuel + 1, p, words =>
    match words with
    | .long f none :: rest | .letter f none :: rest =>
      match p.alone f rest with
      | .error e => .error e
      | .ok (p, rest) => read fuel p rest
    | .long f (some value) :: rest =>
      match p.attached f false value with
      | .error e => .error e
      | .ok p => read fuel p rest
    | .letter f (some value) :: rest =>
      match p.attached f true value with
      | .error e => .error e
      | .ok p => read fuel p rest
    | .unknown t :: rest => read fuel { p with extras := p.extras ++ [t] } rest
    | words =>
      let (p, rest) := p.fill words
      if rest.isEmpty then .ok p
      else if rest.length < words.length then read fuel p rest
      else
        read fuel (p.addExtras (words.takeWhile fun w => !w.isFlag))
          (words.dropWhile fun w => !w.isFlag)

end Progress

def requiredNames : List Text := ["input_dir", "output"]

/-- What a complete progress asks for. -/
def ofProgress (p : Progress) : Except Stop Line :=
  let commaSpace : Text := ", "
  match p.places with
  | directory :: output :: rest =>
    if !p.extras.isEmpty then
      .error (.misuse ("unrecognized arguments: " ++ List.intercalate ([0x20] : Text) p.extras))
    else if p.maxAge.any (· < 0) then .error (.misuse "--max-age must be a non-negative int")
    else
      let pathStart :=
        match rest with
        | .text t :: _ => Value.text t
        | _ => BuildOptions.rootPath
      let maxAge := (p.maxAge.map Value.int).getD .none
      .ok ⟨directory, output, ⟨pathStart, .int p.level, maxAge⟩, p.verbose⟩
  | places =>
    .error (.misuse ("the following arguments are required: " ++
      List.intercalate commaSpace (requiredNames.drop places.length)))

def ofTexts (texts : List Text) : Except Stop Line :=
  let commaSpace : Text := ", "
  match Word.ofTexts texts with
  | .error e =>
    .error (.misuse ("ambiguous option: " ++ e.word ++ " could match " ++
      List.intercalate commaSpace e.matching))
  | .ok words =>
    match Progress.read (words.length + 1) .start words with
    | .error e => .error e
    | .ok p => ofProgress p

end Line
end AssetBundle
