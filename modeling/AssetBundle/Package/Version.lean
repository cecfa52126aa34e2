import AssetBundle.Failure
import AssetBundle.Files.Tree
import AssetBundle.Text.Lines

/-!
# AssetBundle.Package.Version

Version and documentation of a package, read off the text of its main module without running it.
The version is the literal of the last line that defines it. The documentation is what stands
between the first two lines that begin with three double quotes, with the blanks at the ends of
lines dropped.
-/

namespace AssetBundle

/-- What a main module says of its package. -/
structure Documented where
  version : Text
  document : Text
deriving DecidableEq, Repr

namespace Documented

def versionName : Text := "__version__"

def tripleQuote : Text := "\"\"\""

def equalSign : CodePoint := 0x3D

def numberSign : CodePoint := 0x23

/-- Whether a definition ends here: at the end of its line or at a comment. -/
def isEnd (rest : Text) : Bool :=
  match Text.trim rest with
  | [] => true
  | c :: _ => c = numberSign

/-- The name and the text of a definition by a literal. -/
def definition? (line : Text) : Option (Text × Text) :=
  match Sequence.cutAt? [equalSign] line with
  | none => none
  | some (name, value) =>
    match Quoted.read (Sequence.trimLeft CodePoint.isBlank value) with
    | some (t, rest) => if isEnd rest then some (Text.trim name, t) else none
    | none => none

/-- Where a reader stands: before, inside or behind the documentation. -/
inductive Part where
  | before
  | inside
  | behind
deriving DecidableEq, Repr

structure Progress where
  version : Text
  document : Text
  part : Part

namespace Progress

def start : Progress := ⟨[], [], .before⟩

/-- A line of the documentation. -/
def addLine (p : Progress) (line : Text) : Progress :=
  if p.part = .inside then { p with document := p.document ++ (Text.trimRight line ++ [10]) }
  else p

/-- A line that begins with the name of the version. Longer names that begin so define something
else. -/
def define (p : Progress) (line : Text) : Progress :=
  match definition? (Text.trim line) with
  | some (name, t) => if name = versionName then { p with version := t } else p
  | none => p

def readLine (p : Progress) (line : Text) : Progress :=
  if versionName.isPrefixOf line then (p.define line).addLine line
  else if tripleQuote.isPrefixOf line then
    match p.part with
    | .before =>
      { p with part := .inside }.addLine (Sequence.trimLeft (· = Quoted.doubleQuote) line)
    | .inside => { p with part := .behind }
    | .behind => p
  else p.addLine line

end Progress

/-- Reads the text of a main module. A version is required. -/
def ofText (t : Text) : Outcome Documented :=
  let p := (Text.lines t).foldl Progress.readLine .start
  if p.version.isEmpty then .error .noVersion else .ok ⟨p.version, p.document⟩

/-- Reads a main module. -/
def ofFile (files : Tree) (path : Text) : Outcome Documented :=
  match Path.check path with
  | .error e => .error e
  | .ok () =>
    match files.read path with
    | .error e => .error (.file e (some path))
    | .ok contents =>
      match Utf8.decodeOrFail contents with
      | .error e => .error e
      | .ok t => ofText t

end Documented
end AssetBundle
