import AssetBundle.Failure
import AssetBundle.Sequence

/-!
# AssetBundle.Files.Path

Paths as text. A path is read as steps between slashes; steps of one dot stay where they are and
steps of two dots go up. Names are stored in bytes, of which a name may have 255 and a path 4095:
a name that is not valid UTF-8 has one lone surrogate per stray byte.
-/

namespace AssetBundle

/-- A place in a tree of files: the names on the way from its top. -/
abbrev Place := List Text

namespace Path

def slash : CodePoint := 0x2F

def dot : Text := "."

def dotDot : Text := ".."

/-- The steps of a path; repeated slashes count as one. -/
def steps (path : Text) : List Text :=
  (Sequence.splitOn [slash] path).filter fun step => !step.isEmpty

def isAbsolute (path : Text) : Bool := path.head? = some slash

/-- Whether a slash ends the path, which asks for a directory. -/
def asksDirectory (path : Text) : Bool := path.getLast? = some slash

/-- The steps to be walked. A slash at the end counts as an empty step, which stays in the
directory that it asks for. -/
def route (path : Text) : List Text := steps path ++ (if asksDirectory path then [[]] else [])

/-- A name inside a directory, as one path. -/
def join (directory name : Text) : Text :=
  if directory.isEmpty || isAbsolute name then name
  else if asksDirectory directory then directory ++ name
  else directory ++ slash :: name

/-- Where steps lead by spelling alone; going up from the top stays there. -/
def normalizeFrom (start : Place) (path : Text) : Place :=
  (steps path).foldl (fun done step =>
    if step = dot then done else if step = dotDot then done.dropLast else done ++ [step]) start

/-- The steps with dots resolved by spelling alone. -/
def normalize (path : Text) : Place := normalizeFrom [] path

/-- A place as a path. -/
def ofPlace (place : Place) : Text :=
  if place.isEmpty then dot else List.intercalate [slash] place

/-- A place as a path that starts from the top. -/
def absolute (place : Place) : Text := slash :: List.intercalate [slash] place

/-- The slashes in front of a path. Two of them stay; any other number counts as one. -/
def root (path : Text) : Text :=
  let slashes := path.takeWhile (· = slash)
  if slashes.length ≤ 2 then slashes else [slash]

/-- One more step behind steps that are spelled out. Steps up from where the path starts stay. -/
def spellStep (done : List Text) (step : Text) : List Text :=
  if step = dot then done
  else if step = dotDot then if done.all (· = dotDot) then done ++ [step] else done.dropLast
  else done ++ [step]

/-- A path spelled out: no step is empty or a dot, and none goes up but in front. -/
def clean (path : Text) : Text :=
  if isAbsolute path then root path ++ List.intercalate [slash] (normalize path)
  else ofPlace ((steps path).foldl spellStep [])

/-- The number of bytes of a code point in a name. -/
def width (c : CodePoint) : Nat :=
  if c.val < 0x80 then 1
  else if 0xDC80 ≤ c.val && c.val ≤ 0xDCFF then 1
  else if c.val < 0x800 then 2
  else if c.val < 0x10000 then 3
  else 4

def byteLength (t : Text) : Nat := t.foldl (fun n c => n + width c) 0

/-- Whether a code point stands for itself or for a stray byte. -/
def storable (c : CodePoint) : Bool :=
  !c.isSurrogate || (0xDC80 ≤ c.val && c.val ≤ 0xDCFF)

/-- The first code point that no name can hold, with the surrogates that follow it. -/
def unstorable? (path : Text) : Option Unencodable :=
  match path.dropWhile storable with
  | [] => none
  | point :: rest =>
    let first := (path.takeWhile storable).length
    some ⟨point, first, first + (rest.takeWhile CodePoint.isSurrogate).length⟩

/-- Refuses a path that has no form in bytes, before any file is looked at. -/
def check (path : Text) : Outcome Unit :=
  match unstorable? path with
  | some run => .error (.unencodable "utf-8" "surrogates not allowed" run)
  | none => if path.contains 0 then .error .nullInPath else .ok ()

end Path
end AssetBundle
