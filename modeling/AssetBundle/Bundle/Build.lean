import AssetBundle.Asset.ContentType
import AssetBundle.Asset.Validator
import AssetBundle.Bundle.Artifact
import AssetBundle.Files.Buffer
import AssetBundle.Files.Tree
import AssetBundle.Gzip.Container
import AssetBundle.Log

/-!
# AssetBundle.Bundle.Build

Building a bundle from the files of one directory. Only files of an admitted type are taken, in
the order of their names, so the same directory always gives the same bundle.

* `collect` lists the names of the files that are taken.
* `record` makes the asset of one file: its contents compressed, under header lines that carry
  the validator of the contents. A file that cannot be read is skipped with a warning.
* `build` writes the bundle beside its output first and moves it there when it is complete. When
  anything fails no output is left behind. A file is read when the assets of those in front of it
  have been written; one that is the draft itself is read as far as it has got.
-/

namespace AssetBundle

/-- How assets are built: what stands before the file names in their paths, the level of
compression, and the maximum age, if any. -/
structure BuildOptions where
  pathStart : Value
  level : Value
  maxAge : Value

namespace BuildOptions

def rootPath : Value := .text "/"

def defaultLevel : Int := 9

def standard : BuildOptions := ⟨rootPath, .int defaultLevel, .none⟩

instance : Inhabited BuildOptions := ⟨standard⟩

/-- An empty path start means the root. -/
def withPathStart (o : BuildOptions) : BuildOptions :=
  if o.pathStart.truthy then o else { o with pathStart := rootPath }

/-- The maximum age of a bundle, if any, is a number that is not negative. -/
def checkAge (maxAge : Value) : Outcome Unit :=
  match maxAge with
  | .none => .ok ()
  | .int n => if n < 0 then .error .maxAge else .ok ()
  | _ => .error .maxAge

/-- The path that serves a file of that name. -/
def urlOf (pathStart : Value) (name : Text) : Outcome Text :=
  match pathStart with
  | .text start => .ok (start ++ name)
  | .bytes _ => .error (.bytesOperand "str")
  | .buffer _ => .error (.bufferOperand "str")
  | .list _ => .error (.listOperand "str")
  | v => .error (.operandTypes "+" v.typeName "str")

end BuildOptions

/-- The result of building: the number of assets, the files afterwards and what is logged. -/
structure Built where
  outcome : Outcome Nat
  files : Tree
  log : Log

namespace Bundle

/-- The names of the files in a directory that become assets, sorted. -/
def collect (files : Tree) (directory : Text) : Outcome (List Text) :=
  match Path.check directory with
  | .error e => .error e
  | .ok () =>
    match files.list directory with
    | .error e => .error (.directory directory e.reason)
    | .ok names =>
      let taken := names.filter fun name =>
        (ContentType.ofName? name).isSome && files.isFile (Path.join directory name)
      .ok (taken.mergeSort Text.le)

/-- The asset for the contents of a file. -/
def assetOf (contentType name : Text) (contents : Bytes) (o : BuildOptions) : Outcome Record :=
  match Gzip.compress (.bytes contents) o.level with
  | .error e => .error e
  | .ok payload =>
    match Headers.revalidating contentType (Validator.ofBytes contents) true o.maxAge with
    | .error e => .error e
    | .ok headers =>
      match BuildOptions.urlOf o.pathStart name with
      | .error e => .error e
      | .ok url => Record.ofParts url (Headers.print headers) payload

/-- The contents of a file, or the warning that it cannot be read. -/
def contentsOf (files : Tree) (path : Text) : Outcome (Except LogLine Bytes) :=
  match files.unreadable.lookup path, Path.check path with
  | none, .error e => .error e
  | _, _ =>
    match files.readOrReason path with
    | .ok contents => .ok (.ok contents)
    | .error reason =>
      .ok (.error ⟨.warning, "Failed to read: " ++ path ++ " (" ++ reason ++ ")"⟩)

/-- The asset of one file, or nothing if it cannot be read. -/
def record (files : Tree) (directory name : Text) (o : BuildOptions) :
    Outcome (Option Record) × Log :=
  match ContentType.ofName? name with
  | none => (.error (.fileType name), [])
  | some contentType =>
    match contentsOf files (Path.join directory name) with
    | .error e => (.error e, [])
    | .ok (.error line) => (.ok none, [line])
    | .ok (.ok contents) =>
      match assetOf contentType name contents o with
      | .error e => (.error e, [])
      | .ok r => (.ok (some r), [])

/-- Assets with the one of a file behind them, if it has one. -/
def withFound (made : List (Text × Record)) (name : Text) (found : Option Record) :
    List (Text × Record) :=
  made ++ found.toList.map (name, ·)

/-- The assets of several files behind those that are made, each with the name of its file. What
has been made decides which tree a file is read from. -/
def records (seen : List (Text × Record) → Tree) (directory : Text) (o : BuildOptions) :
    List (Text × Record) → List Text → Outcome (List (Text × Record)) × Log
  | made, [] => (.ok made, [])
  | made, name :: rest =>
    match record (seen made) directory name o with
    | (.error e, log) => (.error e, log)
    | (.ok found, log) =>
      let (outcome, more) := records seen directory o (withFound made name found) rest
      (outcome, log ++ more)

/-- The assets that are made in front of the first failure. -/
def recordsBefore (seen : List (Text × Record) → Tree) (directory : Text) (o : BuildOptions) :
    List (Text × Record) → List Text → List (Text × Record)
  | made, [] => made
  | made, name :: rest =>
    match (record (seen made) directory name o).1 with
    | .error _ => made
    | .ok found => recordsBefore seen directory o (withFound made name found) rest

/-- Where a bundle is written before it is complete. -/
def draftPath (output : Text) : Text := output ++ ".tmp"

/-- What of the text of a bundle has reached its file when some assets have been written. -/
def reached (made : List (Text × Record)) : Bytes :=
  let es := Artifact.entries made
  let sizes := (Artifact.pieces es).map fun piece => (piece.flatMap Utf8.encodePoint).length
  ((Artifact.begun es).flatMap Utf8.encodePoint).take (Buffer.reached sizes)

/-- The tree while a bundle is written to a path, when some assets have been written. -/
def underway (files : Tree) (path : Text) (made : List (Text × Record)) : Tree :=
  match files.write path (reached made) with
  | .ok files => files
  | .error _ => files

/-- Removes a file if that is possible. -/
def discard (files : Tree) (path : Text) : Tree :=
  match files.remove path with
  | .ok files => files
  | .error _ => files

/-- Writes what there is of a bundle, and removes it. Where the path is a link the text is left in
what the link leads to. -/
def abandon (files : Tree) (path text : Text) : Tree :=
  match files.write path (text.flatMap Utf8.encodePoint) with
  | .ok files => discard files path
  | .error _ => discard files path

/-- Moves a file onto the output. -/
def moveOnto (files : Tree) (source : Text) (output : Value) : Outcome Tree :=
  match output with
  | .text path =>
    match files.rename source path with
    | .ok files => .ok files
    | .error e => .error (.outputWrite path e.reason)
  | v => .error (.noPath v.typeName)

/-- Writes the bundle of some assets and moves it onto its output. -/
def publish (files : Tree) (output : Value) (assets : List (Text × Record)) : Outcome Tree :=
  let draft := draftPath output.written
  let text := Artifact.write (Artifact.entries assets)
  match files.write draft (text.flatMap Utf8.encodePoint) with
  | .error e => .error (.outputWrite output.written e.reason)
  | .ok files => moveOnto files draft output

/-- Builds the bundle of some files once its draft has been opened. -/
def fill (files : Tree) (directory : Text) (output : Value) (names : List Text)
    (o : BuildOptions) : Built :=
  let draft := draftPath output.written
  match records (underway files draft) directory o [] names with
  | (.error e, log) =>
    let made := recordsBefore (underway files draft) directory o [] names
    ⟨.error e, abandon files draft (Artifact.begun (Artifact.entries made)), log⟩
  | (.ok assets, log) =>
    match publish files output assets with
    | .error e => ⟨.error e, abandon files draft (Artifact.write (Artifact.entries assets)), log⟩
    | .ok files =>
      let count := assets.length
      let line : Text := "Embedded " ++ Text.ofNat count ++ " assets into " ++ output.written
      ⟨.ok count, files, log ++ [⟨.info, line⟩]⟩

/-- Builds a bundle of the files of a directory. -/
def build (files : Tree) (directory : Text) (output : Value) (o : BuildOptions) : Built :=
  let o := o.withPathStart
  match BuildOptions.checkAge o.maxAge with
  | .error e => ⟨.error e, files, []⟩
  | .ok () =>
    match collect files directory with
    | .error e => ⟨.error e, files, []⟩
    | .ok names =>
      let draft := draftPath output.written
      match Path.check draft with
      | .error e => ⟨.error e, files, []⟩
      | .ok () =>
        match files.write draft [] with
        | .error e => ⟨.error (.outputCreate output.written e.reason), files, []⟩
        | .ok files => fill files directory output names o

end Bundle
end AssetBundle
