import AssetBundle.Command.Run
import AssetBundle.Text.Lines
import Std.Time

/-!
# AssetBundle.Main

The command at work on a disk. Which files the input directory holds is told on standard input,
one name a line, as a directory listing prints them. What the command can look at is read into a
tree, `Command.run` decides on that tree, and the output is written if it has changed.
-/

namespace AssetBundle
namespace Disk

/-- A path as the disk wants it. -/
def spelled (path : Text) : String := String.ofList (path.map fun c => Char.ofNat c.val)

/-- Puts what the disk has at a path into a tree. A directory can be opened but not read. -/
def observe (files : Tree) (path : Text) : IO Tree := do
  let place := files.placeOf path
  match ← (IO.FS.readBinFile (spelled path)).toBaseIO with
  | .ok s => pure (files.set place (.file s.toList))
  | .error (.inappropriateType _ _ _) => pure (files.makeDirectory path)
  | .error (.permissionDenied _ _ reason) =>
    pure ((files.set place (.file [])).refuse path [.text (Text.ofString reason)])
  | .error _ => pure files

def observeAll (files : Tree) : List Text → IO Tree
  | [] => pure files
  | path :: rest => do observeAll (← observe files path) rest

/-- The directory in which a path stands. -/
def above (path : Text) : Text :=
  match Sequence.cutAtLast? Path.slash path with
  | some (directory, _) => directory ++ [Path.slash]
  | none => Path.dot

/-- A tree of which nothing is known but the current directory. -/
def here : IO Tree := do
  let home := Path.steps (Text.ofString (← IO.currentDir).toString)
  pure { Tree.empty with home := home }

/-- What a command line can touch, as far as the disk has it. -/
def observeFor (line : Line) (names : List Text) : IO Tree := do
  let directory := line.directory.written
  let output := line.output.written
  observeAll (← here) ([directory, above output, output] ++ names.map (Path.join directory))

/-- Brings the output to what a tree says. It is complete before it stands at its path. -/
def publish (before after : Tree) (output : Text) : IO Unit :=
  match before.read output, after.read output with
  | _, .error _ => pure ()
  | found, .ok s =>
    if found.toOption = some s then pure ()
    else do
      let draft := spelled (Bundle.draftPath output)
      IO.FS.writeBinFile draft ⟨s.toArray⟩
      IO.FS.rename draft (spelled output)

/-- The lines of standard input. -/
def readNames : IO (List Text) := do
  let input ← (← IO.getStdin).readToEnd
  pure ((Text.lines (Text.ofString input)).filter fun name => !name.isEmpty)

/-- What a failure that the command does not report looks like. -/
def finish (exit : Outcome Exit) : IO UInt32 :=
  match exit with
  | .ok (.done code) | .ok (.early code) => pure code.toUInt32
  | .error e => do
    IO.eprintln (spelled e.message)
    pure 1

def run (arguments : List Text) : IO UInt32 := do
  let line := (Line.ofTexts arguments).toOption
  let before ← match line with
    | some line => observeFor line (← readNames)
    | none => pure .empty
  let ran := Command.run arguments before
  if let some line := line then publish before ran.files line.output.written
  let time := (← Std.Time.PlainDateTime.now).format "uuuu-MM-dd HH:mm:ss"
  for entry in ran.log.visible (if ran.verbose then Severity.debug else .info).rank do
    IO.eprintln (spelled (entry.stamped (Text.ofString time)))
  IO.print (spelled ran.printed)
  IO.eprint (spelled ran.complaints)
  finish ran.exit

end Disk
end AssetBundle

def main (arguments : List String) : IO UInt32 :=
  AssetBundle.Disk.run (arguments.map AssetBundle.Text.ofString)
