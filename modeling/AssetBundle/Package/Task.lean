import AssetBundle.Files.Tree
import AssetBundle.Package.Metadata
import AssetBundle.Package.Signature

/-!
# AssetBundle.Package.Task

The tasks of the workshop: testing, embedding, checking and cleaning. Most of a task is a call of
a tool, whose exit code decides how the task ends. `clean` does its work itself: it walks the
files from the top and removes what tools leave behind.
-/

namespace AssetBundle

/-- A call of a tool. -/
inductive ToolCall where
  | tests (arguments : List Text)
  | process (arguments : List Value)
  | browser (page : Text)
  | format (arguments : List Text)

inductive TaskEnd where
  | returned
  | exited (code : Int)
  | stopped (message : Text)

/-- What a task leaves behind. `server` is the server that the tests are told to use. -/
structure Worked where
  outcome : Outcome TaskEnd
  calls : List ToolCall
  printed : List Text
  server : Option Text
  files : Tree

/-- What the tools answer: their exit code, and whether the linter is there at all. -/
structure Workshop where
  code : Int
  hasLinter : Bool

inductive Task where
  | tests
  | embed
  | lint
  | checkFormat
  | autoFormat
  | clean
deriving DecidableEq, Repr

namespace Task

def names : List (Text × Task) := [
  ("tests", .tests),
  ("embed", .embed),
  ("lint", .lint),
  ("checkformat", .checkFormat),
  ("autoformat", .autoFormat),
  ("clean", .clean)]

def ofName? (t : Text) : Option Task := names.lookup t

/-- What is told of the arguments of the embedding task. -/
def embedHelp : List (Text × Text) :=
  [("src", "the directory to embed"), ("out", "the module to write")]

/-- The places with code to check. -/
def sources : List Text := [Metadata.packageName, "examples", "tests", "tasks.py", "setup.py"]

def misplaced : Text := "package NAME seems to be incorrect."

/-- Whether a directory holds the package. The tasks cannot be used elsewhere. -/
def isPackageIn (files : Tree) : Bool := files.isDirectory Metadata.packageName

/-- The interpreter with which tools are run. -/
def interpreter : Text := "PYTHON"

def top : Text := "."

def context : Parameter := ⟨"ctx", none⟩

def signature : Task → Signature
  | .tests =>
    ⟨"tests", [context, ⟨"server", some (.text "mock")⟩, ⟨"cover", some (.bool false)⟩]⟩
  | .embed =>
    ⟨"embed", [context, ⟨"src", none⟩, ⟨"out", none⟩, ⟨"prefix", some (.text "/")⟩]⟩
  | .lint => ⟨"lint", [context]⟩
  | .checkFormat => ⟨"checkformat", [context]⟩
  | .autoFormat => ⟨"autoformat", [context]⟩
  | .clean => ⟨"clean", [context]⟩

/-- A task that ends with the code of its last tool, unless that is zero. -/
def ending (code : Int) : TaskEnd := if code = 0 then .returned else .exited code

/-- Nothing done so far. -/
def idle (files : Tree) (outcome : Outcome TaskEnd) : Worked := ⟨outcome, [], [], none, files⟩

def testArguments : List Text := [
  "-v", "--cov=" ++ Metadata.packageName, "--cov-report=term", "--cov-report=html", "tests"]

/-- Runs the tests with a server, and shows their coverage if they pass and it was asked for. -/
def runTests (shop : Workshop) (files : Tree) (server cover : Value) : Worked :=
  match server with
  | .text server =>
    match Path.check server with
    | .error e => idle files (.error e)
    | .ok () =>
      let showing := shop.code = 0 && cover.truthy
      let calls := ToolCall.tests testArguments ::
        (if showing then [.browser "htmlcov/index.html"] else [])
      ⟨.ok (ending shop.code), calls, [], some server, files⟩
  | v => idle files (.error (.textRequired v.typeName))

/-- Embeds a directory by running the package's own command. -/
def runEmbed (shop : Workshop) (files : Tree) (operands : List Value) : Worked :=
  let front : List Value := [.text interpreter, .text "-m", .text Metadata.packageName]
  { idle files (.ok (.exited shop.code)) with calls := [.process (front ++ operands)] }

def lintArguments : List Value :=
  [.text interpreter, .text "-m", .text "flake8"] ++ sources.map Value.text ++
    [.text "--select=F,E11"]

/-- Checks the code, if there is a linter. -/
def runLint (shop : Workshop) (files : Tree) : Worked :=
  if !shop.hasLinter then
    idle files (.ok (.stopped "You need to ``pip install flake8`` to lint"))
  else
    let printed : List Text := if shop.code = 0 then ["No style errors found"] else []
    { idle files (.ok (ending shop.code)) with
      calls := [.process lintArguments]
      printed := printed }

/-- Runs the formatter, either to look or to change. -/
def runFormat (files : Tree) (change : Bool) : Worked :=
  let arguments : List Text := if change then [top] else ["--check", top]
  { idle files (.ok .returned) with calls := [.format arguments] }

/-- Directories that tools leave behind. -/
def litterDirectories : List Text := [
  Tree.cacheName, ".cache", "htmlcov", ".pytest_cache", "dist", "build",
  Metadata.packageName ++ ".egg-info"]

def litterEndings : List Text := [".pyc", ".pyo", ".tmp"]

def isLitterFile (name : Text) : Bool :=
  litterEndings.any (fun e => e.isSuffixOf name) || name = ".coverage"

/-- Cleaning in progress: the files as they are, and what was removed, newest first. -/
structure Cleaning where
  files : Tree
  removed : List Text

/-- Removes litter among the directories at a place. Links to directories cannot be removed. -/
def cleanDirectories (place : Place) (c : Cleaning) : List Text → Outcome Unit × Cleaning
  | [] => (.ok (), c)
  | name :: rest =>
    if !litterDirectories.contains name then cleanDirectories place c rest
    else
      match c.files.at? (place ++ [name]) with
      | some .directory =>
        cleanDirectories place ⟨c.files.clear (place ++ [name]), name :: c.removed⟩ rest
      | _ => (.error .linkRemoval, c)

def cleanFiles (place : Place) (c : Cleaning) : List Text → Cleaning
  | [] => c
  | name :: rest =>
    if isLitterFile name then
      cleanFiles place ⟨c.files.erase (place ++ [name]), name :: c.removed⟩ rest
    else cleanFiles place c rest

/-- Cleans a place and then what is left below it, links aside. The fuel bounds the depth. -/
def cleanAt : Nat → Place → Cleaning → Outcome Unit × Cleaning
  | 0, _, c => (.ok (), c)
  | fuel + 1, place, c =>
    let names := (c.files.children place).map Prod.fst
    let (directories, others) := names.partition fun name =>
      c.files.isDirectory (Path.absolute (place ++ [name]))
    match cleanDirectories place c directories with
    | (.error e, c) => (.error e, c)
    | (.ok (), c) =>
      directories.foldl (fun (outcome, c) name =>
        match outcome, c.files.at? (place ++ [name]) with
        | .ok (), some .directory => cleanAt fuel (place ++ [name]) c
        | outcome, _ => (outcome, c)) (.ok (), cleanFiles place c others)

/-- Deeper than any place. -/
def depth (files : Tree) : Nat :=
  files.nodes.foldl (fun n entry => max n entry.1.length) 0 + 1

def runClean (files : Tree) : Worked :=
  let (outcome, c) := cleanAt (depth files) files.home ⟨files, []⟩
  let printed := c.removed.reverse.map fun name => ("Removing " : Text) ++ name
  { idle c.files (outcome.map fun () => .returned) with printed := printed }

/-- Runs a task on the values of its parameters. -/
def act (shop : Workshop) (files : Tree) : Task → List Value → Worked
  | .tests, [_, server, cover] => runTests shop files server cover
  | .embed, _ :: operands => runEmbed shop files operands
  | .lint, _ => runLint shop files
  | .checkFormat, _ => runFormat files false
  | .autoFormat, _ => runFormat files true
  | .clean, _ => runClean files
  | .tests, _ | .embed, _ => idle files (.ok .returned)

/-- Calls a task. -/
def run (task : Task) (shop : Workshop) (files : Tree) (values : List Value)
    (named : List (Text × Value)) : Worked :=
  match task.signature.bind (.none :: values) named with
  | .error e => idle files (.error e)
  | .ok values => act shop files task values

end Task
end AssetBundle
