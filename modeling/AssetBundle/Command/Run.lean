import AssetBundle.Command.Line

/-!
# AssetBundle.Command.Run

The command: it reads its command line, builds a bundle and ends with an exit code. Failures of
building and of compression are printed; a command line that cannot be read is answered by the
usage, and a question for help by the help.
-/

namespace AssetBundle

/-- How the command ends: by itself, or early while it reads its command line. -/
inductive Exit where
  | done (code : Nat)
  | early (code : Nat)
deriving DecidableEq, Repr

/-- What the command leaves behind. -/
structure Ran where
  exit : Outcome Exit
  printed : Text
  complaints : Text
  files : Tree
  log : Log
  /-- Whether debugging lines were asked for. -/
  verbose : Bool

namespace Command

def name : Text := "embedstatics"

def usage : Text :=
  "usage: embedstatics [-h] [--level LEVEL] [--max-age MAX_AGE] [-v]\n" ++
  "                    input_dir output [url_prefix]\n"

def description : Text := "Embed the files in a directory as a static asset module."

/-- What the help says of each argument, in two columns. -/
def operandHelp : List (String × String) := [
  ("input_dir", "directory with the files to embed"),
  ("output", "the Python module to write"),
  ("url_prefix", "default '/'")]

def flagHelp : List (String × String) := [
  ("-h, --help", "show this help message and exit"),
  ("--level LEVEL", "gzip compression level"),
  ("--max-age MAX_AGE", "add a cache-control max-age"),
  ("-v, --verbose", "")]

/-- The column in which explanations start. -/
def helpColumn : Nat := 21

def helpLine (entry : String × String) : Text :=
  let left : Text := "  " ++ entry.1
  let right : Text := entry.2
  if right.isEmpty then left ++ Literal.lineFeed
  else left ++ (List.replicate (helpColumn - left.length) 0x20 ++ (right ++ Literal.lineFeed))

def help : Text :=
  let operands : Text := "\npositional arguments:\n"
  let flags : Text := "\noptions:\n"
  usage ++ (Literal.lineFeed ++ (description ++ (Literal.lineFeed ++
    (operands ++ (operandHelp.flatMap helpLine ++ (flags ++ flagHelp.flatMap helpLine))))))

/-- Whether a failure is reported by the command itself. -/
def isReported : Failure → Bool
  | .directory .. | .outputCreate .. | .outputWrite .. | .compressionLevel _ => true
  | _ => false

def report (e : Failure) : Text := name ++ ((": " : Text) ++ (e.message ++ Literal.lineFeed))

def usageError (message : Text) : Text :=
  usage ++ (name ++ ((": error: " : Text) ++ (message ++ Literal.lineFeed)))

/-- Builds what a command line asks for. -/
def act (line : Line) (files : Tree) : Ran :=
  let built := Bundle.build files line.directory.written line.output line.options
  match built.outcome with
  | .ok _ => ⟨.ok (.done 0), [], [], built.files, built.log, line.verbose⟩
  | .error e =>
    if isReported e then ⟨.ok (.done 1), [], report e, built.files, built.log, line.verbose⟩
    else ⟨.error e, [], [], built.files, built.log, line.verbose⟩

def run (texts : List Text) (files : Tree) : Ran :=
  match Line.ofTexts texts with
  | .ok line => act line files
  | .error .help => ⟨.ok (.early 0), help, [], files, [], false⟩
  | .error (.misuse message) =>
    ⟨.ok (.early 2), [], usageError message, files, [], false⟩

end Command
end AssetBundle
