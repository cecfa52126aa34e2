import AssetBundle.Text.CodePoint

/-!
# AssetBundle.Log

Log lines. A line has a severity and a message; whoever collects lines sees those at or above a
threshold. Severities are ranked by numbers, and a threshold can be any number.
-/

namespace AssetBundle

inductive Severity where
  | unset
  | debug
  | info
  | warning
  | error
  | critical
deriving DecidableEq, Repr

namespace Severity

def rank : Severity → Int
  | .unset => 0
  | .debug => 10
  | .info => 20
  | .warning => 30
  | .error => 40
  | .critical => 50

def name : Severity → Text
  | .unset => "NOTSET"
  | .debug => "DEBUG"
  | .info => "INFO"
  | .warning => "WARNING"
  | .error => "ERROR"
  | .critical => "CRITICAL"

def letter (s : Severity) : Text := s.name.take 1

def all : List Severity := [unset, debug, info, warning, error, critical]

/-- Further names that severities can be given by. -/
def otherNames : List (Text × Severity) := [("WARN", warning), ("FATAL", critical)]

def ofName? (t : Text) : Option Severity :=
  (all.find? fun s => s.name = t).orElse fun _ => otherNames.lookup t

end Severity

structure LogLine where
  severity : Severity
  message : Text
deriving DecidableEq, Repr

abbrev Log := List LogLine

namespace LogLine

/-- The line as printed, behind its letter and the time. -/
def stamped (time : Text) (line : LogLine) : Text :=
  "[" ++ line.severity.letter ++ " " ++ time ++ "] " ++ line.message

end LogLine

namespace Log

/-- The threshold that is in force: warnings and above, where none is set. -/
def effective (threshold : Int) : Int :=
  if threshold = Severity.unset.rank then Severity.warning.rank else threshold

/-- The lines at or above a threshold. -/
def visible (threshold : Int) (log : Log) : Log :=
  log.filter fun line => effective threshold ≤ line.severity.rank

end Log

end AssetBundle
