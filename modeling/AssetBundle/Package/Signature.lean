import AssetBundle.Failure
import AssetBundle.Keyed

/-!
# AssetBundle.Package.Signature

Calling a task by name with arguments that stand in order or are named. Every parameter gets at
most one argument, and one without a default gets exactly one.
-/

namespace AssetBundle

structure Parameter where
  name : Text
  default : Option Value

structure Signature where
  call : Text
  parameters : List Parameter

namespace Signature

/-- The arguments in order, for the first parameters. -/
def placed : List Parameter → List Value → List (Text × Value)
  | p :: parameters, v :: values => (p.name, v) :: placed parameters values
  | _, _ => []

/-- Adds the named arguments to those that were placed. -/
def addNamed (s : Signature) (bound : List (Text × Value)) :
    List (Text × Value) → Outcome (List (Text × Value))
  | [] => .ok bound
  | (name, v) :: rest =>
    if !s.parameters.any fun p => p.name = name then .error (.unexpectedArgument s.call name)
    else if Keyed.has name bound then .error (.repeatedArgument s.call name)
    else addNamed s (bound ++ [(name, v)]) rest

/-- The number of parameters without a default. -/
def required (s : Signature) : Nat := (s.parameters.filter fun p => p.default.isNone).length

def missing (s : Signature) (bound : List (Text × Value)) : List Text :=
  (s.parameters.filter fun p => p.default.isNone && !Keyed.has p.name bound).map Parameter.name

def valueOf (bound : List (Text × Value)) (p : Parameter) : Value :=
  ((bound.lookup p.name).orElse fun _ => p.default).getD .none

/-- The value of every parameter, in order. -/
def bind (s : Signature) (values : List Value) (named : List (Text × Value)) :
    Outcome (List Value) :=
  match s.addNamed (placed s.parameters values) named with
  | .error e => .error e
  | .ok bound =>
    if s.parameters.length < values.length then
      .error (.tooManyArguments s.call s.required s.parameters.length values.length)
    else if !(s.missing bound).isEmpty then .error (.missingArguments s.call (s.missing bound))
    else .ok (s.parameters.map (valueOf bound))

end Signature
end AssetBundle
