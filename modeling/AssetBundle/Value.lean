import AssetBundle.Number.Binary64
import AssetBundle.Number.Integer
import AssetBundle.Text.Quoted

/-!
# AssetBundle.Value

Loosely typed values. The public calls take some of their arguments from configuration and from
outside callers, where a number may stand in place of a text; what such a call answers to a wrong
type is part of its contract. A value knows its type's name, its written form, its quoted form,
and the number it equals.
-/

namespace AssetBundle

inductive Value where
  | none
  | bool (b : Bool)
  | int (n : Int)
  | real (x : Binary64)
  | text (t : Text)
  | bytes (s : Bytes)
  /-- A byte string that can be changed in place. -/
  | buffer (s : Bytes)
  /-- A window on a byte string. -/
  | window (s : Bytes)
  | list (items : List Value)
  | dict (entries : List (Text × Value))
deriving Inhabited

namespace Value

instance : Coe Text Value := ⟨.text⟩

def typeName : Value → Text
  | .none => "NoneType"
  | .bool _ => "bool"
  | .int _ => "int"
  | .real _ => "float"
  | .text _ => "str"
  | .bytes _ => "bytes"
  | .buffer _ => "bytearray"
  | .window _ => "memoryview"
  | .list _ => "list"
  | .dict _ => "dict"

/-- Whether the value counts as present and non-empty. -/
def truthy : Value → Bool
  | .none => false
  | .bool b => b
  | .int n => n ≠ 0
  | .real x => x.toInt? ≠ some 0
  | .text t => !t.isEmpty
  | .bytes s | .buffer s | .window s => !s.isEmpty
  | .list items => !items.isEmpty
  | .dict entries => !entries.isEmpty

def join (parts : List Text) : Text := List.intercalate (", " : Text) parts

mutual

/-- The form in which a value stands inside a message or a list. -/
def quoted : Value → Text
  | .none => "None"
  | .bool b => if b then "True" else "False"
  | .int n => Text.ofInt n
  | .real x => x.text
  | .text t => Quoted.text t
  | .bytes s => Quoted.bytes s
  | .buffer s => ("bytearray(" : Text) ++ (Quoted.bytes s ++ (")" : Text))
  | .window _ => "<memory>"
  | .list items => ("[" : Text) ++ (join (quotedItems items) ++ ("]" : Text))
  | .dict entries => ("\x7b" : Text) ++ (join (quotedEntries entries) ++ ("\x7d" : Text))

def quotedItems : List Value → List Text
  | [] => []
  | v :: rest => quoted v :: quotedItems rest

def quotedEntries : List (Text × Value) → List Text
  | [] => []
  | (key, v) :: rest => (Quoted.text key ++ ((": " : Text) ++ quoted v)) :: quotedEntries rest

end

/-- The written form: a text is itself, everything else is as quoted. -/
def written : Value → Text
  | .text t => t
  | v => quoted v

mutual

/-- Whether a value has a written form. An integer of too many digits has none. -/
def isWritable : Value → Bool
  | .int n => !Integer.isTooLong n
  | .list items => writableItems items
  | .dict entries => writableEntries entries
  | _ => true

def writableItems : List Value → Bool
  | [] => true
  | v :: rest => isWritable v && writableItems rest

def writableEntries : List (Text × Value) → Bool
  | [] => true
  | (_, v) :: rest => isWritable v && writableEntries rest

end

/-- The integer a value equals. Truth values count as one and zero. -/
def toInt? : Value → Option Int
  | .bool b => some (if b then 1 else 0)
  | .int n => some n
  | .real x => x.toInt?
  | _ => Option.none

def equalsNat (v : Value) (n : Nat) : Bool := v.toInt? = some (Int.ofNat n)

/-- The bytes behind any of the three kinds of byte string. -/
def toBytes? : Value → Option Bytes
  | .bytes s | .buffer s | .window s => some s
  | _ => Option.none

/-- What a loop over the value visits: the code points of a text, the bytes of a byte string, the
keys of a dictionary. -/
def elements? : Value → Option (List Value)
  | .list items => some items
  | .text t => some (t.map fun c => .text [c])
  | .bytes s | .buffer s | .window s => some (s.map fun b => .int b.toNat)
  | .dict entries => some (entries.map fun entry => .text entry.1)
  | _ => Option.none

def size? : Value → Option Nat
  | .text t => some t.length
  | .bytes s | .buffer s | .window s => some s.length
  | .list items => some items.length
  | .dict entries => some entries.length
  | _ => Option.none

end Value
end AssetBundle
