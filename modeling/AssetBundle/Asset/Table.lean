import Std.Data.HashMap
import AssetBundle.Asset.Record

/-!
# AssetBundle.Asset.Table

An ordered, fixed sequence of assets with lookup by path. The index holds, for every path, the
position of the first record with that path. A table is made from a sequence, which may hold records
only, from the parallel arrays of a bundle, or from nothing at all.
-/

namespace AssetBundle

/-- Positions by path; a path that is already there keeps its position. -/
abbrev Positions := Std.HashMap Text Nat

namespace Positions

def add (positions : Positions) : Nat → List Record → Positions
  | _, [] => positions
  | position, r :: rest => add (positions.insertIfNew r.url position) (position + 1) rest

def ofRecords (records : List Record) : Positions := add {} 0 records

end Positions

structure Table where
  records : Array Record
  positions : Positions
  indexed : positions = Positions.ofRecords records.toList

namespace Table

def ofRecords (records : List Record) : Table :=
  ⟨records.toArray, .ofRecords records, by simp⟩

def empty : Table := ofRecords []

instance : Inhabited Table := ⟨empty⟩

def toList (t : Table) : List Record := t.records.toList

def size (t : Table) : Nat := t.records.size

def urls (t : Table) : List Text := t.toList.map Record.url

/-- The first record at a path. -/
def find? (t : Table) (url : Text) : Option Record :=
  match t.positions[url]? with
  | none => none
  | some position => t.records[position]?

def summary (t : Table) : Text := "<AssetTable with " ++ Text.ofNat t.size ++ " assets>"

/-- Positions are machine integers: those from minus this bound up to it, which is left out. -/
def positionBound : Int := 0x8000000000000000

/-- The record at a position; negative positions count from the end. -/
def get (t : Table) (position : Int) : Outcome Record :=
  if position < -positionBound ∨ positionBound ≤ position then .error .indexTooLarge
  else
    let position := if position < 0 then position + t.size else position
    match position with
    | .ofNat n =>
      match t.records[n]? with
      | some r => .ok r
      | none => .error .indexOutOfRange
    | .negSucc _ => .error .indexOutOfRange

/-- The positions of a slice: from a start towards a stop that is left out, in steps. -/
def slicePositions : Nat → Int → Int → Int → List Nat
  | 0, _, _, _ => []
  | fuel + 1, start, stop, step =>
    if (0 < step ∧ start < stop) ∨ (step < 0 ∧ stop < start) then
      start.toNat :: slicePositions fuel (start + step) stop step
    else []

/-- The records of a slice. Missing bounds mean the ends, negative ones count from the end, and
bounds beyond the ends are moved to them. -/
def slice (t : Table) (start stop : Option Int) (step : Int) : Outcome (List Record) :=
  let size : Int := t.size
  let clamp (low high bound : Int) : Int :=
    let bound := if bound < 0 then bound + size else bound
    max low (min high bound)
  let (first, last) : Int × Int :=
    if 0 < step then
      ((start.map (clamp 0 size)).getD 0, (stop.map (clamp 0 size)).getD size)
    else
      ((start.map (clamp (-1) (size - 1))).getD (size - 1),
        (stop.map (clamp (-1) (size - 1))).getD (-1))
  if step = 0 then .error .sliceStep
  else .ok ((slicePositions t.size first last step).filterMap fun position => t.records[position]?)

/-- What stands in a sequence that a table is to be made of: a record, or something else. -/
inductive Item (α : Type) where
  | record (r : Record)
  | other (a : α)

/-- The records of a sequence that holds nothing else. -/
def onlyRecords {α : Type} : List (Item α) → Outcome (List Record)
  | [] => .ok []
  | .other _ :: _ => .error .recordType
  | .record r :: rest =>
    match onlyRecords rest with
    | .error e => .error e
    | .ok records => .ok (r :: records)

/-- Makes a table of a sequence. Anything but a record in it is refused. -/
def ofItems {α : Type} (items : List (Item α)) : Outcome Table :=
  match onlyRecords items with
  | .error e => .error e
  | .ok records => .ok (ofRecords records)

/-- Makes a table of values given from outside, none of which is a record. -/
def ofValues (values : List Value) : Outcome Table := ofItems (values.map .other)

/-- The sizes of contents that have one. -/
def sizesOf : List Value → Outcome (List Nat)
  | [] => .ok []
  | v :: rest =>
    match v.size? with
    | none => .error (.noLength v.typeName)
    | some n =>
      match sizesOf rest with
      | .error e => .error e
      | .ok sizes => .ok (n :: sizes)

/-- Whether declared sizes are the given numbers. -/
def sizesAgree : List Value → List Nat → Bool
  | [], [] => true
  | v :: values, n :: sizes => v.equalsNat n && sizesAgree values sizes
  | _, _ => false

/-- Compares declared sizes, if there are any, with those of the contents. -/
def checkSizes (contents : List Value) (sizes : Value) : Outcome Unit :=
  match sizes with
  | .none => .ok ()
  | sizes =>
    match sizes.elements? with
    | none => .error (.notIterable sizes.typeName)
    | some declared =>
      match sizesOf contents with
      | .error e => .error e
      | .ok actual => if sizesAgree declared actual then .ok () else .error .arraySizes

def recordsOf : List Value → List Value → List Value → Outcome (List Record)
  | url :: urls, contentType :: contentTypes, content :: contents =>
    match Record.ofValues url contentType content with
    | .error e => .error e
    | .ok r =>
      match recordsOf urls contentTypes contents with
      | .error e => .error e
      | .ok records => .ok (r :: records)
  | _, _, _ => .ok []

/-- Makes a table of the parallel arrays of a bundle. -/
def ofArrays (urls contentTypes contents : List Value) (sizes : Value) : Outcome Table :=
  if urls.length ≠ contentTypes.length ∨ contentTypes.length ≠ contents.length then
    .error .arrayLengths
  else
    match checkSizes contents sizes with
    | .error e => .error e
    | .ok () =>
      match recordsOf urls contentTypes contents with
      | .error e => .error e
      | .ok records => .ok (ofRecords records)

end Table
end AssetBundle
