import AssetBundle.Asset.Table

/-!
# AssetBundle.Proofs.Asset.Table

The index of a table finds what a search from the front finds (`find?_eq`): a path is entered with
the position of its first record, and later records of that path do not displace it
(`getElem?_positions`). So a table that is made of a sequence of records has these in their order
and answers every look-up as the sequence would, and a sequence with anything else in it makes no
table (`ofItems_lookup`).
-/

namespace AssetBundle

variable {url : Text}

/-- A path that is there already keeps its position; another one has that of its first record. -/
theorem Positions.getElem?_add (records : List Record) :
    ∀ (positions : Positions) (n : Nat), (positions.add n records)[url]? =
      positions[url]?.or ((records.findIdx? fun r => r.url = url).map (· + n)) := by
  induction records with
  | nil =>
    intro positions n
    simp [Positions.add]
  | cons r rest ih =>
    intro positions n
    rw [Positions.add, ih, Std.HashMap.getElem?_insertIfNew, List.findIdx?_cons]
    by_cases hurl : r.url = url
    · subst hurl
      by_cases hold : r.url ∈ positions
      · simp [hold]
      · simp [hold]
    · -- A position in the rest is counted from one further on.
      have hshift : ((rest.findIdx? fun r => r.url = url).map (· + 1)).map (· + n) =
          (rest.findIdx? fun r => r.url = url).map (· + (n + 1)) := by
        rw [Option.map_map]
        congr 1
        funext position
        simp only [Function.comp_apply]
        omega
      simp [hurl, ← hshift]

namespace Table

/-- The index has every path with the position of its first record. -/
theorem getElem?_positions (t : Table) (url : Text) :
    t.positions[url]? = t.toList.findIdx? fun r => r.url = url := by
  rw [t.indexed, Positions.ofRecords, Positions.getElem?_add, Std.HashMap.getElem?_empty,
    Option.none_or]
  exact Option.map_id'

/-- Looking up a path in the index finds the first record with that path. -/
theorem find?_eq (t : Table) (url : Text) : t.find? url = t.toList.find? fun r => r.url = url := by
  rw [find?, getElem?_positions, List.find?_eq_bind_findIdx?_getElem?]
  cases t.toList.findIdx? fun r => r.url = url with
  | none => rfl
  | some position => simp [toList]

/-- Whether a table has the records of a sequence in their order, keeps positions of these alone in
its index, and finds what a search of the sequence from the front finds. -/
structure Holds (t : Table) (records : List Record) : Prop where
  toList : t.toList = records
  urls : t.urls = records.map Record.url
  size : t.size = records.length
  position {url : Text} {n : Nat} : t.positions[url]? = some n →
    ∃ h : n < records.length, records[n].url = url
  found (url : Text) : t.find? url = records.find? fun r => r.url = url
  missing (url : Text) : t.find? url = none ↔ ∀ r ∈ records, r.url ≠ url

theorem holds_ofRecords (records : List Record) : (ofRecords records).Holds records where
  toList := rfl
  urls := rfl
  size := rfl
  position := fun {url n} hposition => by
    rw [getElem?_positions] at hposition
    obtain ⟨hrange, hurl, _⟩ := List.findIdx?_eq_some_iff_getElem.1 hposition
    exact ⟨hrange, of_decide_eq_true hurl⟩
  found := find?_eq _
  missing := fun url => by
    rw [find?_eq, List.find?_eq_none]
    exact forall₂_congr fun r _ => not_congr decide_eq_true_iff

variable {α : Type}

theorem onlyRecords_map (records : List Record) :
    onlyRecords (records.map (Item.record (α := α))) = .ok records := by
  induction records with
  | nil => rfl
  | cons r rest ih => rw [List.map_cons, onlyRecords, ih]

theorem onlyRecords_of_other {a : α} {items : List (Item α)} (h : .other a ∈ items) :
    onlyRecords items = .error .recordType := by
  induction items with
  | nil => cases h
  | cons item rest ih =>
    cases item with
    | other b => rfl
    | record r =>
      have hrest : .other a ∈ rest := (List.mem_cons.1 h).resolve_left nofun
      rw [onlyRecords, ih hrest]

/-- A sequence of records makes a table that holds just these, whatever paths are repeated, and a
sequence with something else in it makes none. -/
theorem ofItems_lookup (items : List (Item α)) :
    (∀ records : List Record, items = records.map .record →
      ∃ t, ofItems items = .ok t ∧ t.Holds records) ∧
    ∀ a : α, .other a ∈ items → ∃ e, ofItems items = .error e ∧ e.kind = "TypeError" := by
  refine ⟨fun records hitems => ⟨ofRecords records, ?_, holds_ofRecords records⟩,
    fun a hother => ⟨.recordType, ?_, rfl⟩⟩
  · rw [hitems, ofItems, onlyRecords_map]
  · rw [ofItems, onlyRecords_of_other hother]

/-- The first of two records of one path is found, and a bare path between them is refused. -/
theorem ofItems_lookup_repeated :
    let page (payload : Bytes) : Record :=
      ⟨"/a", "text/plain", payload, [("Content-Type", "text/plain")], by rfl⟩
    let items : List (Item Value) := [.record (page [1]), .record (page [2])]
    let mixed : List (Item Value) := [.record (page [1]), .other (.text "/a"), .record (page [2])]
    (items = [page [1], page [2]].map .record ∧ ∃ t, ofItems items = .ok t ∧ t.size = 2 ∧
      t.find? "/a" = some (page [1]) ∧ t.find? "/b" = none) ∧
    .other (.text "/a") ∈ mixed ∧ ∃ e, ofItems mixed = .error e ∧ e.kind = "TypeError" := by
  intro page items mixed
  obtain ⟨t, hmade, hholds⟩ := (ofItems_lookup items).1 [page [1], page [2]] rfl
  have hmixed : .other (.text "/a") ∈ mixed := List.mem_cons_of_mem _ List.mem_cons_self
  exact ⟨⟨rfl, t, hmade, hholds.size, hholds.found "/a", hholds.found "/b"⟩, hmixed,
    (ofItems_lookup mixed).2 _ hmixed⟩

end Table
end AssetBundle
