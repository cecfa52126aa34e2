import AssetBundle.Bundle.Reader
import AssetBundle.Proofs.Asset.Arrays
import AssetBundle.Proofs.Asset.Headers
import AssetBundle.Proofs.Bundle.Constant
import AssetBundle.Proofs.Cutting
import AssetBundle.Proofs.Text.Quoted
import AssetBundle.Proofs.Text.Utf8

/-!
# AssetBundle.Proofs.Bundle.Reading

A written bundle is read back. Its text is lines, and the reader goes over them definition by
definition: a byte string is found byte by byte (`read_bytes`), a tuple item by item
(`read_tuple`), and a name stands for what was written under it, since no two constants are the
same. So the table of the text holds the assets that were written (`table_write`), and so does
that of the text in bytes (`ofFile_write`).
-/

namespace AssetBundle

namespace Literal

/-- Lines with an end behind each. -/
def unlines (lines : List Text) : Text := lines.flatMap fun line => line ++ lineFeed

@[simp] theorem unlines_nil : unlines [] = [] := rfl

@[simp] theorem unlines_cons (line : Text) (lines : List Text) :
    unlines (line :: lines) = line ++ (lineFeed ++ unlines lines) := by
  rw [unlines, List.flatMap_cons, List.append_assoc]
  rfl

@[simp] theorem unlines_append (left right : List Text) :
    unlines (left ++ right) = unlines left ++ unlines right := List.flatMap_append

/-- The lines of a definition: an opening, what stands inside, and a closing. -/
def block (name : Text) (inside : List Text) : List Text :=
  (name ++ (" = (" : Text)) :: (inside ++ [(")" : Text), []])

theorem unlines_block (name : Text) (inside : List Text) :
    unlines (block name inside) = opening name ++ (unlines inside ++ closing) := by
  simp [block, opening, closing, List.append_assoc]

def hexLine (chunk : Bytes) : Text := ("    b\"" : Text) ++ (chunk.flatMap hexByte ++ ("\"" : Text))

/-- The lines of bytes are printable. -/
theorem isPrintable_hexLines (runs : List Bytes) :
    ∀ line ∈ runs.map hexLine, Text.isPrintable line = true := by
  intro line hline
  obtain ⟨run, _, rfl⟩ := List.mem_map.1 hline
  have hbytes : Text.isPrintable (run.flatMap hexByte) = true := by
    refine Text.isPrintable_flatMap fun b _ => ?_
    rw [hexByte, Text.isPrintable_cons, Text.isPrintable_cons, Quoted.isPrintable_hex]
    decide
  rw [hexLine, Text.isPrintable_append, Text.isPrintable_append, hbytes]
  decide

/-- The runs of bytes that have a line each. -/
def runs (s : Bytes) : List Bytes := if s.isEmpty then [[]] else Sequence.chunks bytesPerLine s

theorem flatten_runs (s : Bytes) : (runs s).flatten = s := by
  rw [runs]
  split
  · next h => simp [List.isEmpty_iff.1 h]
  · exact Sequence.flatten_chunks (by decide) s

theorem flatten_map_line {α : Type} (f g : α → Text) (h : ∀ x, f x = g x ++ lineFeed) (l : List α) :
    (l.map f).flatten = unlines (l.map g) := by
  induction l with
  | nil => rfl
  | cons x l ih => rw [List.map_cons, List.flatten_cons, ih, h]; simp

theorem bytes_eq (name : Text) (s : Bytes) :
    bytes name s = unlines (block name ((runs s).map hexLine)) := by
  have hline : ∀ chunk, byteLine chunk = hexLine chunk ++ lineFeed := by
    intro chunk
    simp [byteLine, hexLine, List.append_assoc]
  have hlines : (byteLines s).flatten = unlines ((runs s).map hexLine) := by
    rw [← flatten_map_line byteLine hexLine hline, byteLines, runs]
    split <;> rfl
  rw [bytes, pieces, List.flatten_cons, List.flatten_append, hlines, List.flatten_singleton,
    unlines_block]

def itemText (item : Text) : Text := ("    " : Text) ++ (item ++ ("," : Text))

def commentText (comment : Text) : Text := ("    # " : Text) ++ Quoted.text comment

theorem isPrintable_itemText {item : Text} (h : Text.isPrintable item = true) :
    Text.isPrintable (itemText item) = true := by
  rw [itemText, Text.isPrintable_append, Text.isPrintable_append, h]
  decide

/-- The lines of items are printable if the items are. -/
theorem isPrintable_items {items : List Text} (h : ∀ item ∈ items, Text.isPrintable item = true) :
    ∀ line ∈ items.map itemText, Text.isPrintable line = true := by
  intro line hline
  obtain ⟨item, hitem, rfl⟩ := List.mem_map.1 hline
  exact isPrintable_itemText (h item hitem)

/-- The lines of quoted texts with comments are printable, whatever the texts and comments are. -/
theorem isPrintable_commentedItems {α : Type} (xs : List α) (comment item : α → Text) :
    ∀ line ∈ xs.flatMap fun x => [commentText (comment x), itemText (Quoted.text (item x))],
      Text.isPrintable line = true := by
  intro line hline
  obtain ⟨x, _, hline⟩ := List.mem_flatMap.1 hline
  rcases List.mem_pair.1 hline with rfl | rfl
  · rw [commentText, Text.isPrintable_append, Quoted.isPrintable_text]
    decide
  · exact isPrintable_itemText (Quoted.isPrintable_text _)

theorem tuple_eq (name : Text) (items : List Text) :
    tuple name items = unlines (block name (items.map itemText)) := by
  have hline : ∀ item, itemLine item = itemText item ++ lineFeed := by
    intro item
    simp [itemLine, itemText, List.append_assoc]
  rw [tuple, List.flatMap_def, flatten_map_line itemLine itemText hline, unlines_block]

theorem commentedTuple_eq (name : Text) (items : List (Text × Text)) :
    commentedTuple name items =
      unlines (block name (items.flatMap fun item => [commentText item.1, itemText item.2])) := by
  have hlines : (items.flatMap fun item => commentLine item.1 ++ itemLine item.2) =
      unlines (items.flatMap fun item => [commentText item.1, itemText item.2]) := by
    induction items with
    | nil => rfl
    | cons item items ih =>
      rw [List.flatMap_cons, List.flatMap_cons, unlines_append, ih]
      simp [commentLine, commentText, itemLine, itemText, List.append_assoc]
  rw [commentedTuple, unlines_block, ← hlines]

end Literal

namespace Reader

variable {names : Names} {p : Pending}

theorem behind?_append (start rest : Text) : behind? start (start ++ rest) = some rest := by
  rw [behind?, if_pos (List.isPrefixOf_iff_prefix.2 ⟨rest, rfl⟩), List.drop_left]

theorem inFront?_append (rest ending : Text) : inFront? ending (rest ++ ending) = some rest := by
  rw [inFront?, if_pos (List.isSuffixOf_iff_suffix.2 ⟨rest, rfl⟩)]
  simp

theorem hexByte_eq (b : UInt8) : Literal.hexByte b =
    [Quoted.backslash, CodePoint.ofChar 'x', Quoted.hexDigit (b.toNat / 16),
      Quoted.hexDigit b.toNat] := rfl

/-- The bytes of a line are read back one by one. -/
theorem hexBytes_hexByte (chunk : Bytes) : ∀ done : Bytes,
    hexBytes done (chunk.flatMap Literal.hexByte ++ [Quoted.doubleQuote]) =
      some (done.reverse ++ chunk) := by
  induction chunk with
  | nil => intro done; simp [hexBytes]
  | cons b chunk ih =>
    intro done
    have hb := b.toNat_lt
    have hvalue : UInt8.ofNat (b.toNat / 16 % 16 * 16 + b.toNat % 16) = b := by
      rw [show b.toNat / 16 % 16 * 16 + b.toNat % 16 = b.toNat by omega, UInt8.ofNat_toNat]
    rw [List.flatMap_cons, hexByte_eq]
    simp only [List.cons_append, List.nil_append, hexBytes, Quoted.hexValue?_hexDigit, and_self,
      if_true]
    rw [hvalue, ih]
    simp

theorem insideLine_hexLine (chunk : Bytes) :
    insideLine names p (Literal.hexLine chunk) = some { p with pieces := chunk :: p.pieces } := by
  have hbehind : behind? byteStart (Literal.hexLine chunk) =
      some (chunk.flatMap Literal.hexByte ++ [Quoted.doubleQuote]) := behind?_append byteStart _
  rw [insideLine, hbehind]
  dsimp only
  rw [hexBytes_hexByte]
  simp

theorem insideLine_commentText (comment : Text) :
    insideLine names p (Literal.commentText comment) = some p := by
  have hbyte : behind? byteStart (Literal.commentText comment) = none := rfl
  have hcomment : commentStart.isPrefixOf (Literal.commentText comment) = true :=
    List.isPrefixOf_iff_prefix.2 ⟨_, rfl⟩
  rw [insideLine, hbyte]
  dsimp only
  rw [if_pos hcomment]

/-- Whether an item cannot be taken for a byte string or a comment. -/
def IsItem (t : Text) : Prop :=
  ∃ c rest, t = c :: rest ∧ c ≠ CodePoint.ofChar 'b' ∧ c ≠ CodePoint.ofChar '#'

theorem insideLine_itemText {t : Text} {v : Value} (ht : IsItem t) (hv : item names t = some v) :
    insideLine names p (Literal.itemText t) = some { p with items := v :: p.items } := by
  obtain ⟨c, rest, rfl, hb, hcomment⟩ := ht
  have hbyte : byteStart.isPrefixOf (Literal.itemText (c :: rest)) =
      (CodePoint.ofChar 'b' == c && [Quoted.doubleQuote].isPrefixOf (rest ++ comma)) := rfl
  have hmark : commentStart.isPrefixOf (Literal.itemText (c :: rest)) =
      (CodePoint.ofChar '#' == c && [CodePoint.ofChar ' '].isPrefixOf (rest ++ comma)) := rfl
  rw [beq_false_of_ne (Ne.symm hb), Bool.false_and] at hbyte
  rw [beq_false_of_ne (Ne.symm hcomment), Bool.false_and] at hmark
  have hindent : behind? indent (Literal.itemText (c :: rest)) = some (c :: rest ++ comma) :=
    behind?_append indent _
  rw [insideLine, behind?, hbyte, if_neg (by decide)]
  dsimp only
  rw [hmark, if_neg (by decide), hindent]
  dsimp only
  rw [inFront?_append]
  dsimp only
  rw [hv]

/-- A line that can be read inside a definition does not close it. -/
theorem ne_closing {line : Text} {q : Pending} (h : insideLine names p line = some q) :
    line ≠ (")" : Text) := by
  rintro rfl
  cases h

/-- The lines inside a definition are read one after another. -/
theorem read_inside {inside : List Text} {rest : List Text} :
    ∀ {p q : Pending}, inside.foldlM (insideLine names) p = some q →
      read names (some p) (inside ++ rest) = read names (some q) rest := by
  induction inside with
  | nil =>
    intro p q h
    cases h
    rfl
  | cons line inside ih =>
    intro p q h
    rw [List.foldlM_cons] at h
    cases hline : insideLine names p line with
    | none => simp [hline] at h
    | some next =>
      rw [List.cons_append, read, if_neg (ne_closing hline), hline]
      exact ih (by simpa [hline] using h)

/-- A definition gives its name the value that its lines make up. -/
theorem read_block {name : Text} {inside rest : List Text} {q : Pending}
    (h : inside.foldlM (insideLine names) ⟨name, [], []⟩ = some q) (hname : q.name = name) :
    read names none (Literal.block name inside ++ rest) =
      read ((name, finish q) :: names) none rest := by
  have hempty : List.isEmpty (name ++ (" = (" : Text)) = false := by
    cases name <;> rfl
  rw [Literal.block, List.cons_append, read, hempty]
  rw [if_neg (by decide), show (" = (" : Text) = openEnd from rfl, inFront?_append]
  dsimp only
  rw [List.append_assoc, read_inside h, List.cons_append, read, if_pos rfl, hname]
  rfl

theorem read_bytes (name : Text) (s : Bytes) (rest : List Text) :
    read names none (Literal.block name ((Literal.runs s).map Literal.hexLine) ++ rest) =
      read ((name, .bytes s) :: names) none rest := by
  have hinside : ∀ (pieces : List Bytes) (runs : List Bytes),
      (runs.map Literal.hexLine).foldlM (insideLine names) ⟨name, pieces, []⟩ =
        some ⟨name, runs.reverse ++ pieces, []⟩ := by
    intro pieces runs
    induction runs generalizing pieces with
    | nil => rfl
    | cons run runs ih =>
      rw [List.map_cons, List.foldlM_cons, insideLine_hexLine]
      simpa using ih (run :: pieces)
  rw [read_block (hinside [] (Literal.runs s)) rfl, finish]
  have hne : Literal.runs s ≠ [] := by
    intro h
    have hs : s = [] := by rw [← Literal.flatten_runs s, h]; rfl
    subst hs
    cases h
  simp [hne, Literal.flatten_runs]

/-- Items that are read one by one, each perhaps with comments in front. -/
theorem read_items {α : Type} {name : Text} {lines : α → List Text} {value : α → Value}
    {items : List α} {rest : List Text}
    (h : ∀ x ∈ items, ∀ p, (lines x).foldlM (insideLine names) p =
      some { p with items := value x :: p.items }) :
    read names none (Literal.block name (items.flatMap lines) ++ rest) =
      read ((name, .list (items.map value)) :: names) none rest := by
  have hinside : ∀ found : List Value,
      (items.flatMap lines).foldlM (insideLine names) ⟨name, [], found⟩ =
        some ⟨name, [], (items.map value).reverse ++ found⟩ := by
    induction items with
    | nil => intro found; rfl
    | cons x items ih =>
      intro found
      rw [List.flatMap_cons, List.foldlM_append, h x (by simp)]
      simpa using ih (fun y hy => h y (by simp [hy])) (value x :: found)
  rw [read_block (hinside []) rfl]
  simp [finish]

theorem read_tuple {name : Text} {α : Type} {text : α → Text} {value : α → Value} {items : List α}
    {rest : List Text} (hitem : ∀ x ∈ items, IsItem (text x))
    (hvalue : ∀ x ∈ items, item names (text x) = some (value x)) :
    read names none (Literal.block name ((items.map text).map Literal.itemText) ++ rest) =
      read ((name, .list (items.map value)) :: names) none rest := by
  rw [List.map_map, List.map_eq_flatMap]
  refine read_items fun x hx p => ?_
  rw [List.foldlM_cons, Function.comp_apply, insideLine_itemText (hitem x hx) (hvalue x hx)]
  rfl

theorem item_text (t : Text) : item names (Quoted.text t) = some (.text t) := by
  obtain ⟨rest, hrest⟩ : ∃ rest, Quoted.text t = Quoted.quoteFor t :: rest := ⟨_, rfl⟩
  have hquote : Quoted.quoteFor t = Quoted.apostrophe ∨ Quoted.quoteFor t = Quoted.doubleQuote := by
    rw [Quoted.quoteFor]
    split <;> simp
  have hread := Quoted.read_text t
  rw [hrest] at hread ⊢
  rw [item, if_pos hquote, hread]

theorem isItem_text (t : Text) : IsItem (Quoted.text t) := by
  refine ⟨Quoted.quoteFor t, _, rfl, ?_, ?_⟩ <;>
    · rw [Quoted.quoteFor]
      split <;> decide

/-- A quoted text with a comment in front of it is one item. -/
theorem foldlM_commentedItem (comment t : Text) (p : Pending) :
    [Literal.commentText comment, Literal.itemText (Quoted.text t)].foldlM (insideLine names) p =
      some { p with items := .text t :: p.items } := by
  rw [List.foldlM_cons, insideLine_commentText]
  simp [insideLine_itemText (isItem_text _) (item_text _)]

theorem all_isDigit_ofNat (n : Nat) : (Text.ofNat n).all isDigit = true :=
  List.all_eq_true.2 fun _ hc => Text.isDecimal_of_mem_ofNat hc

theorem number_ofNat (n : Nat) : number (Text.ofNat n) = n := Text.foldl_ofNat n

theorem head_ofNat (n : Nat) : ∃ c rest, Text.ofNat n = c :: rest ∧ c.isDecimal = true := by
  cases h : Text.ofNat n with
  | nil => exact absurd h (Text.ofNat_ne_nil n)
  | cons c rest => exact ⟨c, rest, rfl, Text.isDecimal_of_mem_ofNat (h ▸ List.mem_cons_self)⟩

theorem item_ofNat (n : Nat) : item names (Text.ofNat n) = some (.int n) := by
  obtain ⟨c, rest, hn, hc⟩ := head_ofNat n
  have hquote : ¬(c = Quoted.apostrophe ∨ c = Quoted.doubleQuote) := by
    rintro (rfl | rfl) <;> cases hc
  have hdigits := all_isDigit_ofNat n
  have hnumber := number_ofNat n
  rw [hn] at hdigits hnumber ⊢
  rw [item, if_neg hquote, if_pos hdigits, hnumber]

theorem isItem_ofNat (n : Nat) : IsItem (Text.ofNat n) := by
  obtain ⟨c, rest, hn, hc⟩ := head_ofNat n
  refine ⟨c, rest, hn, ?_, ?_⟩ <;> rintro rfl <;> cases hc

theorem head_constant {name : Text} (h : Artifact.IsConstant name) :
    ∃ rest, name = CodePoint.ofChar 'w' :: rest := by
  obtain ⟨word, rfl, _, _⟩ := h
  exact ⟨_, rfl⟩

theorem item_constant {name : Text} (h : Artifact.IsConstant name) :
    item names name = names.lookup name := by
  obtain ⟨rest, rfl⟩ := head_constant h
  have hdigits : (CodePoint.ofChar 'w' :: rest).all isDigit = false := rfl
  rw [item, if_neg (by decide), hdigits, if_neg (by decide)]

theorem isItem_constant {name : Text} (h : Artifact.IsConstant name) : IsItem name := by
  obtain ⟨rest, rfl⟩ := head_constant h
  exact ⟨_, rest, rfl, by decide, by decide⟩

/-- The line that gives the number of assets. -/
def countText (n : Nat) : Text := Artifact.countName ++ (equalSign ++ Text.ofNat n)

theorem read_count (n : Nat) (rest : List Text) :
    read names none (countText n :: [] :: rest) =
      read ((Artifact.countName, .int n) :: names) none rest := by
  have hend : inFront? openEnd (countText n) = none := by
    rw [inFront?, if_neg]
    intro h
    obtain ⟨front, hfront⟩ := List.isSuffixOf_iff_suffix.1 h
    have hlast := congrArg List.getLast? hfront
    have hdigit : (countText n).getLast? = (Text.ofNat n).getLast? := by
      rw [countText, ← List.append_assoc, List.getLast?_append,
        Option.or_of_isSome (by simp [Text.ofNat_ne_nil])]
    rw [List.getLast?_append, Option.or_of_isSome (by decide), hdigit] at hlast
    exact absurd (Text.isDecimal_of_mem_ofNat (List.mem_of_getLast? hlast.symm)) (by decide)
  have hcut : Sequence.cutAt? equalSign (countText n) = some (Artifact.countName, Text.ofNat n) :=
    Sequence.cutAt?_of_head_not_mem _ (by decide) _
  have hempty : (countText n).isEmpty = false := rfl
  rw [read, hempty, if_neg (by decide), hend, hcut]
  dsimp only
  rw [all_isDigit_ofNat, if_pos rfl, number_ofNat, read]
  rfl

end Reader

namespace Artifact

open Literal

/-- The lines between prelude and postlude. -/
def definitionLines (es : List Entry) : List Text :=
  (es.flatMap fun e => block e.constant ((runs e.record.payload).map hexLine)) ++
    (Reader.countText es.length :: [] ::
      (block urlsName ((es.map fun e => Quoted.text e.record.url).map itemText) ++
        (block contentTypesName (es.flatMap fun e =>
            [commentText e.fileName, itemText (Quoted.text e.record.contentType)]) ++
          (block contentsName ((es.map Entry.constant).map itemText) ++
            block sizesName ((es.map fun e => Text.ofNat e.record.size).map itemText)))))

theorem definitions_eq (es : List Entry) : definitions es = unlines (definitionLines es) := by
  have hconstants : (es.flatMap fun e => Literal.bytes e.constant e.record.payload) =
      unlines (es.flatMap fun e => block e.constant ((runs e.record.payload).map hexLine)) := by
    induction es with
    | nil => rfl
    | cons e es ih => rw [List.flatMap_cons, List.flatMap_cons, unlines_append, ih, bytes_eq]
  rw [definitions, payloads, hconstants, tuple_eq, commentedTuple_eq, tuple_eq, tuple_eq,
    definitionLines]
  simp only [unlines_append, unlines_cons, List.flatMap_map]
  rw [countLine, Reader.countText]
  simp [List.append_assoc]
  rfl

/-- What the names of a bundle stand for, the latest first. -/
def bindings (es : List Entry) : Reader.Names :=
  [(sizesName, .list (es.map fun e => .int e.record.size)),
    (contentsName, .list (es.map fun e => .bytes e.record.payload)),
    (contentTypesName, .list (es.map fun e => .text e.record.contentType)),
    (urlsName, .list (es.map fun e => .text e.record.url)),
    (countName, .int es.length)] ++
      (es.map fun e => (e.constant, Value.bytes e.record.payload)).reverse

variable {es : List Entry}

theorem read_constants (rest : List Text) : ∀ (es : List Entry) (names : Reader.Names),
    Reader.read names none
        ((es.flatMap fun e => block e.constant ((runs e.record.payload).map hexLine)) ++ rest) =
      Reader.read ((es.map fun e => (e.constant, Value.bytes e.record.payload)).reverse ++ names)
        none rest := by
  intro es
  induction es with
  | nil => intro names; rfl
  | cons e es ih =>
    intro names
    rw [List.flatMap_cons, List.append_assoc, Reader.read_bytes, ih]
    simp

theorem lookup_of_mem {α : Type} {key : Text} {a : α} :
    ∀ {pairs : List (Text × α)}, (pairs.map Prod.fst).Nodup → (key, a) ∈ pairs →
      pairs.lookup key = some a := by
  intro pairs
  induction pairs with
  | nil => intro _ h; cases h
  | cons pair pairs ih =>
    intro hnodup hmem
    rw [List.map_cons, List.nodup_cons] at hnodup
    rw [List.lookup_cons]
    rcases List.mem_cons.1 hmem with rfl | hmem
    · simp
    · have hne : key ≠ pair.1 := fun h => hnodup.1 (h ▸ List.mem_map_of_mem hmem)
      rw [beq_false_of_ne hne]
      exact ih hnodup.2 hmem

/-- A constant stands for the payload that was written under it, whatever other names there are. -/
theorem lookup_constant (hconstant : ∀ e ∈ es, IsConstant e.constant)
    (hnodup : (es.map Entry.constant).Nodup) {e : Entry} (he : e ∈ es) {names : Reader.Names}
    (hnames : ∀ b ∈ names, ¬ IsConstant b.1) :
    (names ++ (es.map fun e => (e.constant, Value.bytes e.record.payload)).reverse).lookup
      e.constant = some (.bytes e.record.payload) := by
  have hnone : names.lookup e.constant = none := by
    rw [List.lookup_eq_none_iff]
    intro b hb
    have hne : e.constant ≠ b.1 := fun h => hnames b hb (h ▸ hconstant e he)
    simpa using hne
  rw [List.lookup_append, hnone, Option.none_or]
  apply lookup_of_mem
  · rw [List.map_reverse, List.map_map]
    exact List.pairwise_reverse.2 (hnodup.imp Ne.symm)
  · rw [List.mem_reverse]
    exact List.mem_map_of_mem (f := fun e => (e.constant, Value.bytes e.record.payload)) he

/-- The names of the tuples and of the number of assets do not have the mark of constants. -/
theorem not_isConstant {name : Text} (h : constantMark.isPrefixOf name = false) :
    ¬ IsConstant name := by
  rintro ⟨word, rfl, _, _⟩
  rw [List.isPrefixOf_iff_prefix.2 ⟨word, rfl⟩] at h
  cases h

theorem read_definitionLines (hconstant : ∀ e ∈ es, IsConstant e.constant)
    (hnodup : (es.map Entry.constant).Nodup) :
    Reader.read [] none (definitionLines es ++ [[]]) = some (bindings es) := by
  have hcontents : ∀ e ∈ es, Reader.item
      ([(contentTypesName, .list (es.map fun e => .text e.record.contentType)),
        (urlsName, .list (es.map fun e => .text e.record.url)), (countName, .int es.length)] ++
          (es.map fun e => (e.constant, Value.bytes e.record.payload)).reverse) e.constant =
        some (.bytes e.record.payload) := by
    intro e he
    rw [Reader.item_constant (hconstant e he)]
    apply lookup_constant hconstant hnodup he
    simp only [List.mem_cons, List.not_mem_nil, or_false]
    rintro b (rfl | rfl | rfl) <;> exact not_isConstant rfl
  simp only [List.cons_append, List.nil_append] at hcontents
  rw [definitionLines, List.append_assoc, read_constants, List.cons_append, List.cons_append,
    Reader.read_count, List.append_assoc, Reader.read_tuple (fun _ _ => Reader.isItem_text _)
      (fun _ _ => Reader.item_text _), List.append_assoc,
    Reader.read_items (fun _ _ p => Reader.foldlM_commentedItem _ _ p), List.append_assoc,
    List.append_nil,
    Reader.read_tuple (fun e he => Reader.isItem_constant (hconstant e he)) hcontents,
    Reader.read_tuple (fun _ _ => Reader.isItem_ofNat _) (fun _ _ => Reader.item_ofNat _)]
  rfl

theorem isPrintable_of_isConstant {name : Text} (h : IsConstant name) :
    Text.isPrintable name = true := by
  obtain ⟨word, rfl, _, hword⟩ := h
  rw [Text.isPrintable_append, Bool.and_eq_true]
  refine ⟨by decide, List.all_eq_true.2 fun c hc => ?_⟩
  have hword := List.all_eq_true.1 hword c hc
  simp only [Identifier.isWordPoint, Identifier.isAsciiAlphanumeric, Bool.or_eq_true,
    Bool.and_eq_true, decide_eq_true_eq] at hword
  rcases hword with hword | rfl
  · exact CodePoint.isPrintable_of_visible (by omega) (by omega)
  · decide

theorem isPrintable_block {name : Text} {inside : List Text} (hname : Text.isPrintable name = true)
    (hinside : ∀ line ∈ inside, Text.isPrintable line = true) :
    ∀ line ∈ block name inside, Text.isPrintable line = true := by
  intro line hline
  rw [block, List.mem_cons, List.mem_append] at hline
  rcases hline with rfl | hline | hline
  · rw [Text.isPrintable_append, hname]
    decide
  · exact hinside line hline
  · simp only [List.mem_cons, List.not_mem_nil, or_false] at hline
    rcases hline with rfl | rfl <;> decide

theorem isPrintable_definitionLines (hconstant : ∀ e ∈ es, IsConstant e.constant) :
    ∀ line ∈ definitionLines es, Text.isPrintable line = true := by
  rw [definitionLines, List.forall_mem_append, List.forall_mem_cons, List.forall_mem_cons,
    List.forall_mem_append, List.forall_mem_append, List.forall_mem_append]
  refine ⟨?_, ?_, rfl, ?_, ?_, ?_, ?_⟩
  · intro line hline
    obtain ⟨e, he, hline⟩ := List.mem_flatMap.1 hline
    exact isPrintable_block (isPrintable_of_isConstant (hconstant e he)) (isPrintable_hexLines _)
      line hline
  · rw [Reader.countText, Text.isPrintable_append, Text.isPrintable_append, Text.isPrintable_ofNat]
    decide
  · refine isPrintable_block (by decide) (isPrintable_items ?_)
    intro item hitem
    obtain ⟨e, _, rfl⟩ := List.mem_map.1 hitem
    exact Quoted.isPrintable_text _
  · exact isPrintable_block (by decide)
      (isPrintable_commentedItems es Entry.fileName fun e => e.record.contentType)
  · refine isPrintable_block (by decide) (isPrintable_items ?_)
    intro item hitem
    obtain ⟨e, he, rfl⟩ := List.mem_map.1 hitem
    exact isPrintable_of_isConstant (hconstant e he)
  · refine isPrintable_block (by decide) (isPrintable_items ?_)
    intro item hitem
    obtain ⟨e, _, rfl⟩ := List.mem_map.1 hitem
    exact Text.isPrintable_ofNat _

theorem isLine_definitionLines (hconstant : ∀ e ∈ es, IsConstant e.constant) :
    ∀ line ∈ definitionLines es, Text.isLine line = true := fun line hline =>
  Text.isLine_of_isPrintable (isPrintable_definitionLines hconstant line hline)

/-- The text of a bundle holds what was written into it. -/
theorem names?_write (hconstant : ∀ e ∈ es, IsConstant e.constant)
    (hnodup : (es.map Entry.constant).Nodup) : Reader.names? (write es) = some (bindings es) := by
  have hdefinitions : Reader.definitions? (write es) = some (unlines (definitionLines es)) := by
    rw [Reader.definitions?, write, Reader.behind?_append, definitions_eq]
    exact Reader.inFront?_append _ _
  have hlines : Sequence.splitOn lineFeed (unlines (definitionLines es)) =
      definitionLines es ++ [[]] :=
    Sequence.splitOn_unlines (by decide) fun line hline =>
      Sequence.not_infix_of_not_mem <|
        Text.not_mem_of_isLine (isLine_definitionLines hconstant line hline)
  rw [Reader.names?, hdefinitions]
  dsimp only
  rw [hlines, read_definitionLines hconstant hnodup]

theorem recordsOf_entries (es : List Entry) :
    Table.recordsOf (es.map fun e => .text e.record.url)
      (es.map fun e => .text e.record.contentType)
      (es.map fun e => .bytes e.record.payload) = .ok (es.map Entry.record) := by
  induction es with
  | nil => rfl
  | cons e es ih =>
    rw [List.map_cons, List.map_cons, List.map_cons, Table.recordsOf, Record.ofValues]
    dsimp only [Record.payloadOf]
    rw [Record.ofParts_eq e.record.parsed, ih]
    rfl

theorem ofArrays_entries (es : List Entry) :
    Table.ofArrays (es.map fun e => .text e.record.url) (es.map fun e => .text e.record.contentType)
      (es.map fun e => .bytes e.record.payload) (.list (es.map fun e => .int e.record.size)) =
        .ok (Table.ofRecords (es.map Entry.record)) := by
  have hsizes := Table.checkSizes_eq (es.map fun e => .bytes e.record.payload)
    (es.map fun e => (e.record.size : Int))
  simp only [List.map_map, Function.comp_def, Content.toValue, Content.length, Record.size,
    if_true] at hsizes
  rw [Table.ofArrays, if_neg (by simp)]
  simp only [Record.size, hsizes, recordsOf_entries]

/-- The table of a written bundle holds the assets, in order. -/
theorem table_write (hconstant : ∀ e ∈ es, IsConstant e.constant)
    (hnodup : (es.map Entry.constant).Nodup) :
    Reader.table (write es) = .ok (Table.ofRecords (es.map Entry.record)) := by
  rw [Reader.table, names?_write hconstant hnodup]
  exact ofArrays_entries es

/-- No line of a bundle holds a surrogate, so its text has a form in bytes. -/
theorem not_surrogate_write (hconstant : ∀ e ∈ es, IsConstant e.constant) :
    ∀ c ∈ write es, c.isSurrogate = false := by
  have hlines : ∀ c ∈ unlines (definitionLines es), c.isSurrogate = false := by
    intro c hc
    obtain ⟨line, hline, hc⟩ := List.mem_flatMap.1 hc
    rcases List.mem_append.1 hc with hc | hc
    · exact Text.not_surrogate_of_isLine (isLine_definitionLines hconstant line hline) c hc
    · rw [List.mem_singleton.1 hc]
      decide
  rw [write, definitions_eq]
  exact List.forall_mem_append.2 ⟨Text.not_surrogate_ofLines _,
    List.forall_mem_append.2 ⟨hlines, Text.not_surrogate_ofLines _⟩⟩

theorem decode_write (hconstant : ∀ e ∈ es, IsConstant e.constant) :
    Utf8.decodeOrFail ((write es).flatMap Utf8.encodePoint) = .ok (write es) := by
  rw [Utf8.decodeOrFail, Utf8.decode_encode (not_surrogate_write hconstant)]

/-- The table of a bundle file holds the assets that were written into it. -/
theorem ofFile_write (assets : List (Text × Record)) :
    Reader.ofFile ((write (entries assets)).flatMap Utf8.encodePoint) =
      .ok (Table.ofRecords (assets.map Prod.snd)) := by
  have hconstant : ∀ e ∈ entries assets, IsConstant e.constant := fun _ he => isConstant_of_mem he
  rw [Reader.ofFile, decode_write hconstant]
  dsimp only
  rw [table_write hconstant (nodup_constants assets), map_record_entries]

/-- The number that a bundle file gives is the number of its assets. -/
theorem lookup_count (assets : List (Text × Record)) :
    (Reader.names? (write (entries assets))).bind (fun names => names.lookup countName) =
      some (.int assets.length) := by
  have hlength : (entries assets).length = assets.length := by
    rw [← List.length_map (f := Entry.record), map_record_entries, List.length_map]
  rw [names?_write (fun _ he => isConstant_of_mem he) (nodup_constants assets), ← hlength]
  rfl

end Artifact
end AssetBundle
