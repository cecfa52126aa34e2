import AssetBundle.Proofs.Http.Decision
import AssetBundle.Proofs.Text.Case
import Mathlib.Data.List.Basic

/-!
# AssetBundle.Proofs.Http.RequestReading

Reading undoes writing. A raw request that is written out of its parts is read as them, whatever
follows it (`parse_written`): the method and the path as they are, and the headers in their order,
their names in lower case and neither names nor values with blanks around them. Every other buffer
fails exactly if no head ends in it or its first line has fewer than two spaces. What follows a head
makes no difference, since a head stays where it is when more comes (`HasHead.append`).
-/

namespace AssetBundle

open Sequence (IsCut cutAt?_eq_some_iff)

namespace Request

variable {buffer line headers : Bytes}

theorem HasHead.append (h : HasHead buffer line headers) (more : Bytes) :
    HasHead (buffer ++ more) line headers := by
  cases h with
  | lineAlone hhead hline => exact .lineAlone (hhead.append more) hline
  | withBlock hhead hline => exact .withBlock (hhead.append more) hline

theorem Asks.append {request : Request} (h : Asks buffer request) (more : Bytes) :
    Asks (buffer ++ more) request := by
  cases h with
  | mk hhead hline hmethod hpath => exact .mk (hhead.append more) hline hmethod hpath

/-- The request line of a head ends where the first line of the buffer does. -/
theorem HasHead.isCut (h : HasHead buffer line headers) :
    ∃ rest, IsCut lineEnd buffer line rest := by
  cases h with
  | @lineAlone _ rest hhead hline =>
    refine ⟨lineEnd ++ rest, ?_⟩
    rw [hhead.whole]
    exact Sequence.isCut_of_unbroken (by decide) hline (lineEnd ++ rest)
  | @withBlock _ rest _ _ hhead hline =>
    rw [hhead.whole]
    exact ⟨_, hline.append (headEnd ++ rest)⟩

/-- A buffer is malformed exactly if no head ends in it or its first line is too short. -/
theorem isMalformed_iff_firstLine : IsMalformed buffer ↔
    ¬ headEnd <:+: buffer ∨ ∃ line rest, IsCut lineEnd buffer line rest ∧ line.count 0x20 < 2 := by
  have hend : lineEnd ≠ [] := by decide
  constructor
  · rintro (hnone | ⟨line, headers, hhead, hcount⟩)
    · exact .inl hnone
    · obtain ⟨rest, hcut⟩ := hhead.isCut
      exact .inr ⟨line, rest, hcut, hcount⟩
  · rintro (hnone | ⟨line, rest, hcut, hcount⟩)
    · exact .inl hnone
    · cases hparts : headOf? buffer with
      | none => exact .inl (headOf?_eq_none_iff.1 hparts)
      | some parts =>
        have hhead := headOf?_eq_some_iff.1 hparts
        obtain ⟨_, hother⟩ := hhead.isCut
        -- Both lines end at the first line end of the buffer.
        have hsame := ((cutAt?_eq_some_iff hend).2 hcut).symm.trans
          ((cutAt?_eq_some_iff hend).2 hother)
        cases hsame
        exact .inr ⟨_, _, hhead, hcount⟩

theorem kind_of_parse {e : Failure} (h : parse buffer = .error e) :
    e.kind = "MalformedRequest" := by
  rw [parse_eq] at h
  split at h
  · cases h
    rfl
  · split at h
    · cases h
      rfl
    · split at h <;> cases h
      rfl

end Request

/-- The parts that a raw request is written out of. -/
structure RawRequest where
  method : Bytes
  path : Bytes
  version : Bytes
  headers : List (Bytes × Bytes)

namespace RawRequest

open Request (IsLine lineEnd headEnd readField readName readLine?)

/-- A header as a line, without its end. -/
def lineOf (f : Bytes × Bytes) : Bytes := f.1 ++ 0x3A :: 0x20 :: f.2

def requestLine (r : RawRequest) : Bytes := r.method ++ 0x20 :: (r.path ++ 0x20 :: r.version)

def lines (r : RawRequest) : List Bytes := r.headers.map lineOf

def written (r : RawRequest) (body : Bytes) : Bytes :=
  r.requestLine ++ (lineEnd ++ (r.lines.flatMap (fun line => line ++ lineEnd) ++ (lineEnd ++ body)))

/-- Whether no part ends early: a method and a path at a space, a header name at a colon, and any
part at a line end. -/
structure IsWritable (r : RawRequest) : Prop where
  method : 0x20 ∉ r.method ∧ 13 ∉ r.method
  path : 0x20 ∉ r.path ∧ 13 ∉ r.path
  version : 13 ∉ r.version
  headers : ∀ f ∈ r.headers, 0x3A ∉ f.1 ∧ 13 ∉ f.1 ∧ 13 ∉ f.2

variable {r : RawRequest}

theorem isLine_of_mem (h : r.IsWritable) {line : Bytes} (hline : line ∈ r.lines) :
    IsLine line := by
  obtain ⟨f, hf, rfl⟩ := List.mem_map.1 hline
  obtain ⟨_, hname, hvalue⟩ := h.headers f hf
  exact .of_not_mem (by simp [lineOf]) (by simp [lineOf, hname, hvalue])

def request (r : RawRequest) : Request :=
  ⟨Latin1.decode r.method, Latin1.decode r.path, List.intercalate lineEnd r.lines⟩

theorem parse_eq_request (h : r.IsWritable) (body : Bytes) :
    Request.parse (r.written body) = .ok r.request := by
  rw [written, Request.unlines_eq, requestLine]
  exact Request.parse_lines h.method h.path h.version (fun _ => isLine_of_mem h) body

/-- A header as it is read: the name in lower case, and no blanks around name and value. -/
def readPair (f : Bytes × Bytes) : Text × Text :=
  (Text.lower (Latin1.decode (Bytes.trim f.1)), Latin1.decode (Bytes.trim f.2))

theorem readLine?_lineOf {f : Bytes × Bytes} (hname : 0x3A ∉ f.1) :
    readLine? (lineOf f) = some (readPair f) := by
  have hblank : ∀ b ∈ [(0x20 : UInt8)], Bytes.isBlank b = true := List.forall_mem_singleton.2 rfl
  have htrim : Bytes.trim (0x20 :: f.2) = Bytes.trim f.2 := Sequence.trim_append_front hblank f.2
  refine Request.readLine?_eq_some_iff.2 ⟨f.1, 0x20 :: f.2, rfl, hname, ?_⟩
  rw [readName, readField, readField, htrim, ← Text.lower_eq (Latin1.encodes_decode _), readPair]

theorem fields_request (h : r.IsWritable) : r.request.fields = r.headers.map readPair := by
  rw [Request.fields, request,
    Request.filterMap_readLine?_intercalate fun _ hline => (isLine_of_mem h hline).unbroken, lines,
    List.filterMap_map, ← List.filterMap_eq_map]
  exact List.filterMap_congr fun f hf => readLine?_lineOf (h.headers f hf).1

/-- A name in ASCII is met by the texts that agree with it but for the case of ASCII letters. -/
theorem lower_eq_lower_iff {name : Text} (hname : ∀ c ∈ name, c.val < 128) (s : Bytes) :
    Text.lower (Latin1.decode s) = Text.lower name ↔
      Text.lowerAscii (Latin1.decode s) = Text.lowerAscii name := by
  have hencodes : Latin1.encodes name = true :=
    List.all_eq_true.2 fun c hc => decide_eq_true (Nat.lt_trans (hname c hc) (by decide))
  have hlower : Text.lower name = Text.lowerAscii name := by
    rw [Text.lower_eq hencodes]
    exact List.map_congr_left fun c hc => CaseMapping.lowerPoint_of_ascii (hname c hc)
  have hword : ((Text.lowerAscii name).all fun d => d.val < 128) = true := by
    rw [Text.lowerAscii, List.all_map, List.all_eq_true]
    exact fun c hc => decide_eq_true (CodePoint.lowerAscii_lt_iff.2 (hname c hc))
  rw [hlower, Text.lower_eq_iff hword (Latin1.encodes_decode s), Text.isWord, decide_eq_true_eq]

theorem lookup_readPair {name : Text} (hname : ∀ c ∈ name, c.val < 128)
    (headers : List (Bytes × Bytes)) :
    (headers.map readPair).lookup (Text.lower name) =
      (headers.find? fun f =>
        Text.lowerAscii (Latin1.decode (Bytes.trim f.1)) = Text.lowerAscii name).map fun f =>
          Latin1.decode (Bytes.trim f.2) := by
  induction headers with
  | nil => rfl
  | cons f headers ih =>
    rw [List.map_cons, readPair, List.lookup_cons, List.find?_cons]
    by_cases hown : Text.lowerAscii (Latin1.decode (Bytes.trim f.1)) = Text.lowerAscii name
    · have hkey : Text.lower name == Text.lower (Latin1.decode (Bytes.trim f.1)) :=
        beq_iff_eq.2 ((lower_eq_lower_iff hname _).2 hown).symm
      rw [hkey, decide_eq_true hown]
      rfl
    · have hkey : (Text.lower name == Text.lower (Latin1.decode (Bytes.trim f.1))) = false :=
        beq_eq_false_iff_ne.2 fun h => hown ((lower_eq_lower_iff hname _).1 h.symm)
      rw [hkey, decide_eq_false hown]
      exact ih

/-- A raw request that is written out is read as its parts, whatever follows it. Reading a buffer
fails exactly if no head ends in it or its first line has fewer than two spaces, and a request that
is read off a buffer is read off it with anything behind it. -/
theorem parse_written (h : r.IsWritable) (body : Bytes) :
    (∃ request, Request.parse (r.written body) = .ok request ∧
      request.method = Latin1.decode r.method ∧
      request.fullPath = Latin1.decode r.path ∧
      request.path = (Latin1.decode r.path).takeWhile (· ≠ 0x3F) ∧
      request.fields = r.headers.map readPair ∧
      ∀ name : Text, (∀ c ∈ name, c.val < 128) →
        request.field? name = (r.headers.find? fun f =>
          Text.lowerAscii (Latin1.decode (Bytes.trim f.1)) = Text.lowerAscii name).map fun f =>
            Latin1.decode (Bytes.trim f.2)) ∧
    ∀ buffer,
      ((∃ e, Request.parse buffer = .error e) ↔ ¬ headEnd <:+: buffer ∨
        ∃ line rest, IsCut lineEnd buffer line rest ∧ line.count 0x20 < 2) ∧
      (∀ e, Request.parse buffer = .error e → e.kind = "MalformedRequest") ∧
      ∀ request more, Request.parse buffer = .ok request →
        Request.parse (buffer ++ more) = .ok request := by
  refine ⟨⟨r.request, parse_eq_request h body, rfl, rfl, Request.path_eq _, fields_request h,
    fun name hname => ?_⟩, fun buffer => ⟨?_, fun _ => Request.kind_of_parse, ?_⟩⟩
  · rw [Request.field?, fields_request h]
    exact lookup_readPair hname r.headers
  · rw [Request.parse_fails_iff, Request.isMalformed_iff_firstLine]
  · intro request more hparse
    exact Request.parse_eq_ok_iff.2 ((Request.parse_eq_ok_iff.1 hparse).append more)

/-- A header that is given twice, with blanks around its name, and a body that ends lines. -/
theorem parse_written_repeated :
    let r : RawRequest := ⟨Latin1.bytes "GET", Latin1.bytes "/a?q", Latin1.bytes "HTTP/1.1",
      [(Latin1.bytes " HOST ", Latin1.bytes "a "), (Latin1.bytes "Host", Latin1.bytes "b")]⟩
    r.IsWritable ∧ ∃ request, Request.parse (r.written headEnd) = .ok request ∧
      request.method = ("GET" : Text) ∧ request.path = ("/a" : Text) ∧
      request.fields = [(("host" : Text), ("a" : Text)), (("host" : Text), ("b" : Text))] ∧
      request.field? "hOsT" = some ("a" : Text) := by
  intro r
  have hwritable : r.IsWritable := ⟨by decide, by decide, by decide, by decide⟩
  obtain ⟨⟨request, hparse, hmethod, _, hpath, hfields, hfield⟩, _⟩ :=
    parse_written hwritable headEnd
  have hascii : ("hOsT" : Text).all (fun c => c.val < 128) = true := rfl
  refine ⟨hwritable, request, hparse, hmethod, hpath, hfields, ?_⟩
  exact hfield "hOsT" fun c hc => of_decide_eq_true (List.all_eq_true.1 hascii c hc)

end RawRequest
end AssetBundle
