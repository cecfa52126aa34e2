import AssetBundle.Proofs.Asset.Headers
import AssetBundle.Proofs.Bundle.Building
import AssetBundle.Proofs.Gzip.Container

/-!
# AssetBundle.Proofs.Bundle.Faithful

The asset of a file holds the file (`record_faithful`): its payload is a container that expands to
the contents, its validator is the digest of the contents, and its header lines say that it is
compressed. An admitted file that can be read has an asset, whatever it holds.
-/

namespace AssetBundle

namespace Validator

/-- A capital hexadecimal digit. -/
def isDigit (c : CodePoint) : Bool := (48 ≤ c.val && c.val ≤ 57) || (65 ≤ c.val && c.val ≤ 70)

theorem isDigit_hexDigit (n : Nat) : isDigit (hexDigit n) = true := by
  have hdigits : ∀ k : Fin 16, isDigit (hexDigit k.val) = true := by decide
  have hmod : hexDigit n = hexDigit (n % 16) := by
    rw [hexDigit, hexDigit, Nat.mod_mod]
  rw [hmod]
  exact hdigits ⟨n % 16, Nat.mod_lt _ (by decide)⟩

theorem isDigit_of_mem {s : Bytes} {c : CodePoint} (h : c ∈ ofBytes s) : isDigit c = true := by
  obtain ⟨b, _, hc⟩ := List.mem_flatMap.1 h
  rw [hexByte] at hc
  simp only [List.mem_cons, List.not_mem_nil, or_false] at hc
  rcases hc with rfl | rfl <;> exact isDigit_hexDigit _

theorem encodes_ofBytes (s : Bytes) : Latin1.encodes (ofBytes s) = true := by
  rw [Latin1.encodes, List.all_eq_true]
  intro c hc
  have hdigit := isDigit_of_mem hc
  simp only [isDigit, Bool.or_eq_true, Bool.and_eq_true, decide_eq_true_eq] at hdigit
  exact decide_eq_true (by omega)

theorem length_bigEndian : ∀ width n : Nat, (Sha1.bigEndian width n).length = width := by
  intro width
  induction width with
  | zero => intro n; rfl
  | succ width ih => intro n; rw [Sha1.bigEndian, List.length_append, ih]; rfl

theorem length_digest (s : Bytes) : (Sha1.digest s).length = 20 := by
  rw [Sha1.digest]
  simp [List.flatMap_cons, length_bigEndian]

theorem length_ofBytes (s : Bytes) : (ofBytes s).length = Record.validatorLength := by
  have hlength : ∀ digest : Bytes, (digest.flatMap hexByte).length = 2 * digest.length := by
    intro digest
    induction digest with
    | nil => rfl
    | cons b digest ih =>
      rw [List.flatMap_cons, List.length_append, ih, List.length_cons, hexByte]
      simp
      omega
  rw [ofBytes, hlength, length_digest]
  rfl

end Validator

/-- A path is made of a text in front of the name only. -/
theorem BuildOptions.urlOf_eq_ok {pathStart : Value} {name url : Text}
    (h : urlOf pathStart name = .ok url) :
    ∃ start, pathStart = .text start ∧ url = start ++ name := by
  cases pathStart with
  | text start =>
    cases h
    exact ⟨start, rfl, rfl⟩
  | _ => cases h

namespace Bundle

/-- Whether a record is a faithful asset of some contents. -/
structure IsFaithful (contents : Bytes) (r : Record) : Prop where
  expands : Gzip.decompress r.payload = .ok contents
  /-- A header with no name and no time, a stream, and the checksum and length of the contents. -/
  container : ∃ (effort : UInt8) (stream : Bytes),
    r.payload = [0x1F, 0x8B, 8, 0, 0, 0, 0, 0, effort, 3] ++ (stream ++
      (Gzip.Stored.littleEndian 4 (Crc32.checksum contents).toNat ++
        Gzip.Stored.littleEndian 4 (contents.length % 0x100000000)))
  validator : r.validator? = some (Validator.ofBytes contents)
  length : (Validator.ofBytes contents).length = 40
  digits : ∀ c ∈ Validator.ofBytes contents, Validator.isDigit c = true
  compressed : r.isCompressed = true
  size : r.size = r.payload.length

variable {files : Tree} {directory name contentType : Text} {contents : Bytes} {o : BuildOptions}
  {r : Record}

theorem not_return_mem_validator : CodePoint.ofChar '\r' ∉ Validator.ofBytes contents :=
  fun h => absurd (Validator.isDigit_of_mem h) (by decide)

theorem not_quote_mem_validator : CodePoint.ofChar '"' ∉ Validator.ofBytes contents :=
  fun h => absurd (Validator.isDigit_of_mem h) (by decide)

/-- What the asset of some contents is made of. -/
theorem assetOf_ok (hname : ContentType.ofName? name = some contentType)
    (h : assetOf contentType name contents o = .ok r) :
    ∃ level start, r.payload = Gzip.pack level contents ∧
      Headers.revalidating contentType (Validator.ofBytes contents) true o.maxAge =
        .ok r.headers ∧
      o.pathStart = .text start ∧ r.url = start ++ name := by
  rw [assetOf, Gzip.compress] at h
  dsimp only [Value.toBytes?] at h
  split at h
  · cases h
  next payload hpayload =>
    split at hpayload
    · cases hpayload
    next level hlevel =>
      cases hpayload
      split at h
      · cases h
      next hs hheaders =>
        split at h
        · cases h
        next url hurl =>
          have hparse := Headers.parse_print_revalidating (Headers.isPlain_contentType hname)
            not_return_mem_validator hheaders
          rw [Record.ofParts_eq hparse] at h
          cases h
          obtain ⟨start, hstart, rfl⟩ := BuildOptions.urlOf_eq_ok hurl
          exact ⟨level, start, rfl, hheaders, hstart, rfl⟩

theorem assetOf_faithful (hname : ContentType.ofName? name = some contentType)
    (h : assetOf contentType name contents o = .ok r) : IsFaithful contents r := by
  obtain ⟨level, _, hpayload, hheaders, _⟩ := assetOf_ok hname h
  obtain ⟨caching, hcaching, hlines⟩ := Headers.revalidating_eq_ok hheaders
  refine
    { expands := by rw [hpayload, Gzip.decompress_pack]
      container := ⟨level.effort, _, hpayload⟩
      validator := Record.validator?_of_headers hlines (Validator.length_ofBytes contents)
        not_quote_mem_validator
      length := Validator.length_ofBytes contents
      digits := fun c hc => Validator.isDigit_of_mem hc
      compressed := Record.isCompressed_of_headers hlines fun line hline => ?_
      size := rfl }
  obtain ⟨age, _, hage⟩ := hcaching line hline
  exact ⟨age, hage⟩

theorem compress_of_level {level : Int} (hrange : -1 ≤ level ∧ level ≤ 9) :
    Gzip.compress (.bytes contents) (.int level) = .ok (Gzip.pack ⟨level, hrange⟩ contents) := by
  have hlevel : Gzip.Level.ofValue (.int level) contents.length = .ok ⟨level, hrange⟩ := by
    rw [Gzip.Level.ofValue]
    dsimp only
    rw [if_neg (by omega), dif_pos hrange]
  rw [Gzip.compress]
  dsimp only [Value.toBytes?]
  rw [hlevel]

/-- An asset has header lines, unless its maximum age has too many digits to be written. -/
theorem exists_revalidating {age : Value} (validator : Text)
    (hage : age = .none ∨ ∃ n : Nat, age = .int n ∧ Integer.isTooLong n = false) :
    ∃ hs, Headers.revalidating contentType validator true age = .ok hs := by
  rcases hage with rfl | ⟨n, rfl, hshort⟩
  · exact ⟨_, Headers.revalidating_ageValue contentType validator true none (by simp)⟩
  · exact ⟨_, Headers.revalidating_ageValue contentType validator true (some n)
      (by simpa using hshort)⟩

/-- A file that was read has an asset at every level there is, unless its maximum age has too many
digits to be written. -/
theorem exists_record {start : Text} {level : Int}
    (hname : (ContentType.ofName? name).isSome = true)
    (hread : contentsOf files (Path.join directory name) = .ok (.ok contents))
    (hstart : o.pathStart = .text start) (hlevel : o.level = .int level)
    (hrange : -1 ≤ level ∧ level ≤ 9)
    (hage : o.maxAge = .none ∨ ∃ n : Nat, o.maxAge = .int n ∧ Integer.isTooLong n = false) :
    ∃ r, (record files directory name o).1 = .ok (some r) := by
  obtain ⟨contentType, hname⟩ := Option.isSome_iff_exists.1 hname
  obtain ⟨hs, hheaders⟩ := exists_revalidating (Validator.ofBytes contents) hage
  have hparse := Headers.parse_print_revalidating (Headers.isPlain_contentType hname)
    not_return_mem_validator hheaders
  have hasset : ∃ r, assetOf contentType name contents o = .ok r := by
    rw [assetOf, hlevel, compress_of_level hrange]
    dsimp only
    rw [hheaders, hstart]
    exact ⟨_, Record.ofParts_eq hparse (start ++ name) _⟩
  obtain ⟨r, hasset⟩ := hasset
  refine ⟨r, ?_⟩
  rw [record, hname]
  dsimp only
  rw [hread]
  dsimp only
  rw [hasset]

end Bundle
end AssetBundle
