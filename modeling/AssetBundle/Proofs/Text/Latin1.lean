import AssetBundle.Failure
import AssetBundle.Proofs.Text.Line
import Mathlib.Data.List.Basic
import Mathlib.Data.List.TakeWhile

/-!
# AssetBundle.Proofs.Text.Latin1

What can be written in Latin-1. A text up to U+00FF has a form in bytes (`encodeOrFail_eq_ok`), and
these bytes are read back as the text (`decode_bytes`). Numerals are such texts.
-/

namespace AssetBundle
namespace Latin1

/-- Whether a text can be encoded. -/
def encodes (t : Text) : Bool := t.all encodable

/-- The bytes of a text that can be encoded. -/
def bytes (t : Text) : Bytes := t.map fun c => UInt8.ofNat c.val

@[simp] theorem encodes_append (s t : Text) : encodes (s ++ t) = (encodes s && encodes t) :=
  List.all_append

@[simp] theorem decode_append (s t : Bytes) : decode (s ++ t) = decode s ++ decode t :=
  List.map_append

theorem bytes_append (s t : Text) : bytes (s ++ t) = bytes s ++ bytes t := List.map_append

theorem bytes_intercalate (sep line : Text) (lines : List Text) :
    bytes (List.intercalate sep (line :: lines)) =
      List.intercalate (bytes sep) ((line :: lines).map bytes) := by
  induction lines generalizing line with
  | nil => simp
  | cons next lines ih =>
    rw [List.intercalate_cons_cons, bytes_append, bytes_append, ih, List.map_cons, List.map_cons,
      List.map_cons, List.intercalate_cons_cons]

theorem encodeOrFail_eq_ok {t : Text} (h : encodes t = true) : encodeOrFail t = .ok (bytes t) := by
  have hall : t.dropWhile encodable = [] := List.dropWhile_eq_nil_iff.2 (List.all_eq_true.1 h)
  rw [encodeOrFail, encode, Unencodable.find?, hall]
  rfl

/-- A text that was encoded is up to U+00FF. -/
theorem of_encodeOrFail {t : Text} {s : Bytes} (h : encodeOrFail t = .ok s) :
    encodes t = true ∧ s = bytes t := by
  rw [encodeOrFail, encode, Unencodable.find?] at h
  cases hrest : t.dropWhile encodable with
  | cons c rest =>
    rw [hrest] at h
    cases h
  | nil =>
    rw [hrest] at h
    exact ⟨List.all_eq_true.2 (List.dropWhile_eq_nil_iff.1 hrest), (Except.ok.inj h).symm⟩

theorem encodes_decode (s : Bytes) : encodes (decode s) = true := by
  rw [encodes, decode, List.all_map, List.all_eq_true]
  exact fun b _ => decide_eq_true b.toNat_lt

theorem decode_bytes {t : Text} (h : encodes t = true) : decode (bytes t) = t := by
  have hsame : ∀ c ∈ t, (point ∘ fun c => UInt8.ofNat c.val) c = id c := by
    intro c hc
    have hlow : c.val < 256 := of_decide_eq_true (List.all_eq_true.1 h c hc)
    exact Fin.ext (UInt8.toNat_ofNat_of_lt' hlow)
  rw [decode, bytes, List.map_map, List.map_congr_left hsame, List.map_id]

theorem encodable_of_isDecimal {c : CodePoint} (h : c.isDecimal = true) : encodable c = true := by
  simp only [CodePoint.isDecimal, Bool.and_eq_true, decide_eq_true_eq] at h
  simp only [encodable, decide_eq_true_eq]
  omega

theorem encodes_ofNat (n : Nat) : encodes (Text.ofNat n) = true :=
  List.all_eq_true.2 fun _ hc => encodable_of_isDecimal (Text.isDecimal_of_mem_ofNat hc)

theorem encodes_ofInt (n : Int) : encodes (Text.ofInt n) = true := by
  cases n with
  | ofNat n => exact encodes_ofNat n
  | negSucc n =>
    rw [Text.ofInt, encodes, List.all_cons, Bool.and_eq_true]
    exact ⟨rfl, encodes_ofNat (n + 1)⟩

end Latin1
end AssetBundle
