import Mathlib.Tactic.SplitIfs

/-!
# The order of texts

Texts are ordered by their code points.  The UTF-8 encoding keeps this order: of two
characters the greater one has the greater bytes, whatever follows them, and so
the order of texts is the one of their bytes.
-/

namespace FacetFilter

namespace Text

/-- The UTF-8 encoding of a text. -/
def bytes (text : String) : List UInt8 := text.toUTF8.data.toList

theorem bytes_eq (text : String) : bytes text = text.toList.flatMap String.utf8EncodeChar := by
  rw [bytes, String.toUTF8_eq_toByteArray, ← String.utf8Encode_toList, List.utf8Encode,
    List.data_toByteArray]

theorem ofNat_cons_lt_iff {first second : Nat} (hfirst : first < 256) (hsecond : second < 256)
    (firsts seconds : List UInt8) :
    UInt8.ofNat first :: firsts < UInt8.ofNat second :: seconds ↔
      first < second ∨ first = second ∧ firsts < seconds := by
  rw [List.cons_lt_cons_iff, UInt8.lt_iff_toNat_lt, ← UInt8.toNat_inj,
    UInt8.toNat_ofNat_of_lt' hfirst, UInt8.toNat_ofNat_of_lt' hsecond]

/-- A greater character has greater bytes, whatever follows. -/
theorem utf8EncodeChar_append_lt {first second : Char} (hlt : first < second)
    (firsts seconds : List UInt8) :
    String.utf8EncodeChar first ++ firsts < String.utf8EncodeChar second ++ seconds := by
  have hcode : first.val.toNat < second.val.toNat := hlt
  have hbound : second.val.toNat < 0x110000 := by
    have hvalid := second.valid
    rw [UInt32.isValidChar, Nat.isValidChar] at hvalid
    omega
  -- The bytes carry the digits of the code to the base 64.
  have hdigits : ∀ code, code / 4096 = code / 64 / 64 ∧
      code / 262144 = code / 64 / 64 / 64 := by omega
  rw [String.utf8EncodeChar, String.utf8EncodeChar]
  generalize first.val.toNat = low at hcode
  generalize second.val.toNat = high at hcode hbound
  simp only [(hdigits _).1, (hdigits _).2]
  split_ifs <;> simp (disch := omega) only [List.cons_append, ofNat_cons_lt_iff] <;> omega

theorem flatMap_utf8EncodeChar_lt {first second : List Char} (hlt : first < second) :
    first.flatMap String.utf8EncodeChar < second.flatMap String.utf8EncodeChar := by
  induction hlt with
  | @nil head tail =>
      obtain ⟨byte, bytes, hbytes⟩ :=
        List.exists_cons_of_ne_nil (@String.utf8EncodeChar_ne_nil head)
      rw [List.flatMap_nil, List.flatMap_cons, hbytes]
      exact List.nil_lt_cons _ _
  | rel hhead => exact utf8EncodeChar_append_lt hhead _ _
  | cons htail ih => exact List.append_left_lt ih

/-- Texts are in the order of their bytes. -/
theorem bytes_lt_bytes {left right : String} (hcompare : compare left right = .lt) :
    bytes left < bytes right := by
  have hlt : left < right := compareOfLessAndEq_eq_lt.mp hcompare
  rw [bytes_eq, bytes_eq]
  exact flatMap_utf8EncodeChar_lt hlt

end Text

end FacetFilter
