import Mathlib.Data.String.Basic

/-!
# The order of texts is that of their bytes

Texts are compared character by character, and characters by code point. The
UTF-8 form of a character starts with a byte that tells its length, in an order
that follows the lengths, and goes on with its digits from the highest one. So
a smaller character has smaller bytes whatever follows it, and texts are in the
same order as their bytes.
-/

namespace SchemaCodegen.Text

def bytes (s : String) : List UInt8 := s.toUTF8.data.toList

theorem bytes_eq (s : String) : bytes s = s.toList.flatMap String.utf8EncodeChar := by
  rw [bytes, String.toUTF8_eq_toByteArray, ← String.utf8Encode_toList]
  exact congrArg Array.toList List.data_toByteArray

theorem code_lt (c : Char) : c.val.toNat < 0x110000 := by
  have hvalid := c.valid
  simp only [UInt32.isValidChar, Nat.isValidChar] at hvalid
  omega

/-- A smaller character has smaller bytes, whatever follows either character. -/
theorem utf8EncodeChar_append_lt {c d : Char} (h : c < d) (xs ys : List UInt8) :
    String.utf8EncodeChar c ++ xs < String.utf8EncodeChar d ++ ys := by
  have hcode : c.val.toNat < d.val.toNat := h
  have hlast := code_lt d
  simp only [String.utf8EncodeChar]
  generalize c.val.toNat = m at hcode
  generalize d.val.toNat = n at hcode hlast
  -- what is left compares the digits of two numbers below the last code point
  split_ifs <;>
    simp (disch := omega) only [List.cons_append, List.nil_append, List.cons_lt_cons_iff,
      UInt8.lt_iff_toNat_lt, ← UInt8.toNat_inj, UInt8.toNat_ofNat', Nat.mod_eq_of_lt] <;>
    omega

theorem flatMap_utf8EncodeChar_lt {cs ds : List Char} (h : cs < ds) :
    cs.flatMap String.utf8EncodeChar < ds.flatMap String.utf8EncodeChar := by
  induction cs generalizing ds with
  | nil =>
      cases ds with
      | nil => exact absurd h (List.lt_irrefl _)
      | cons d ds =>
          have hsome : String.utf8EncodeChar d ≠ [] := String.utf8EncodeChar_ne_nil
          obtain ⟨byte, rest, hbytes⟩ := List.exists_cons_of_ne_nil hsome
          rw [List.flatMap_nil, List.flatMap_cons, hbytes]
          exact List.nil_lt_cons _ _
  | cons c cs ih =>
      cases ds with
      | nil => exact absurd h (List.not_lt_nil _)
      | cons d ds =>
          simp only [List.flatMap_cons]
          rcases List.cons_lt_cons_iff.mp h with hlt | ⟨rfl, hrest⟩
          · exact utf8EncodeChar_append_lt hlt _ _
          · exact List.append_left_lt (ih hrest)

/-- **Texts are in the order of their bytes.** -/
theorem lt_iff_bytes_lt {s t : String} : s < t ↔ bytes s < bytes t := by
  constructor
  · intro h
    rw [bytes_eq, bytes_eq]
    exact flatMap_utf8EncodeChar_lt (String.lt_iff_toList_lt.mp h)
  · intro h
    rw [bytes_eq, bytes_eq] at h
    rcases lt_trichotomy s t with hlt | rfl | hgt
    · exact hlt
    · exact absurd h (List.lt_irrefl _)
    · have hback := flatMap_utf8EncodeChar_lt (String.lt_iff_toList_lt.mp hgt)
      exact absurd h (List.lt_asymm hback)

end SchemaCodegen.Text
