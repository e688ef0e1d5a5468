import Mathlib.Data.List.Basic
import PatchReview.Proofs.OrderedFields

/-!
# The order of texts by their bytes

Texts are compared character by character.  The bytes of their UTF-8 form compare in the same
way: of two characters the greater one has the greater bytes, and none of them begins with
another.

Main definitions:

- `Text.bytesOf`: the bytes of a text.

Main results:

- Theorem `Text.utf8EncodeChar_append_lt`: the greater character decides, whatever follows.
- Theorem `Text.bytesOf_lt_iff`: texts are in the order of their bytes.
-/

namespace PatchReview.Text

/-- The bytes of a text. -/
def bytesOf (s : String) : List UInt8 :=
  s.toByteArray.data.toList

/-- The bytes of a text are those of its characters. -/
theorem bytesOf_eq_flatMap (s : String) : bytesOf s = s.toList.flatMap String.utf8EncodeChar := by
  have hbytes : s.toByteArray = s.toList.utf8Encode := by
    rw [← String.toByteArray_ofList, String.ofList_toList]
  rw [bytesOf, hbytes, List.utf8Encode, List.toList_data_toByteArray]

/-- The number of a character has at most 21 bits. -/
theorem toNat_val_lt (c : Char) : c.val.toNat < 0x110000 := by
  rcases c.valid with h | h <;> omega

/-- A greater character has greater bytes, whatever follows. -/
theorem utf8EncodeChar_append_lt {a b : Char} (h : a < b) (s t : List UInt8) :
    String.utf8EncodeChar a ++ s < String.utf8EncodeChar b ++ t := by
  have hval : a.val.toNat < b.val.toNat := h
  have hbound : b.val.toNat < 0x110000 := toNat_val_lt b
  -- The bytes hold the digits of the number to the base 64.
  have hsecond : ∀ n, n / 4096 = n / 64 / 64 := fun n => (Nat.div_div_eq_div_mul n 64 64).symm
  have hthird : ∀ n, n / 262144 = n / 64 / 64 / 64 := by
    intro n
    rw [Nat.div_div_eq_div_mul, Nat.div_div_eq_div_mul]
  unfold String.utf8EncodeChar
  dsimp only
  generalize a.val.toNat = n at *
  generalize b.val.toNat = m at *
  -- The number of bytes of either character; the first byte tells them apart.
  split_ifs <;>
    simp only [List.cons_append, List.nil_append, List.cons_lt_cons_iff, UInt8.lt_iff_toNat_lt,
      ← UInt8.toNat_inj, UInt8.toNat_ofNat', hsecond, hthird] <;>
    omega

/-- A greater text has greater bytes. -/
theorem flatMap_utf8EncodeChar_lt {s t : List Char} (h : s < t) :
    s.flatMap String.utf8EncodeChar < t.flatMap String.utf8EncodeChar := by
  induction s generalizing t with
  | nil =>
      cases t with
      | nil => exact absurd h (List.lt_irrefl [])
      | cons c rest =>
          have hne : String.utf8EncodeChar c ≠ [] := by
            unfold String.utf8EncodeChar
            dsimp only
            split_ifs <;> simp
          obtain ⟨byte, bytes, hbytes⟩ := List.exists_cons_of_ne_nil hne
          simp [hbytes]
  | cons a s ih =>
      cases t with
      | nil => simp at h
      | cons b t =>
          rw [List.flatMap_cons, List.flatMap_cons]
          rcases List.cons_lt_cons_iff.1 h with hlt | ⟨rfl, hrest⟩
          · exact utf8EncodeChar_append_lt hlt _ _
          · exact List.append_left_lt (ih hrest)

/-- Texts are in the order of their bytes. -/
theorem bytesOf_lt_iff {s t : String} : bytesOf s < bytesOf t ↔ s < t := by
  have hforward : ∀ {s t : String}, s < t → bytesOf s < bytesOf t := by
    intro s t h
    rw [bytesOf_eq_flatMap, bytesOf_eq_flatMap]
    exact flatMap_utf8EncodeChar_lt h
  refine ⟨fun h => ?_, hforward⟩
  by_contra hnot
  by_cases heq : s = t
  · rw [heq] at h
    exact List.lt_irrefl _ h
  · exact List.lt_asymm h (hforward (Fields.lt_of_not_lt heq hnot))

end PatchReview.Text
