import Mathlib.Data.Char
import Mathlib.Data.String.Basic
/-! # Text order is byte order

Texts compare character by character, by code point. UTF-8 keeps that order: a character with a
smaller code point has a smaller first byte when it takes fewer bytes, and otherwise the same
number of bytes whose fixed tags come first and whose payload bits are the code point written
from the top. So comparing two texts is comparing their UTF-8 bytes (`lt_iff_utf8Bytes_lt`), the
order in which names are kept and checks are run. -/

namespace Sidecar.Text

theorem toNat_lt_limit (c : Char) : c.toNat < 0x110000 := by
  have hvalid := c.valid
  simp only [UInt32.isValidChar, Nat.isValidChar] at hvalid
  have h : c.toNat = c.val.toNat := rfl
  omega

theorem ofNat_cons_lt {a b : Nat} {p q : List UInt8} (hb : b < 256)
    (h : a < b ∨ (a = b ∧ p < q)) : UInt8.ofNat a :: p < UInt8.ofNat b :: q := by
  rw [List.cons_lt_cons_iff]
  rcases h with h | ⟨rfl, h⟩
  · left
    rw [UInt8.lt_iff_toNat_lt, UInt8.toNat_ofNat', UInt8.toNat_ofNat']
    omega
  · exact .inr ⟨rfl, h⟩

/-- A character below another encodes to bytes below its bytes, whatever follows each. -/
theorem utf8EncodeChar_append_lt {c d : Char} (h : c < d) (x y : List UInt8) :
    String.utf8EncodeChar c ++ x < String.utf8EncodeChar d ++ y := by
  have hlt : c.toNat < d.toNat := UInt32.lt_iff_toNat_lt.1 (Char.lt_def.1 h)
  have hd := toNat_lt_limit d
  simp only [String.utf8EncodeChar, Char.toNat_val]
  -- one case per number of bytes of `c` and of `d`; `c` never takes more bytes than `d`
  split_ifs <;> simp only [List.cons_append, List.nil_append]
  · exact ofNat_cons_lt (by omega) (.inl (by omega))
  · exact ofNat_cons_lt (by omega) (.inl (by omega))
  · exact ofNat_cons_lt (by omega) (.inl (by omega))
  · exact ofNat_cons_lt (by omega) (.inl (by omega))
  · omega
  · rcases Nat.lt_or_ge (c.toNat / 64) (d.toNat / 64) with h1 | h1
    · exact ofNat_cons_lt (by omega) (.inl (by omega))
    exact ofNat_cons_lt (by omega) (.inr ⟨by omega, ofNat_cons_lt (by omega) (.inl (by omega))⟩)
  · exact ofNat_cons_lt (by omega) (.inl (by omega))
  · exact ofNat_cons_lt (by omega) (.inl (by omega))
  · omega
  · omega
  · rcases Nat.lt_or_ge (c.toNat / 4096) (d.toNat / 4096) with h1 | h1
    · exact ofNat_cons_lt (by omega) (.inl (by omega))
    refine ofNat_cons_lt (by omega) (.inr ⟨by omega, ?_⟩)
    rcases Nat.lt_or_ge (c.toNat / 64 % 64) (d.toNat / 64 % 64) with h2 | h2
    · exact ofNat_cons_lt (by omega) (.inl (by omega))
    exact ofNat_cons_lt (by omega) (.inr ⟨by omega, ofNat_cons_lt (by omega) (.inl (by omega))⟩)
  · exact ofNat_cons_lt (by omega) (.inl (by omega))
  · omega
  · omega
  · omega
  · rcases Nat.lt_or_ge (c.toNat / 262144) (d.toNat / 262144) with h1 | h1
    · exact ofNat_cons_lt (by omega) (.inl (by omega))
    refine ofNat_cons_lt (by omega) (.inr ⟨by omega, ?_⟩)
    rcases Nat.lt_or_ge (c.toNat / 4096 % 64) (d.toNat / 4096 % 64) with h2 | h2
    · exact ofNat_cons_lt (by omega) (.inl (by omega))
    refine ofNat_cons_lt (by omega) (.inr ⟨by omega, ?_⟩)
    rcases Nat.lt_or_ge (c.toNat / 64 % 64) (d.toNat / 64 % 64) with h3 | h3
    · exact ofNat_cons_lt (by omega) (.inl (by omega))
    exact ofNat_cons_lt (by omega) (.inr ⟨by omega, ofNat_cons_lt (by omega) (.inl (by omega))⟩)

theorem append_lt_append_left_iff (l a b : List UInt8) : l ++ a < l ++ b ↔ a < b := by
  induction l with
  | nil => rfl
  | cons x l ih => simp [ih]

/-- Lists of characters compare as their UTF-8 encodings do. -/
theorem flatMap_utf8EncodeChar_lt_iff (l₁ l₂ : List Char) :
    l₁.flatMap String.utf8EncodeChar < l₂.flatMap String.utf8EncodeChar ↔ l₁ < l₂ := by
  induction l₁ generalizing l₂ with
  | nil =>
    cases l₂ with
    | nil => simp
    | cons d r =>
      obtain ⟨b, bs, hb⟩ := List.exists_cons_of_ne_nil (@String.utf8EncodeChar_ne_nil d)
      simp [hb, List.nil_lt_cons]
  | cons c r ih =>
    cases l₂ with
    | nil => simp [List.not_lt_nil]
    | cons d r' =>
      rw [List.flatMap_cons, List.flatMap_cons, List.cons_lt_cons_iff]
      rcases lt_trichotomy c d with hcd | rfl | hdc
      · simp [hcd, utf8EncodeChar_append_lt hcd]
      · rw [append_lt_append_left_iff, ih]
        simp
      · have hbytes := utf8EncodeChar_append_lt hdc (r'.flatMap String.utf8EncodeChar)
          (r.flatMap String.utf8EncodeChar)
        simp [List.lt_asymm hbytes, not_lt_of_gt hdc, ne_of_gt hdc]

def utf8Bytes (s : String) : List UInt8 := s.toUTF8.data.toList

theorem utf8Bytes_eq (s : String) : utf8Bytes s = s.toList.flatMap String.utf8EncodeChar := by
  unfold utf8Bytes
  conv_lhs => rw [← @String.ofList_toList s]
  rw [String.toUTF8_eq_toByteArray, String.toByteArray_ofList, List.utf8Encode,
    List.data_toByteArray, List.toList_toArray]

/-- Texts compare as their UTF-8 bytes do. -/
theorem lt_iff_utf8Bytes_lt (a b : String) : a < b ↔ utf8Bytes a < utf8Bytes b := by
  rw [utf8Bytes_eq, utf8Bytes_eq, flatMap_utf8EncodeChar_lt_iff, String.lt_iff_toList_lt]

end Sidecar.Text
