/-
  Base64, and the UTF-8 bytes of texts.
-/
import Mathlib.Data.List.Basic
import Mathlib.Tactic.Common

namespace Lib

/-- The UTF-8 bytes of a text. -/
def utf8 (text : String) : List UInt8 := text.toList.flatMap String.utf8EncodeChar

theorem length_le_utf8 (text : String) : text.toList.length ≤ (utf8 text).length := by
  rw [utf8]
  induction text.toList with
  | nil => exact Nat.le_refl _
  | cons c text ih =>
    rw [List.flatMap_cons, List.length_append, String.length_utf8EncodeChar, List.length_cons]
    have := c.utf8Size_pos
    omega

namespace Base64

/-- The character of a number below 64. -/
def letter (k : ℕ) : Char :=
  if k < 26 then Char.ofNat (65 + k)
  else if k < 52 then Char.ofNat (71 + k)
  else if k < 62 then Char.ofNat (k - 4)
  else if k = 62 then '+'
  else '/'

/-- The number of a character; other characters than those of the alphabets are passed over. -/
def value (c : Char) : Option ℕ :=
  if 'A' ≤ c ∧ c ≤ 'Z' then some (c.toNat - 65)
  else if 'a' ≤ c ∧ c ≤ 'z' then some (c.toNat - 71)
  else if '0' ≤ c ∧ c ≤ '9' then some (c.toNat + 4)
  else if c = '+' ∨ c = '-' then some 62
  else if c = '/' ∨ c = '_' then some 63
  else none

def letters : List UInt8 → List Char
  | [] => []
  | [a] => [letter (a.toNat / 4), letter (a.toNat % 4 * 16), '=', '=']
  | [a, b] => [letter (a.toNat / 4), letter (a.toNat % 4 * 16 + b.toNat / 16),
      letter (b.toNat % 16 * 4), '=']
  | a :: b :: c :: bytes =>
    letter (a.toNat / 4) :: letter (a.toNat % 4 * 16 + b.toNat / 16) ::
      letter (b.toNat % 16 * 4 + c.toNat / 64) :: letter (c.toNat % 64) :: letters bytes

/-- `toString('base64')`. -/
def encode (bytes : List UInt8) : String := String.ofList (letters bytes)

/-- The bytes of numbers below 64, four of them for three bytes. -/
def bytes : List ℕ → List UInt8
  | k :: l :: m :: n :: rest =>
    UInt8.ofNat (k * 4 + l / 16) :: UInt8.ofNat (l % 16 * 16 + m / 4) ::
      UInt8.ofNat (m % 4 * 64 + n) :: bytes rest
  | [k, l, m] => [UInt8.ofNat (k * 4 + l / 16), UInt8.ofNat (l % 16 * 16 + m / 4)]
  | [k, l] => [UInt8.ofNat (k * 4 + l / 16)]
  | [_] | [] => []

/-- `Buffer.from(text, 'base64')`. -/
def decode (text : String) : List UInt8 := bytes (text.toList.filterMap value)

theorem value_letter : ∀ k < 64, value (letter k) = some k := by decide

theorem value_padding : value '=' = none := by decide

theorem byte_eq (a : UInt8) {n : ℕ} (h : n = a.toNat) : UInt8.ofNat n = a := by
  rw [h, UInt8.ofNat_toNat]

theorem bytes_letters (bs : List UInt8) : bytes ((letters bs).filterMap value) = bs := by
  fun_induction letters bs with
  | case1 => rfl
  | case2 a =>
    have ha := a.toNat_lt
    simp only [List.filterMap_cons, List.filterMap_nil, value_padding,
      value_letter (a.toNat / 4) (by omega), value_letter (a.toNat % 4 * 16) (by omega), bytes]
    rw [byte_eq a (by omega)]
  | case3 a b =>
    have ha := a.toNat_lt
    have hb := b.toNat_lt
    simp only [List.filterMap_cons, List.filterMap_nil, value_padding,
      value_letter (a.toNat / 4) (by omega),
      value_letter (a.toNat % 4 * 16 + b.toNat / 16) (by omega),
      value_letter (b.toNat % 16 * 4) (by omega), bytes]
    rw [byte_eq a (by omega), byte_eq b (by omega)]
  | case4 a b c bs ih =>
    have ha := a.toNat_lt
    have hb := b.toNat_lt
    have hc := c.toNat_lt
    simp only [List.filterMap_cons, value_letter (a.toNat / 4) (by omega),
      value_letter (a.toNat % 4 * 16 + b.toNat / 16) (by omega),
      value_letter (b.toNat % 16 * 4 + c.toNat / 64) (by omega),
      value_letter (c.toNat % 64) (by omega), bytes, ih]
    rw [byte_eq a (by omega), byte_eq b (by omega), byte_eq c (by omega)]

/-- Bytes are read back. -/
theorem decode_encode (bs : List UInt8) : decode (encode bs) = bs := by
  rw [decode, encode, String.toList_ofList, bytes_letters]

theorem length_letters (bs : List UInt8) : (letters bs).length = (bs.length + 2) / 3 * 4 := by
  fun_induction letters bs with
  | case1 => rfl
  | case2 | case3 => simp
  | case4 a b c bs ih =>
    simp only [List.length_cons, ih]
    omega

/-- A text is not the Base64 of its own bytes, which is longer. -/
theorem encode_utf8_eq_iff {text : String} : encode (utf8 text) = text ↔ text = "" := by
  constructor
  · intro h
    have hlen : (letters (utf8 text)).length = text.toList.length := by
      conv_rhs => rw [← h, encode, String.toList_ofList]
    have hle := length_le_utf8 text
    rw [length_letters] at hlen
    exact String.toList_eq_nil_iff.1 (List.length_eq_zero_iff.1 (by omega))
  · rintro rfl
    rfl

end Base64

end Lib
