import Mathlib.Data.List.Nodup
import Blueprint.Text.Numeral

/-!
# Hexadecimal numerals read back

A padded numeral determines its number (`hexDigits_injective`), since reading it from the left
gives the number again, and it is made of letters and digits only (`isAlphanum_of_mem_hexDigits`).
Zeros fill it up to its width and no further (`paddedHex_hexDigits`).
-/

namespace Blueprint.Text

/-- The value of a lower-case hexadecimal digit. -/
def hexValue (c : Char) : Nat := if c.isDigit then c.toNat - '0'.toNat else c.toNat - 'a'.toNat + 10

/-- The number that a string of hexadecimal digits denotes, after the digits of `init`. -/
def readHex (init : Nat) (digits : List Char) : Nat :=
  digits.foldl (fun acc c => 16 * acc + hexValue c) init

theorem hexValue_digitChar : ∀ {d : Nat}, d < 16 → hexValue d.digitChar = d := by decide

theorem isAlphanum_digitChar : ∀ {d : Nat}, d < 16 → d.digitChar.isAlphanum = true := by decide

theorem readHex_toDigits (n : Nat) : readHex 0 (Nat.toDigits 16 n) = n := by
  induction n using Nat.strongRecOn with
  | ind n ih =>
    rw [Nat.toDigits_eq_if (by decide)]
    split_ifs with h
    · simp [readHex, hexValue_digitChar h]
    · have hq := ih (n / 16) (by omega)
      rw [readHex] at hq
      rw [readHex, List.foldl_append, hq, List.foldl_cons, List.foldl_nil,
        hexValue_digitChar (Nat.mod_lt _ (by decide))]
      omega

theorem readHex_replicate_zero (k : Nat) : readHex 0 (List.replicate k '0') = 0 := by
  induction k with
  | zero => rfl
  | succ k ih => rw [List.replicate_succ]; exact ih

theorem readHex_hexDigits (width n : Nat) : readHex 0 (hexDigits width n) = n := by
  have hzero := readHex_replicate_zero (width - (Nat.toDigits 16 n).length)
  rw [readHex] at hzero
  rw [hexDigits, readHex, List.foldl_append, hzero]
  exact readHex_toDigits n

/-- Different numbers have different numerals, whatever the padding. -/
theorem hexDigits_injective (width : Nat) : Function.Injective (hexDigits width) := by
  intro m n h
  rw [← readHex_hexDigits width m, h, readHex_hexDigits]

theorem exists_digit_of_mem_toDigits {n : Nat} {c : Char} (h : c ∈ Nat.toDigits 16 n) :
    ∃ d < 16, c = d.digitChar := by
  induction n using Nat.strongRecOn with
  | ind n ih =>
    rw [Nat.toDigits_eq_if (by decide)] at h
    split_ifs at h with hn
    · exact ⟨n, hn, List.mem_singleton.1 h⟩
    · rcases List.mem_append.1 h with h | h
      · exact ih (n / 16) (by omega) h
      · exact ⟨n % 16, Nat.mod_lt _ (by decide), List.mem_singleton.1 h⟩

theorem exists_digit_of_mem_hexDigits {width n : Nat} {c : Char} (h : c ∈ hexDigits width n) :
    ∃ d < 16, c = d.digitChar := by
  rcases List.mem_append.1 h with h | h
  · exact ⟨0, by decide, List.eq_of_mem_replicate h⟩
  · exact exists_digit_of_mem_toDigits h

theorem isAlphanum_of_mem_hexDigits {width n : Nat} {c : Char} (h : c ∈ hexDigits width n) :
    c.isAlphanum = true := by
  obtain ⟨d, hd, rfl⟩ := exists_digit_of_mem_hexDigits h
  exact isAlphanum_digitChar hd

/-! ### Padding -/

/-- The text is the lower-case hexadecimal numeral of a number, filled up with zeros to a width. -/
structure PaddedHex (width n : Nat) (text : List Char) : Prop where
  /-- All characters are digits. -/
  digits : ∀ c ∈ text, c ∈ "0123456789abcdef".toList
  /-- They denote the number. -/
  value : readHex 0 text = n
  /-- There are enough of them. -/
  width_le : width ≤ text.length
  /-- If there are more, none of them fills up. -/
  unpadded : width < text.length → text.head? ≠ some '0'

theorem digitChar_mem : ∀ {d : Nat}, d < 16 → d.digitChar ∈ "0123456789abcdef".toList := by decide

theorem digitChar_ne_zero : ∀ {d : Nat}, d < 16 → d ≠ 0 → d.digitChar ≠ '0' := by decide

/-- Only the numeral of zero begins with a zero. -/
theorem head?_toDigits {n : Nat} (h : n ≠ 0) : (Nat.toDigits 16 n).head? ≠ some '0' := by
  induction n using Nat.strongRecOn with
  | ind n ih =>
    rw [Nat.toDigits_eq_if (by decide)]
    split_ifs with hn
    · rw [List.head?_singleton, Ne, Option.some_inj]
      exact digitChar_ne_zero hn h
    · rw [List.head?_append_of_ne_nil _ (Nat.toDigits_ne_nil)]
      exact ih (n / 16) (by omega) (by omega)

theorem paddedHex_hexDigits {width : Nat} (hwidth : 0 < width) (n : Nat) :
    PaddedHex width n (hexDigits width n) where
  digits c hc := by
    obtain ⟨d, hd, rfl⟩ := exists_digit_of_mem_hexDigits hc
    exact digitChar_mem hd
  value := readHex_hexDigits width n
  width_le := by
    simp only [hexDigits, List.length_append, List.length_replicate]
    omega
  unpadded h := by
    have hlong : width < (Nat.toDigits 16 n).length := by
      simp only [hexDigits, List.length_append, List.length_replicate] at h
      omega
    have hzero : n ≠ 0 := by
      rintro rfl
      have hone : (Nat.toDigits 16 0).length = 1 := rfl
      omega
    rw [hexDigits, Nat.sub_eq_zero_of_le (Nat.le_of_lt hlong)]
    exact head?_toDigits hzero

end Blueprint.Text
