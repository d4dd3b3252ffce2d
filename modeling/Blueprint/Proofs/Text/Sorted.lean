import Mathlib.Data.List.Lex
import Mathlib.Data.String.Basic
import Blueprint.Text.Basic

/-!
# Sorted lists of texts

Insertion keeps a list strictly increasing and adds exactly the text
(`Text.pairwise_insertSorted`, `Text.mem_insertSorted`).  The order of texts goes by code points,
and it is also the order of their encodings by bytes (`Text.bytes_lt_bytes`): a smaller code point
has a smaller encoding, which differs within the length of both.
-/

namespace Blueprint.Text

/-- The encoding of a text. -/
def bytes (text : String) : List UInt8 := text.toUTF8.data.toList

theorem bytes_ofList (characters : List Char) :
    bytes (String.ofList characters) = characters.flatMap String.utf8EncodeChar := by
  rw [bytes, String.toUTF8_eq_toByteArray, String.toByteArray_ofList, List.utf8Encode,
    List.data_toByteArray]

theorem cons_ofNat_lt {x y : Nat} {s t : List UInt8} (hy : y < 256) (h : x < y ∨ x = y ∧ s < t) :
    UInt8.ofNat x :: s < UInt8.ofNat y :: t := by
  rw [List.cons_lt_cons_iff]
  rcases h with h | ⟨rfl, h⟩
  · refine .inl (UInt8.lt_iff_toNat_lt.2 ?_)
    rwa [UInt8.toNat_ofNat_of_lt' (h.trans hy), UInt8.toNat_ofNat_of_lt' hy]
  · exact .inr ⟨rfl, h⟩

/-- The last byte decides between numbers with the same higher digits to base 64. -/
theorem lastByte_lt {m n : Nat} (s t : List UInt8) (hlt : m < n) (heq : m / 64 = n / 64) :
    UInt8.ofNat (m % 64 + 128) :: s < UInt8.ofNat (n % 64 + 128) :: t :=
  cons_ofNat_lt (by omega) (.inl (by omega))

theorem lastTwoBytes_lt {m n : Nat} (s t : List UInt8) (hlt : m < n)
    (heq : m / 4096 = n / 4096) :
    UInt8.ofNat (m / 64 % 64 + 128) :: UInt8.ofNat (m % 64 + 128) :: s <
      UInt8.ofNat (n / 64 % 64 + 128) :: UInt8.ofNat (n % 64 + 128) :: t := by
  refine cons_ofNat_lt (by omega) ?_
  by_cases hhigh : m / 64 = n / 64
  · exact .inr ⟨by rw [hhigh], lastByte_lt s t hlt hhigh⟩
  · exact .inl (by omega)

theorem lastThreeBytes_lt {m n : Nat} (s t : List UInt8) (hlt : m < n)
    (heq : m / 262144 = n / 262144) :
    UInt8.ofNat (m / 4096 % 64 + 128) :: UInt8.ofNat (m / 64 % 64 + 128) ::
        UInt8.ofNat (m % 64 + 128) :: s <
      UInt8.ofNat (n / 4096 % 64 + 128) :: UInt8.ofNat (n / 64 % 64 + 128) ::
        UInt8.ofNat (n % 64 + 128) :: t := by
  refine cons_ofNat_lt (by omega) ?_
  by_cases hhigh : m / 4096 = n / 4096
  · exact .inr ⟨by rw [hhigh], lastTwoBytes_lt s t hlt hhigh⟩
  · exact .inl (by omega)

theorem utf8EncodeChar_append_lt {c d : Char} (h : c < d) (s t : List UInt8) :
    String.utf8EncodeChar c ++ s < String.utf8EncodeChar d ++ t := by
  have hlt : c.val.toNat < d.val.toNat := h
  have hmax : d.val.toNat < 0x110000 := by
    have := d.valid
    simp only [UInt32.isValidChar, Nat.isValidChar] at this
    omega
  rw [String.utf8EncodeChar, String.utf8EncodeChar]
  generalize c.val.toNat = m at hlt ⊢
  generalize d.val.toNat = n at hlt hmax ⊢
  split_ifs
  -- A smaller code point never has the longer encoding.
  any_goals omega
  -- The first bytes decide unless the encodings have the same length.
  · exact cons_ofNat_lt (by omega) (.inl hlt)
  · exact cons_ofNat_lt (by omega) (.inl (by omega))
  · exact cons_ofNat_lt (by omega) (.inl (by omega))
  · exact cons_ofNat_lt (by omega) (.inl (by omega))
  · refine cons_ofNat_lt (by omega) ?_
    by_cases hhigh : m / 64 = n / 64
    · exact .inr ⟨by rw [hhigh], lastByte_lt s t hlt hhigh⟩
    · exact .inl (by omega)
  · exact cons_ofNat_lt (by omega) (.inl (by omega))
  · exact cons_ofNat_lt (by omega) (.inl (by omega))
  · refine cons_ofNat_lt (by omega) ?_
    by_cases hhigh : m / 4096 = n / 4096
    · exact .inr ⟨by rw [hhigh], lastTwoBytes_lt s t hlt hhigh⟩
    · exact .inl (by omega)
  · exact cons_ofNat_lt (by omega) (.inl (by omega))
  · refine cons_ofNat_lt (by omega) ?_
    by_cases hhigh : m / 262144 = n / 262144
    · exact .inr ⟨by rw [hhigh], lastThreeBytes_lt s t hlt hhigh⟩
    · exact .inl (by omega)

theorem flatMap_utf8EncodeChar_lt {a b : List Char} (h : a < b) :
    a.flatMap String.utf8EncodeChar < b.flatMap String.utf8EncodeChar := by
  induction h with
  | @nil c rest =>
    rw [List.flatMap_nil, List.flatMap_cons]
    obtain ⟨x, rest, heq⟩ := List.exists_cons_of_ne_nil (String.utf8EncodeChar_ne_nil (c := c))
    rw [heq]
    exact .nil
  | cons _ ih =>
    rw [List.flatMap_cons, List.flatMap_cons]
    exact List.append_left_lt ih
  | rel hlt => exact utf8EncodeChar_append_lt hlt _ _

/-- **Encodings by bytes are ordered like the texts by code points.** -/
theorem bytes_lt_bytes {a b : String} (h : a < b) : bytes a < bytes b := by
  rw [← a.ofList_toList, ← b.ofList_toList, bytes_ofList, bytes_ofList]
  exact flatMap_utf8EncodeChar_lt (String.lt_iff.1 h)

variable {text : String} {sorted : List String}

theorem mem_insertSorted {x : String} : x ∈ insertSorted text sorted ↔ x = text ∨ x ∈ sorted := by
  fun_induction insertSorted text sorted with
  | case1 => simp
  | case2 => simp
  | case3 => simp
  | case4 first rest _ _ ih => simp [ih, or_left_comm]

theorem pairwise_insertSorted (h : sorted.Pairwise (· < ·)) :
    (insertSorted text sorted).Pairwise (· < ·) := by
  fun_induction insertSorted text sorted with
  | case1 => exact List.pairwise_singleton _ _
  | case2 first rest hlt =>
    refine List.pairwise_cons.2 ⟨fun x hx => ?_, h⟩
    rcases List.mem_cons.1 hx with rfl | hx
    · exact hlt
    · exact hlt.trans (List.rel_of_pairwise_cons h hx)
  | case3 => exact h
  | case4 first rest hlt hne ih =>
    obtain ⟨hfirst, hrest⟩ := List.pairwise_cons.1 h
    refine List.pairwise_cons.2 ⟨fun x hx => ?_, ih hrest⟩
    rcases mem_insertSorted.1 hx with rfl | hx
    · exact lt_of_le_of_ne (not_lt.1 hlt) (Ne.symm hne)
    · exact hfirst x hx

theorem mem_foldl_insertSorted {x : String} (texts : List String) :
    x ∈ texts.foldl (fun sorted text => insertSorted text sorted) sorted ↔
      x ∈ sorted ∨ x ∈ texts := by
  induction texts generalizing sorted with
  | nil => simp
  | cons text rest ih =>
    rw [List.foldl_cons, ih, mem_insertSorted, List.mem_cons]
    exact ⟨fun h => h.elim (fun h => h.elim (.inr ∘ .inl) .inl) (.inr ∘ .inr),
      fun h => h.elim (.inl ∘ .inr) fun h => h.elim (.inl ∘ .inl) .inr⟩

theorem pairwise_foldl_insertSorted (texts : List String) (h : sorted.Pairwise (· < ·)) :
    (texts.foldl (fun sorted text => insertSorted text sorted) sorted).Pairwise (· < ·) := by
  induction texts generalizing sorted with
  | nil => exact h
  | cons text rest ih => exact ih (pairwise_insertSorted h)

end Blueprint.Text
