import Blueprint.Proofs.Rendering
import Blueprint.Proofs.Text.Sorted

/-!
# Variables are told apart

A variable is written as the flattened type tag, the escaped id and a suffix.  The escape works on
the bytes of the id: a letter or digit stands for itself, and every other byte is an underscore with
two hexadecimal digits.  Reading it from the left gives the bytes again (`Node.unescape`), so
distinct ids have distinct escapes (`Node.escapeId_injective`).

The tags are flattened and may then begin like each other.  Two variables are told apart by their
tags if neither tag, with its underscores, is the beginning of the other, and otherwise by their
ids, if their suffixes are equally long (`Node.variableName_inj`).
-/

namespace Blueprint

namespace Text

theorem flatMap_utf8EncodeChar_injective :
    Function.Injective (List.flatMap String.utf8EncodeChar) := by
  intro a b h
  rcases lt_trichotomy a b with hlt | heq | hlt
  · have hbytes := flatMap_utf8EncodeChar_lt hlt
    rw [h] at hbytes
    exact absurd hbytes (List.lt_irrefl _)
  · exact heq
  · have hbytes := flatMap_utf8EncodeChar_lt hlt
    rw [h] at hbytes
    exact absurd hbytes (List.lt_irrefl _)

theorem hexDigits_byte (byte : UInt8) :
    hexDigits 2 byte.toNat = [(byte.toNat / 16).digitChar, (byte.toNat % 16).digitChar] := by
  have hbyte : byte.toNat / 16 < 16 := by have := byte.toNat_lt; omega
  rw [hexDigits, Nat.toDigits_eq_if (by decide)]
  split_ifs with h
  · have hzero : byte.toNat / 16 = 0 := by omega
    have hmod : byte.toNat % 16 = byte.toNat := Nat.mod_eq_of_lt h
    rw [hzero, hmod]
    rfl
  · rw [Nat.toDigits_of_lt_base hbyte]
    rfl

end Text

namespace Node

/-! ### Escaped ids -/

/-- A byte of an id inside a variable name. -/
def escapeUnit (byte : UInt8) : List Char :=
  if isPlain (Char.ofNat byte.toNat) then [Char.ofNat byte.toNat] else escapeByte byte

/-- The bytes that an escaped id spells. -/
def unescape : List Char → List UInt8
  | '_' :: a :: b :: rest => UInt8.ofNat (Text.readHex 0 [a, b]) :: unescape rest
  | c :: rest => UInt8.ofNat c.toNat :: unescape rest
  | [] => []

theorem toNat_of_isPlain {c : Char} (h : isPlain c = true) :
    48 ≤ c.toNat ∧ c.toNat ≤ 122 ∧ c ≠ '_' := by
  have hword := Text.toNat_of_isWord (Bool.or_eq_true_iff.2 (.inl h))
  refine ⟨by omega, by omega, ?_⟩
  rintro rfl
  exact absurd h (by decide)

theorem toNat_byte_ofNat {n : Nat} (h : n < 256) : (UInt8.ofNat n).toNat = n :=
  UInt8.toNat_ofNat_of_lt' h

theorem toNat_ofNat_byte (byte : UInt8) : (Char.ofNat byte.toNat).toNat = byte.toNat := by
  have hbyte := byte.toNat_lt
  rw [Char.ofNat, dif_pos (.inl (by omega))]
  rfl

/-- Only letters and digits among the characters have a letter or digit among their bytes. -/
theorem isPlain_byte {c : Char} (hc : isPlain c = false) {byte : UInt8}
    (hbyte : byte ∈ String.utf8EncodeChar c) : isPlain (Char.ofNat byte.toNat) = false := by
  by_cases hsmall : c.val.toNat ≤ 0x7f
  · rw [String.utf8EncodeChar] at hbyte
    simp only [hsmall, if_true, List.mem_singleton] at hbyte
    have htoNat : byte.toNat = c.toNat := by
      rw [hbyte]
      exact toNat_byte_ofNat (by omega)
    rw [htoNat, Char.ofNat_toNat]
    exact hc
  · -- All bytes of a longer encoding have their highest bit set.
    have hlarge : 128 ≤ byte.toNat := by
      rw [String.utf8EncodeChar] at hbyte
      simp only [hsmall, if_false] at hbyte
      split_ifs at hbyte <;> simp only [List.mem_cons, List.not_mem_nil, or_false] at hbyte <;>
        rcases hbyte with rfl | rfl | rfl | rfl <;> rw [toNat_byte_ofNat] <;> omega
    rw [Bool.eq_false_iff]
    intro hplain
    have := toNat_of_isPlain hplain
    rw [toNat_ofNat_byte] at this
    omega

theorem escapeChar_eq_flatMap (c : Char) :
    escapeChar c = (String.utf8EncodeChar c).flatMap escapeUnit := by
  rw [escapeChar]
  split_ifs with h
  · -- A plain character is one byte, and that byte is plain.
    have hc := toNat_of_isPlain h
    have hsmall : c.val.toNat ≤ 0x7f := by change c.toNat ≤ 0x7f; omega
    have hbyte : (UInt8.ofNat c.val.toNat).toNat = c.toNat :=
      toNat_byte_ofNat (by omega)
    rw [String.utf8EncodeChar]
    simp only [hsmall, if_true, List.flatMap_cons, List.flatMap_nil, List.append_nil]
    rw [escapeUnit, hbyte, Char.ofNat_toNat, if_pos h]
  · -- No byte of another character is plain.
    refine List.flatMap_congr fun byte hbyte => ?_
    rw [escapeUnit, isPlain_byte (by simpa using h) hbyte]
    rfl

theorem unescape_escapeUnit (byte : UInt8) (rest : List Char) :
    unescape (escapeUnit byte ++ rest) = byte :: unescape rest := by
  rw [escapeUnit]
  split_ifs with h
  · have hne := (toNat_of_isPlain h).2.2
    rw [List.singleton_append, unescape, toNat_ofNat_byte, UInt8.ofNat_toNat]
    exact fun _ _ _ heq => absurd heq hne
  · have hbyte := byte.toNat_lt
    have hread : Text.readHex 0 (Text.hexDigits 2 byte.toNat) = byte.toNat :=
      Text.readHex_hexDigits 2 _
    rw [Text.hexDigits_byte] at hread
    rw [escapeByte, Text.hexDigits_byte, List.cons_append, List.cons_append, List.cons_append,
      List.nil_append, unescape, hread, UInt8.ofNat_toNat]

/-- **An escaped id is read back.** -/
theorem unescape_escapeId (id : List Char) :
    unescape (escapeId id) = id.flatMap String.utf8EncodeChar := by
  have hbytes : ∀ bytes : List UInt8, unescape (bytes.flatMap escapeUnit) = bytes := by
    intro bytes
    induction bytes with
    | nil => rfl
    | cons byte bytes ih => rw [List.flatMap_cons, unescape_escapeUnit, ih]
  have hescape : escapeId id = (id.flatMap String.utf8EncodeChar).flatMap escapeUnit := by
    rw [escapeId, List.flatMap_assoc]
    exact List.flatMap_congr fun c _ => escapeChar_eq_flatMap c
  rw [hescape, hbytes]

theorem escapeId_injective : Function.Injective escapeId := by
  intro a b h
  have hbytes := congrArg unescape h
  rw [unescape_escapeId, unescape_escapeId] at hbytes
  exact Text.flatMap_utf8EncodeChar_injective hbytes

/-! ### Variables -/

/-- What a variable takes from the type tag. -/
def tagPart (tag : String) : List Char := '_' :: flattenTag tag.toList ++ ['_']

variable {node other : Node} {suffix otherSuffix : String}

theorem toList_variableName (node : Node) (hsuffix : suffix ≠ "") :
    (node.variableName suffix).toList =
      tagPart node.type ++ (escapeId node.id.toList ++ '_' :: suffix.toList) := by
  have hempty : suffix.isEmpty = false := by simpa using hsuffix
  simp [variableName, tagPart, hempty]

/-- **A variable determines the id and the suffix** if tags do not begin like each other and the
suffixes are equally long. -/
theorem variableName_inj (hsuffix : suffix ≠ "") (hother : otherSuffix ≠ "")
    (htags : tagPart node.type <+: tagPart other.type ∨
      tagPart other.type <+: tagPart node.type → node.type = other.type)
    (hlength : node.type = other.type → suffix.toList.length = otherSuffix.toList.length)
    (h : node.variableName suffix = other.variableName otherSuffix) :
    node.id = other.id ∧ suffix = otherSuffix := by
  have hchars := congrArg String.toList h
  rw [toList_variableName node hsuffix, toList_variableName other hother] at hchars
  -- Both tags begin the same text, so one begins the other.
  have htype : node.type = other.type := by
    have hprefix := List.prefix_append (tagPart other.type)
      (escapeId other.id.toList ++ '_' :: otherSuffix.toList)
    rw [← hchars] at hprefix
    exact htags (List.prefix_or_prefix_of_prefix (List.prefix_append _ _) hprefix)
  rw [htype] at hchars
  -- The suffixes are equally long, so what stands before them is equal too.
  obtain ⟨hid, hrest⟩ := List.append_inj' (List.append_cancel_left hchars)
    (by simpa using hlength htype)
  refine ⟨String.toList_injective (escapeId_injective hid), String.toList_injective ?_⟩
  exact (List.cons.inj hrest).2

end Node

end Blueprint
