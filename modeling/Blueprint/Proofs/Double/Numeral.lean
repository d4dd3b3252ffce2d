import Mathlib.Data.List.TakeDrop
import Blueprint.Double.Form
import Blueprint.Double.Reading
import Blueprint.Proofs.Double.Rounding

/-!
# Written numbers read back

A `Numeral` is an unsigned number as it is written, in its parts: the digits before the point, those
after it, and the power of ten behind the exponent mark.  Its text determines its parts, so reading
gives the double that the parts denote (`readDecimal?_text`), and every layout of a decimal is such
a text (`DecimalForm.spells_layout`).

Main statement: whatever the form, the written form of a finite number reads back as the number
(`DecimalForm.read?_write`).
-/

namespace Blueprint

namespace Text

/-! ### Digits -/

/-- One or more decimal digits. -/
structure IsDigits (text : List Char) : Prop where
  /-- There is a character. -/
  ne_nil : text ≠ []
  /-- All characters are digits. -/
  isDigit : ∀ c ∈ text, c.isDigit = true

/-- One or more decimal digits behind an optional sign. -/
def IsSigned (text : List Char) : Prop :=
  ∃ digits, IsDigits digits ∧ (text = digits ∨ text = '+' :: digits ∨ text = '-' :: digits)

/-- The text does not go on with a digit. -/
def EndsDigits (text : List Char) : Prop := ∀ c ∈ text.head?, c.isDigit = false

theorem natOfDigits_eq (digits : List Char) : natOfDigits digits = Nat.ofDigitChars 10 digits 0 :=
  rfl

@[simp] theorem natOfDigits_repr (n : Nat) : natOfDigits (Nat.repr n).toList = n := by
  rw [natOfDigits_eq, Nat.toList_repr, Nat.ofDigitChars_ten_toDigits]

theorem natOfDigits_zeros_append (k : Nat) (digits : List Char) :
    natOfDigits (List.replicate k '0' ++ digits) = natOfDigits digits := by
  rw [natOfDigits_eq, natOfDigits_eq, Nat.ofDigitChars_append, Nat.ofDigitChars_replicate_zero,
    Nat.mul_zero]

theorem natOfDigits_append_zeros (digits : List Char) (k : Nat) :
    natOfDigits (digits ++ List.replicate k '0') = natOfDigits digits * 10 ^ k := by
  rw [natOfDigits_eq, natOfDigits_eq, Nat.ofDigitChars_append, Nat.ofDigitChars_replicate_zero,
    Nat.mul_comm]

theorem isDigits_repr (n : Nat) : IsDigits (Nat.repr n).toList := by
  rw [Nat.toList_repr]
  exact ⟨Nat.toDigits_ne_nil, fun c hc => Nat.isDigit_of_mem_toDigits (by decide) (by decide) hc⟩

theorem isDigits_zero : IsDigits ['0'] := ⟨List.cons_ne_nil _ _, List.forall_mem_singleton.2 rfl⟩

theorem head?_repr_ne_zero {n : Nat} (hn : n ≠ 0) : (Nat.repr n).toList.head? ≠ some '0' := by
  rw [Nat.toList_repr]
  induction n using Nat.strongRecOn with
  | ind n ih =>
    rw [Nat.toDigits_eq_if (by decide)]
    split_ifs with h
    · simpa using hn
    · -- The last digit is split off; the first is that of the others.
      obtain ⟨c, rest, hc⟩ :=
        List.exists_cons_of_ne_nil (Nat.toDigits_ne_nil (n := n / 10) (b := 10))
      have hfirst := ih (n / 10) (by omega) (by omega)
      rw [hc] at hfirst ⊢
      exact hfirst

theorem IsDigits.append {a b : List Char} (ha : IsDigits a) (hb : ∀ c ∈ b, c.isDigit = true) :
    IsDigits (a ++ b) := by
  refine ⟨by simp [ha.ne_nil], fun c hc => ?_⟩
  rcases List.mem_append.1 hc with hc | hc
  · exact ha.isDigit c hc
  · exact hb c hc

theorem isDigit_of_mem_zeros {k : Nat} {c : Char} (h : c ∈ List.replicate k '0') :
    c.isDigit = true := by
  rw [List.eq_of_mem_replicate h]
  rfl

theorem span_append {p : Char → Bool} {text rest : List Char} (htext : ∀ c ∈ text, p c = true)
    (hrest : ∀ c ∈ rest.head?, p c = false) : (text ++ rest).span p = (text, rest) := by
  rw [List.span_eq_takeWhile_dropWhile, List.takeWhile_append_of_pos htext,
    List.dropWhile_append_of_pos htext]
  cases rest with
  | nil => simp
  | cons c rest =>
    have hc : p c = false := hrest c rfl
    simp [hc]

theorem span_isDigit_append {digits rest : List Char} (hdigits : ∀ c ∈ digits, c.isDigit = true)
    (hrest : EndsDigits rest) : (digits ++ rest).span Char.isDigit = (digits, rest) :=
  span_append hdigits hrest

theorem endsDigits_cons {c : Char} (h : c.isDigit = false) (rest : List Char) :
    EndsDigits (c :: rest) := by
  rintro d ⟨⟩
  exact h

theorem IsDigits.exists_cons {text : List Char} (h : IsDigits text) :
    ∃ c rest, text = c :: rest ∧ c.isDigit = true := by
  obtain ⟨c, rest, rfl⟩ := List.exists_cons_of_ne_nil h.ne_nil
  exact ⟨c, rest, rfl, h.isDigit c List.mem_cons_self⟩

theorem IsDigits.head?_append {a : List Char} (h : IsDigits a) (b : List Char) :
    (a ++ b).head? = a.head? := by
  obtain ⟨c, rest, rfl, -⟩ := h.exists_cons
  rfl

theorem splitSign_digit {c : Char} (h : c.isDigit = true) (rest : List Char) :
    splitSign (c :: rest) = (false, c :: rest) := by
  rw [splitSign]
  · rintro _ ⟨⟩
    exact absurd h (by decide)
  · rintro _ ⟨⟩
    exact absurd h (by decide)

theorem readInt?_of_split {text digits : List Char} {negative : Bool}
    (hsplit : splitSign text = (negative, digits)) (hdigits : IsDigits digits) :
    readInt? text =
      some (if negative then -(natOfDigits digits : Int) else natOfDigits digits) := by
  have hall : digits.all Char.isDigit = true := List.all_eq_true.2 hdigits.isDigit
  simp [readInt?, hsplit, hdigits.ne_nil, hall]

theorem readInt?_digits {digits : List Char} (h : IsDigits digits) :
    readInt? digits = some (natOfDigits digits : Int) := by
  obtain ⟨c, rest, rfl, hc⟩ := h.exists_cons
  exact readInt?_of_split (splitSign_digit hc rest) h

theorem readInt?_plus {digits : List Char} (h : IsDigits digits) :
    readInt? ('+' :: digits) = some (natOfDigits digits : Int) :=
  readInt?_of_split rfl h

theorem readInt?_minus {digits : List Char} (h : IsDigits digits) :
    readInt? ('-' :: digits) = some (-(natOfDigits digits : Int)) :=
  readInt?_of_split rfl h

theorem exists_readInt?_of_isSigned {text : List Char} (h : IsSigned text) :
    ∃ i, readInt? text = some i := by
  obtain ⟨digits, hdigits, rfl | rfl | rfl⟩ := h
  · exact ⟨_, readInt?_digits hdigits⟩
  · exact ⟨_, readInt?_plus hdigits⟩
  · exact ⟨_, readInt?_minus hdigits⟩

/-- An integer with its sign; a plus sign is shown on request. -/
def signed (plusSign : Bool) (i : Int) : List Char :=
  (if i < 0 then ['-'] else if plusSign then ['+'] else []) ++ (Nat.repr i.natAbs).toList

theorem isSigned_signed (plusSign : Bool) (i : Int) : IsSigned (signed plusSign i) := by
  refine ⟨(Nat.repr i.natAbs).toList, isDigits_repr _, ?_⟩
  rw [signed]
  split_ifs <;> simp

theorem readInt?_signed (plusSign : Bool) (i : Int) :
    readInt? (signed plusSign i) = some i := by
  have hdigits := isDigits_repr i.natAbs
  rw [signed]
  split_ifs with hneg hplus
  · rw [List.singleton_append, readInt?_minus hdigits, natOfDigits_repr]
    congr 1
    omega
  · rw [List.singleton_append, readInt?_plus hdigits, natOfDigits_repr]
    congr 1
    omega
  · rw [List.nil_append, readInt?_digits hdigits, natOfDigits_repr]
    congr 1
    omega

theorem toList_toString (i : Int) : (toString i).toList = signed false i := by
  rw [Int.toString_eq_repr, Int.repr_eq_if, signed]
  by_cases hpos : 0 ≤ i
  · have hneg : ¬i < 0 := by omega
    have habs : i.toNat = i.natAbs := by omega
    simp [hpos, hneg, habs]
  · have hneg : i < 0 := by omega
    have habs : (-i).toNat = i.natAbs := by omega
    simp [hpos, hneg, habs]

end Text

open Text

/-! ### Numerals in their parts -/

/-- A number as it is written, without a sign. -/
structure Numeral where
  /-- The digits before the point. -/
  whole : List Char
  /-- The digits after the point, if there is one. -/
  fraction : Option (List Char)
  /-- What follows the exponent mark, if there is one. -/
  power : Option (List Char)
  /-- There is a digit before the point. -/
  whole_isDigits : IsDigits whole
  /-- Only a single zero starts with a zero. -/
  whole_eq_zero : whole.head? = some '0' → whole = ['0']
  /-- There is a digit after a point. -/
  fraction_isDigits : ∀ digits ∈ fraction, IsDigits digits
  /-- An integer follows an exponent mark. -/
  power_isSigned : ∀ text ∈ power, IsSigned text

namespace Numeral

/-- The point and what follows it. -/
def fractionText (n : Numeral) : List Char := (n.fraction.map ('.' :: ·)).getD []

/-- The exponent mark and what follows it. -/
def powerText (n : Numeral) : List Char := (n.power.map ('e' :: ·)).getD []

/-- The numeral as one text. -/
def text (n : Numeral) : List Char := n.whole ++ (n.fractionText ++ n.powerText)

/-- The double of a sign and a numeral. -/
def value (negative : Bool) (n : Numeral) : Double :=
  .ofDecimal negative (natOfDigits (n.whole ++ n.fraction.getD []))
    ((n.power.bind readInt?).getD 0 - ((n.fraction.getD []).length : Int))

/-- The numeral has a point or an exponent. -/
def IsMarked (n : Numeral) : Prop := n.fraction.isSome ∨ n.power.isSome

variable (n : Numeral)

theorem exists_text_eq_cons : ∃ c rest, n.text = c :: rest ∧ c.isDigit = true := by
  obtain ⟨c, rest, hwhole, hc⟩ := n.whole_isDigits.exists_cons
  exact ⟨c, rest ++ (n.fractionText ++ n.powerText), by rw [text, hwhole]; rfl, hc⟩

theorem isDigit_or_mem_marks {c : Char} (h : c ∈ n.text) :
    c.isDigit = true ∨ c ∈ ['.', 'e', '+', '-'] := by
  rw [text, List.mem_append, List.mem_append, fractionText, powerText] at h
  rcases h with h | h | h
  · exact .inl (n.whole_isDigits.isDigit c h)
  · cases hfraction : n.fraction with
    | none => simp [hfraction] at h
    | some digits =>
      rw [hfraction] at h
      rcases List.mem_cons.1 h with rfl | h
      · simp
      · exact .inl ((n.fraction_isDigits digits hfraction).isDigit c h)
  · cases hpower : n.power with
    | none => simp [hpower] at h
    | some text =>
      rw [hpower] at h
      obtain ⟨digits, hdigits, htext⟩ := n.power_isSigned text hpower
      rcases List.mem_cons.1 h with rfl | h
      · simp
      · rcases htext with rfl | rfl | rfl
        · exact .inl (hdigits.isDigit c h)
        · exact (List.mem_cons.1 h).symm.imp (hdigits.isDigit c) (by rintro rfl; simp)
        · exact (List.mem_cons.1 h).symm.imp (hdigits.isDigit c) (by rintro rfl; simp)

/-- The digits before the point end with it, or else with the exponent or the text. -/
theorem endsDigits_fractionText {rest : List Char} (h : EndsDigits rest) :
    EndsDigits (n.fractionText ++ (n.powerText ++ rest)) := by
  rw [fractionText, powerText]
  cases n.fraction with
  | some digits => exact endsDigits_cons rfl _
  | none =>
    cases n.power with
    | some text => exact endsDigits_cons rfl _
    | none => exact h

theorem endsDigits_powerText {rest : List Char} (h : EndsDigits rest) :
    EndsDigits (n.powerText ++ rest) := by
  rw [powerText]
  cases n.power with
  | some text => exact endsDigits_cons rfl _
  | none => exact h

theorem readExponent?_powerText :
    Double.readExponent? n.powerText = some ((n.power.bind readInt?).getD 0) := by
  rw [powerText]
  cases hpower : n.power with
  | none => rfl
  | some text =>
    obtain ⟨i, hi⟩ := exists_readInt?_of_isSigned (n.power_isSigned text hpower)
    simp [Double.readExponent?, hi]

theorem readDecimal?_text (negative : Bool) :
    Double.readDecimal? negative n.text = some (n.value negative) := by
  have hends : EndsDigits [] := by rintro _ ⟨⟩
  have hwhole : n.text.span Char.isDigit = (n.whole, n.fractionText ++ n.powerText) := by
    have := n.endsDigits_fractionText hends
    rw [List.append_nil] at this
    exact span_isDigit_append n.whole_isDigits.isDigit this
  have hpower := n.endsDigits_powerText hends
  rw [List.append_nil] at hpower
  have hexponent := n.readExponent?_powerText
  rw [Double.readDecimal?, hwhole]
  simp only [value]
  cases hfraction : n.fraction with
  | some digits =>
    have htext : n.fractionText = '.' :: digits := by rw [fractionText, hfraction]; rfl
    have hspan := span_isDigit_append (n.fraction_isDigits digits hfraction).isDigit hpower
    simp only [htext, List.cons_append, hspan, hexponent]
    simp [n.whole_isDigits.ne_nil]
  | none =>
    -- Without a point the exponent, if any, follows at once, and its mark is not taken for one.
    have htext : n.fractionText = [] := by rw [fractionText, hfraction]; rfl
    have hshape : n.powerText = [] ∨ ∃ power, n.powerText = 'e' :: power := by
      rw [powerText]
      cases n.power <;> simp
    obtain hnil | ⟨power, hmark⟩ := hshape
    · rw [hnil] at hexponent
      simp [htext, hnil, n.whole_isDigits.ne_nil, hexponent]
    · rw [hmark] at hexponent
      simp [htext, hmark, n.whole_isDigits.ne_nil, hexponent]

/-- A numeral with a point or an exponent is not an integer, with or without a sign. -/
theorem readInt?_text (h : n.IsMarked) :
    readInt? n.text = none ∧ readInt? ('-' :: n.text) = none := by
  have hall : n.text.all Char.isDigit = false := by
    rw [List.all_eq_false]
    rcases h with h | h
    · obtain ⟨digits, hfraction⟩ := Option.isSome_iff_exists.1 h
      exact ⟨'.', by simp [text, fractionText, hfraction], by decide⟩
    · obtain ⟨power, hpower⟩ := Option.isSome_iff_exists.1 h
      exact ⟨'e', by simp [text, powerText, hpower], by decide⟩
  obtain ⟨c, rest, htext, hc⟩ := n.exists_text_eq_cons
  have hsign : splitSign n.text = (false, n.text) := by rw [htext, splitSign_digit hc]
  constructor
  · simp [readInt?, hsign, hall]
  · simp [readInt?, splitSign, hall]

theorem read?_digit {c : Char} (hc : c.isDigit = true) (rest : List Char) (negative : Bool)
    {text : List Char} (hsplit : splitSign text = (negative, c :: rest)) :
    Double.read? text = Double.readDecimal? negative (c :: rest) := by
  have hlower : c.toLower = c := by
    refine dif_neg ?_
    rintro ⟨hupper, -⟩
    have hdigit : c.val ≤ '9'.val := of_decide_eq_true (Bool.and_eq_true_iff.1 hc).2
    exact absurd (UInt32.le_trans hupper hdigit) (by decide)
  have hi : c ≠ 'i' := by rintro rfl; exact absurd hc (by decide)
  have hn : c ≠ 'n' := by rintro rfl; exact absurd hc (by decide)
  simp [Double.read?, hsplit, hlower, hi, hn]

theorem read?_text (negative : Bool) :
    Double.read? ((if negative then ['-'] else []) ++ n.text) = some (n.value negative) := by
  obtain ⟨c, rest, htext, hc⟩ := n.exists_text_eq_cons
  have hsplit : splitSign ((if negative then ['-'] else []) ++ n.text) = (negative, c :: rest) := by
    rw [htext]
    cases negative with
    | true => rfl
    | false => exact splitSign_digit hc rest
  rw [read?_digit hc rest negative hsplit, ← htext, n.readDecimal?_text]

/-- The numeral of a natural number. -/
def ofNat (k : Nat) : Numeral where
  whole := (Nat.repr k).toList
  fraction := none
  power := none
  whole_isDigits := isDigits_repr k
  whole_eq_zero h := by
    by_cases hk : k = 0
    · rw [hk]; rfl
    · exact absurd h (head?_repr_ne_zero hk)
  fraction_isDigits := by rintro _ ⟨⟩
  power_isSigned := by rintro _ ⟨⟩

@[simp] theorem text_ofNat (k : Nat) : (ofNat k).text = (Nat.repr k).toList := List.append_nil _

end Numeral

/-! ### Layouts -/

namespace DecimalForm

/-- The text is a numeral for `digits * 10 ^ exponent`, one with a point or an exponent if
`marked`. -/
def Spells (marked : Bool) (text : List Char) (digits : Nat) (exponent : Int) : Prop :=
  ∃ n : Numeral, n.text = text ∧
    (∀ negative, n.value negative = .ofDecimal negative digits exponent) ∧
    (marked = true → n.IsMarked)

/-- The numeral of digits before `k` zeros and the point. -/
def wholeNumeral (pointZero : Bool) (digits : List Char) (k : Nat) (hdigits : IsDigits digits)
    (hzero : digits.head? = some '0' → digits = ['0'] ∧ k = 0) : Numeral where
  whole := digits ++ List.replicate k '0'
  fraction := if pointZero then some ['0'] else none
  power := none
  whole_isDigits := hdigits.append fun _ => isDigit_of_mem_zeros
  whole_eq_zero h := by
    rw [hdigits.head?_append] at h
    obtain ⟨rfl, rfl⟩ := hzero h
    rfl
  fraction_isDigits := by
    intro digits h
    cases pointZero with
    | true => cases h; exact isDigits_zero
    | false => cases h
  power_isSigned := by rintro _ ⟨⟩

theorem spells_placePoint_natCast (pointZero : Bool) {digits : List Char} (k : Nat)
    (hdigits : IsDigits digits) (hzero : digits.head? = some '0' → digits = ['0'] ∧ k = 0) :
    Spells pointZero (placePoint pointZero digits k) (natOfDigits digits) k := by
  refine ⟨wholeNumeral pointZero digits k hdigits hzero, ?_, fun negative => ?_, ?_⟩
  · cases pointZero <;>
      simp [placePoint, Numeral.text, Numeral.fractionText, Numeral.powerText, wholeNumeral]
  · -- The zeros before the point, and the one after it, are counted in the exponent.
    cases pointZero with
    | false =>
      have hshift := Double.ofDecimal_shift negative (natOfDigits digits) k k
      rw [← natOfDigits_append_zeros, Int.sub_self] at hshift
      simpa [Numeral.value, wholeNumeral] using hshift
    | true =>
      have hshift := Double.ofDecimal_shift negative (natOfDigits digits) (k + 1) k
      have hexponent : (k : Int) - ((k + 1 : Nat) : Int) = 0 - 1 := by omega
      rw [← natOfDigits_append_zeros, List.replicate_succ', ← List.append_assoc, hexponent]
        at hshift
      exact hshift
  · rintro rfl
    exact .inl rfl

/-- The numeral of digits of which the last `places` stand behind the point. -/
def pointNumeral (digits : List Char) (places : Nat) (hplaces : 0 < places)
    (hlength : places < digits.length) (hdigits : IsDigits digits)
    (hzero : digits.head? = some '0' → digits.length = places + 1) : Numeral where
  whole := digits.take (digits.length - places)
  fraction := some (digits.drop (digits.length - places))
  power := none
  whole_isDigits := by
    refine ⟨?_, fun c hc => hdigits.isDigit c (List.mem_of_mem_take hc)⟩
    rw [ne_eq, List.take_eq_nil_iff, not_or]
    exact ⟨by omega, hdigits.ne_nil⟩
  whole_eq_zero h := by
    obtain ⟨c, rest, rfl, -⟩ := hdigits.exists_cons
    obtain ⟨k, hk⟩ := Nat.exists_eq_add_one_of_ne_zero (Nat.sub_ne_zero_of_lt hlength)
    rw [hk, List.take_succ_cons, List.head?_cons] at h
    have hone : k = 0 := by
      have := hzero h
      omega
    cases h
    rw [hk, hone, List.take_succ_cons, List.take_zero]
  fraction_isDigits := by
    rintro _ ⟨⟩
    refine ⟨?_, fun c hc => hdigits.isDigit c (List.mem_of_mem_drop hc)⟩
    rw [ne_eq, List.drop_eq_nil_iff]
    omega
  power_isSigned := by rintro _ ⟨⟩

/-- Digits behind zeros, just enough of them for one digit before the point. -/
def padded (places : Nat) (digits : List Char) : List Char :=
  List.replicate (places + 1 - digits.length) '0' ++ digits

theorem length_padded (places : Nat) (digits : List Char) :
    (padded places digits).length = places + 1 - digits.length + digits.length := by
  rw [padded, List.length_append, List.length_replicate]

theorem isDigits_padded (places : Nat) {digits : List Char} (h : IsDigits digits) :
    IsDigits (padded places digits) := by
  refine ⟨List.ne_nil_of_length_pos (by rw [length_padded]; omega), fun c hc => ?_⟩
  rcases List.mem_append.1 hc with hc | hc
  · exact isDigit_of_mem_zeros hc
  · exact h.isDigit c hc

theorem length_padded_of_zero {places : Nat} {digits : List Char}
    (hzero : digits.head? ≠ some '0') (h : (padded places digits).head? = some '0') :
    (padded places digits).length = places + 1 := by
  by_contra hlong
  have hnone : places + 1 - digits.length = 0 := by
    rw [length_padded] at hlong
    omega
  rw [padded, hnone, List.replicate_zero, List.nil_append] at h
  exact hzero h

theorem spells_placePoint_neg (pointZero : Bool) {digits : List Char} {places : Nat}
    (hplaces : 0 < places) (hdigits : IsDigits digits) (hzero : digits.head? ≠ some '0') :
    Spells pointZero (placePoint pointZero digits (-places)) (natOfDigits digits) (-places) := by
  have hlength := length_padded places digits
  refine ⟨pointNumeral (padded places digits) places hplaces (by omega)
    (isDigits_padded places hdigits) (length_padded_of_zero hzero), ?_, fun negative => ?_,
    fun _ => .inl rfl⟩
  · have hneg : ¬0 ≤ -(places : Int) := by omega
    rw [placePoint, if_neg hneg]
    simp [Numeral.text, Numeral.fractionText, Numeral.powerText, pointNumeral, padded]
  · have hcut : (padded places digits).length - ((padded places digits).length - places) =
        places := by omega
    rw [← natOfDigits_zeros_append (places + 1 - digits.length) digits, ← padded]
    simp [Numeral.value, pointNumeral, hcut]

/-- Digits with their point placed spell the decimal. -/
theorem spells_placePoint (pointZero : Bool) {digits : List Char} (exponent : Int)
    (hdigits : IsDigits digits) (hzero : digits.head? ≠ some '0') :
    Spells pointZero (placePoint pointZero digits exponent) (natOfDigits digits) exponent := by
  by_cases hexponent : 0 ≤ exponent
  · obtain ⟨k, rfl⟩ := Int.eq_ofNat_of_zero_le hexponent
    exact spells_placePoint_natCast pointZero k hdigits fun h => absurd h hzero
  · obtain ⟨places, rfl⟩ := Int.exists_eq_neg_ofNat (a := exponent) (by omega)
    exact spells_placePoint_neg pointZero (by omega) hdigits hzero

/-- The numeral of digits with a point behind the first and an exponent. -/
def scientificNumeral (plusSign : Bool) (c : Char) (rest : List Char) (leading : Int)
    (hdigits : IsDigits (c :: rest)) : Numeral where
  whole := [c]
  fraction := if rest = [] then none else some rest
  power := some (signed plusSign leading)
  whole_isDigits := ⟨by simp, by simpa using hdigits.isDigit c List.mem_cons_self⟩
  whole_eq_zero h := by cases h; rfl
  fraction_isDigits := by
    intro digits h
    split_ifs at h with hrest
    · cases h
    · cases h
      exact ⟨hrest, fun d hd => hdigits.isDigit d (List.mem_cons_of_mem c hd)⟩
  power_isSigned := by
    rintro _ ⟨⟩
    exact isSigned_signed plusSign leading

/-- Digits with a point behind the first and an exponent spell the decimal. -/
theorem spells_withExponent (marked plusSign : Bool) {digits : List Char} (exponent : Int)
    (hdigits : IsDigits digits) :
    Spells marked (withExponent plusSign digits (exponent + (digits.length : Int) - 1))
      (natOfDigits digits) exponent := by
  obtain ⟨c, rest, rfl, -⟩ := hdigits.exists_cons
  generalize hleading : exponent + ((c :: rest).length : Int) - 1 = leading
  refine ⟨scientificNumeral plusSign c rest leading hdigits, ?_, fun negative => ?_,
    fun _ => .inr rfl⟩
  · cases rest <;> rfl
  · have hplaces : exponent = leading - rest.length := by
      rw [← hleading, List.length_cons]
      omega
    have hpower := readInt?_signed plusSign leading
    cases rest <;> simp [Numeral.value, scientificNumeral, hpower, hplaces]

/-- Every layout of a decimal spells the decimal; where whole numbers end in `.0`, each of them has
a point or an exponent. -/
theorem spells_layout (form : DecimalForm) (decimal : Decimal) :
    Spells form.pointZero (form.layout decimal) decimal.digits decimal.exponent := by
  have hdigits := isDigits_repr decimal.digits
  have hvalue := natOfDigits_repr decimal.digits
  rw [layout]
  split_ifs with hzero hpositional
  · -- A zero is written without its exponent, which does not change its value.
    obtain ⟨n, htext, hn, hmarked⟩ :=
      spells_placePoint_natCast form.pointZero 0 isDigits_zero fun _ => ⟨rfl, rfl⟩
    refine ⟨n, htext, fun negative => ?_, hmarked⟩
    have hnone : natOfDigits ['0'] = 0 := rfl
    rw [hn, hnone, hzero, Double.ofDecimal_zero, Double.ofDecimal_zero]
  · have hspells := spells_placePoint form.pointZero decimal.exponent hdigits
      (head?_repr_ne_zero hzero)
    rwa [hvalue] at hspells
  · have hspells := spells_withExponent form.pointZero form.plusSign decimal.exponent hdigits
    rwa [hvalue] at hspells

/-- **The written form of a finite number reads back as the number**, in every form. -/
theorem read?_write (form : DecimalForm) {x : Double} (h : x.isFinite) :
    Double.read? (form.write x).toList = some x := by
  obtain ⟨n, htext, hvalue, -⟩ := form.spells_layout (x.shortest form.tie)
  rw [write, String.toList_ofList, ← htext, n.read?_text, hvalue, Double.ofDecimal_shortest _ h]

end DecimalForm

end Blueprint
