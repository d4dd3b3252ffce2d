import Blueprint.Json.Reader
import Blueprint.Json.Writer
import Blueprint.Proofs.Double.Numeral

/-!
# JSON tokens read back

A string in quotes reads back as the text it was written for (`readString_writeText`), since every
character is escaped by itself and no character is half of a surrogate pair.  A numeral is cut off
where it ends (`scanNumber_of_isNumeral`), provided that what follows cannot continue it.
-/

namespace Blueprint

namespace Json

/-! ### Strings -/

/-- A control character is spelled by two zeros and two digits. -/
theorem hexDigits_control : ∀ n < 0x20,
    Text.hexDigits 4 n = ['0', '0', (n / 16).digitChar, (n % 16).digitChar] ∧
      hexQuad? '0' '0' (n / 16).digitChar (n % 16).digitChar = some n := by
  decide

theorem readCodes_simple {c d : Char} (h : simpleEscape? d = some c) (rest : List Char) :
    readCodes ('\\' :: d :: rest) = (readCodes rest).map (Prod.map (c.toNat :: ·) id) := by
  rw [readCodes, h]
  · cases readCodes rest <;> rfl
  · rintro _ _ _ _ _ ⟨⟩
    cases h

theorem readCodes_quad {a b c d : Char} {code : Nat} (h : hexQuad? a b c d = some code)
    (rest : List Char) :
    readCodes ('\\' :: 'u' :: a :: b :: c :: d :: rest) =
      (readCodes rest).map (Prod.map (code :: ·) id) := by
  rw [readCodes, h]
  cases readCodes rest <;> rfl

theorem readCodes_plain {c : Char} (hquote : c ≠ '"') (hslash : c ≠ '\\')
    (hcontrol : ¬c.toNat < 0x20) (rest : List Char) :
    readCodes (c :: rest) = (readCodes rest).map (Prod.map (c.toNat :: ·) id) := by
  rw [readCodes, if_neg (by simp [hcontrol, hslash])]
  · cases readCodes rest <;> rfl
  · exact hquote
  · exact fun _ _ _ _ _ h => absurd h hslash
  · exact fun _ _ h => absurd h hslash

theorem readCodes_escapeChar (c : Char) (rest : List Char) :
    readCodes (escapeChar c ++ rest) = (readCodes rest).map (Prod.map (c.toNat :: ·) id) := by
  rw [escapeChar]
  split_ifs with hquote hslash hback hfeed hnewline hreturn htab hcontrol
  · rw [hquote]; exact readCodes_simple rfl rest
  · rw [hslash]; exact readCodes_simple rfl rest
  · rw [hback]; exact readCodes_simple rfl rest
  · rw [hfeed]; exact readCodes_simple rfl rest
  · rw [hnewline]; exact readCodes_simple rfl rest
  · rw [hreturn]; exact readCodes_simple rfl rest
  · rw [htab]; exact readCodes_simple rfl rest
  · obtain ⟨hdigits, hquad⟩ := hexDigits_control c.toNat hcontrol
    rw [hdigits]
    exact readCodes_quad hquad rest
  · exact readCodes_plain hquote hslash hcontrol rest

theorem readCodes_flatMap (text rest : List Char) :
    readCodes (text.flatMap escapeChar ++ '"' :: rest) = some (text.map Char.toNat, rest) := by
  induction text with
  | nil => rfl
  | cons c text ih =>
    rw [List.flatMap_cons, List.append_assoc, readCodes_escapeChar, ih]
    rfl

theorem not_surrogate (c : Char) :
    isHighSurrogate c.toNat = false ∧ isLowSurrogate c.toNat = false := by
  have hvalid : c.toNat < 0xD800 ∨ 0xDFFF < c.toNat ∧ c.toNat < 0x110000 := c.valid
  simp only [isHighSurrogate, isLowSurrogate, Bool.and_eq_false_iff, decide_eq_false_iff_not]
  omega

theorem joinSurrogates_map_toNat (text : List Char) :
    joinSurrogates (text.map Char.toNat) = some text := by
  induction text with
  | nil => rfl
  | cons c text ih =>
    obtain ⟨hhigh, hlow⟩ := not_surrogate c
    cases text with
    | nil => simp [joinSurrogates, hhigh, hlow, Char.ofNat_toNat]
    | cons d text =>
      rw [List.map_cons] at ih
      simp [joinSurrogates, hhigh, hlow, ih, Char.ofNat_toNat]

/-- A written string reads back behind its opening quote, also one that spells no text. -/
theorem readString_writeText (spelled : Spelled) :
    ∃ body, writeText spelled = '"' :: body ∧
      ∀ rest, readString (body ++ rest) = some (spelled, rest) := by
  cases spelled with
  | none =>
    refine ⟨"\\ud800\"".toList, rfl, fun rest => ?_⟩
    have hcode : hexQuad? 'd' '8' '0' '0' = some 0xD800 := rfl
    have hcodes := readCodes_quad hcode ('"' :: rest)
    exact (congrArg (Option.map _) hcodes).trans rfl
  | some text =>
    refine ⟨text.toList.flatMap escapeChar ++ ['"'], rfl, fun rest => ?_⟩
    rw [readString, List.append_assoc, List.singleton_append, readCodes_flatMap]
    simp [joinSurrogates_map_toNat]

/-! ### Numbers -/

open Text

/-- The text does not continue a number. -/
def EndsNumber (text : List Char) : Prop :=
  ∀ c ∈ text.head?, c.isDigit = false ∧ c ≠ '.' ∧ c ≠ 'e' ∧ c ≠ 'E'

/-- The text of a number: a numeral behind an optional minus sign. -/
def IsNumeral (text : String) : Prop :=
  ∃ (negative : Bool) (n : Numeral), text.toList = (if negative then ['-'] else []) ++ n.text

theorem EndsNumber.endsDigits {text : List Char} (h : EndsNumber text) : EndsDigits text :=
  fun c hc => (h c hc).1

theorem endsNumber_cons {c : Char} (h : c.isDigit = false ∧ c ≠ '.' ∧ c ≠ 'e' ∧ c ≠ 'E')
    (rest : List Char) : EndsNumber (c :: rest) := by
  rintro d ⟨⟩
  exact h

theorem scanDigits_append {digits rest : List Char} (hdigits : IsDigits digits)
    (hrest : EndsDigits rest) : scanDigits (digits ++ rest) = some (digits, rest) := by
  rw [scanDigits, span_isDigit_append hdigits.isDigit hrest]
  split
  case h_1 h => exact absurd (congrArg Prod.fst h) hdigits.ne_nil
  case h_2 h => cases h; rfl

theorem scanSigned_append {text rest : List Char} (htext : IsSigned text)
    (hrest : EndsDigits rest) : scanSigned (text ++ rest) = some (text, rest) := by
  obtain ⟨digits, hdigits, rfl | rfl | rfl⟩ := htext
  · obtain ⟨c, digits, rfl, hc⟩ := hdigits.exists_cons
    rw [← scanDigits_append hdigits hrest, List.cons_append, scanSigned.eq_def]
    split
    case h_1 h => cases h; exact absurd hc (by decide)
    case h_2 h => cases h; exact absurd hc (by decide)
    case h_3 => rfl
  · simp [scanSigned, scanDigits_append hdigits hrest]
  · simp [scanSigned, scanDigits_append hdigits hrest]

variable (n : Numeral)

theorem scanWhole_whole {rest : List Char} (hrest : EndsDigits rest) :
    scanWhole (n.whole ++ rest) = some (n.whole, rest) := by
  obtain ⟨c, digits, hwhole, -⟩ := n.whole_isDigits.exists_cons
  by_cases hc : c = '0'
  · have hzero := n.whole_eq_zero (by rw [hwhole, hc]; rfl)
    rw [hzero]
    rfl
  · rw [← scanDigits_append n.whole_isDigits hrest, hwhole, List.cons_append, scanWhole]
    rintro _ ⟨⟩
    exact hc rfl

theorem scanFraction_fractionText {rest : List Char} (hrest : EndsDigits rest)
    (hpoint : rest.head? ≠ some '.') :
    scanFraction (n.fractionText ++ rest) = some (n.fractionText, rest) := by
  rw [Numeral.fractionText]
  cases hfraction : n.fraction with
  | some digits =>
    have hscan := scanDigits_append (n.fraction_isDigits digits hfraction) hrest
    simp [scanFraction, hscan]
  | none =>
    change scanFraction rest = some ([], rest)
    rw [scanFraction]
    rintro _ rfl
    exact hpoint rfl

theorem scanExponent_powerText {rest : List Char} (hrest : EndsNumber rest) :
    scanExponent (n.powerText ++ rest) = some (n.powerText, rest) := by
  rw [Numeral.powerText]
  cases hpower : n.power with
  | some text =>
    have hscan := scanSigned_append (n.power_isSigned text hpower) hrest.endsDigits
    simp [scanExponent, hscan]
  | none =>
    cases rest with
    | nil => rfl
    | cons c rest =>
      obtain ⟨-, -, he, hE⟩ := hrest c rfl
      simp [scanExponent, he, hE]

theorem scanUnsigned_text {rest : List Char} (hrest : EndsNumber rest) :
    scanUnsigned (n.text ++ rest) = some (n.text, rest) := by
  have hends := hrest.endsDigits
  have hwhole := scanWhole_whole n (n.endsDigits_fractionText hends)
  have hfraction := scanFraction_fractionText n (n.endsDigits_powerText hends) (by
    rw [Numeral.powerText]
    cases n.power with
    | some text => simp
    | none => exact fun h => (hrest '.' h).2.1 rfl)
  have hpower := scanExponent_powerText n hrest
  simp [scanUnsigned, Numeral.text, List.append_assoc, hwhole, hfraction, hpower]

theorem scanNumber_of_isNumeral {text : String} (htext : IsNumeral text) {rest : List Char}
    (hrest : EndsNumber rest) : scanNumber (text.toList ++ rest) = some (text.toList, rest) := by
  obtain ⟨negative, n, hn⟩ := htext
  have hscan := scanUnsigned_text n hrest
  rw [hn]
  cases negative with
  | true => simp [scanNumber, hscan]
  | false =>
    obtain ⟨c, digits, htext, hc⟩ := n.exists_text_eq_cons
    change scanNumber (n.text ++ rest) = some (n.text, rest)
    rw [← hscan, htext, List.cons_append, scanNumber]
    rintro _ ⟨⟩
    exact absurd hc (by decide)

theorem isNumeral_write (form : DecimalForm) (x : Double) : IsNumeral (form.write x) := by
  obtain ⟨n, htext, -⟩ := form.spells_layout (x.shortest form.tie)
  exact ⟨x.negative, n, by rw [DecimalForm.write, String.toList_ofList, htext]⟩

theorem isNumeral_toString (i : Int) : IsNumeral (toString i) := by
  refine ⟨decide (i < 0), Numeral.ofNat i.natAbs, ?_⟩
  rw [toList_toString, signed]
  simp

end Json

end Blueprint
