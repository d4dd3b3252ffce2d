import Blueprint.Proofs.Double.Whole
import Blueprint.Proofs.Json.Tokens
import Blueprint.Proofs.Text.Quoting

/-!
# What the literal of a value tells

The first character of a literal, which is a capital letter, a quote or neither, tells truth values,
texts and numbers apart (`Value.literal_ne_of_kind`).  The literal of a finite number reads back as
the number (`Value.read?_renderDouble`), so that numbers of one kind are told apart too.

What is left are integers and floating-point numbers.  Below `10 ^ 16` the latter show a point.
From there on all of them are whole, and the shortest decimal of a whole number has no digits behind
the point, so that they are written as integers (`Value.renderDouble_eq_toString`).

Main statement: two values have the same literal if they are equal, or if one is a floating-point
number of at least `10 ^ 16` and the other the integer of its shortest decimal, and in no other case
(`Value.literal_eq_iff`).
-/

namespace Blueprint

open Text

/-! ### Layouts with and without a point -/

namespace Text

theorem repr_mul_ten_pow {n : Nat} (hn : n ≠ 0) (k : Nat) :
    (Nat.repr (n * 10 ^ k)).toList = (Nat.repr n).toList ++ List.replicate k '0' := by
  rw [Nat.toList_repr, Nat.toList_repr]
  induction k with
  | zero => simp
  | succ k ih =>
    have hpos : 0 < n * 10 ^ k := Nat.mul_pos (Nat.pos_of_ne_zero hn) (Nat.pow_pos (by decide))
    have hlarge : ¬n * 10 ^ k * 10 < 10 := by omega
    rw [Nat.pow_succ, ← Nat.mul_assoc, Nat.toDigits_eq_if (by decide), if_neg hlarge,
      Nat.mul_div_cancel _ (by decide), Nat.mul_mod_left, ih, List.replicate_succ',
      List.append_assoc]
    rfl

end Text

namespace DecimalForm

/-- Behind a point it does not matter how whole numbers end. -/
theorem layout_of_exponent_neg (form : DecimalForm) {decimal : Decimal} (pointZero : Bool)
    (hdigits : decimal.digits ≠ 0) (h : decimal.exponent < 0) :
    { form with pointZero }.layout decimal = form.layout decimal := by
  have hneg : ¬0 ≤ decimal.exponent := by omega
  simp only [layout, if_neg hdigits, placePoint, if_neg hneg]

end DecimalForm

namespace Double

theorem natAbs_truncate (x : Double) : x.truncate.natAbs = x.units / unitsPerOne := by
  rw [truncate]
  split
  · rw [Int.natAbs_neg, Int.natAbs_natCast]
  · rw [Int.natAbs_natCast]

theorem digits_shortest_ne_zero (tie : Tie) {x : Double} (hx : x.isFinite) (h : x.units ≠ 0) :
    (x.shortest tie).digits ≠ 0 := by
  intro hzero
  have hback := ofDecimal_shortest tie hx
  rw [hzero, ofDecimal_zero] at hback
  refine h ?_
  rw [← hback]
  simp [ofMagnitude, units]

/-- The integer that is written for a whole number without a point. -/
def shortestInt (x : Double) : Int :=
  let whole : Nat := (x.shortest .away).digits * 10 ^ (x.shortest .away).exponent.toNat
  if x.negative then -(whole : Int) else whole

end Double

namespace Value

variable {x y : Double}

theorem renderDouble_of_isFinite (hx : x.isFinite) :
    renderDouble x =
      if x.isWhole = true ∧ x.truncate.natAbs < 10 ^ 16 then
        (if x.negative then "-" else "") ++ Nat.repr x.truncate.natAbs ++ ".0"
      else expressionForm.write x := by
  have hlt : x.magnitude < Double.infinityMagnitude := of_decide_eq_true hx
  have hnan : ¬x.isNaN = true := by
    rw [Double.isNaN, decide_eq_true_iff]
    omega
  have hinfinite : ¬x.isInfinite = true := by
    rw [Double.isInfinite, decide_eq_true_iff]
    omega
  rw [renderDouble, if_neg hnan, if_neg hinfinite]
  simp only [Bool.and_eq_true, decide_eq_true_eq]
  rfl

/-- A finite number is written as a numeral that denotes it, with a point below `10 ^ 16`. -/
theorem exists_numeral_renderDouble (hx : x.isFinite) :
    ∃ n : Numeral, (renderDouble x).toList = (if x.negative then ['-'] else []) ++ n.text ∧
      n.value x.negative = x ∧ (x.truncate.natAbs < 10 ^ 16 → n.IsMarked) := by
  rw [renderDouble_of_isFinite hx]
  by_cases hpoint : x.isWhole = true ∧ x.truncate.natAbs < 10 ^ 16
  · obtain ⟨n, htext, hvalue, hmarked⟩ := DecimalForm.spells_placePoint_natCast true 0
      (isDigits_repr x.truncate.natAbs)
      fun h => ⟨(Numeral.ofNat x.truncate.natAbs).whole_eq_zero h, rfl⟩
    refine ⟨n, ?_, ?_, fun _ => hmarked rfl⟩
    · rw [if_pos hpoint, htext]
      cases x.negative <;> simp [DecimalForm.placePoint]
    · rw [hvalue, natOfDigits_repr, Double.natAbs_truncate]
      exact Double.ofDecimal_of_isWhole hpoint.1
  · by_cases hlt : x.truncate.natAbs < 10 ^ 16
    · -- The number is not whole, so its shortest decimal has digits behind the point.
      have hfraction : x.isWhole ≠ true := fun hwhole => hpoint ⟨hwhole, hlt⟩
      have hexponent : (x.shortest .away).exponent < 0 := by
        rw [← not_le, Double.exponent_shortest_nonneg_iff _ hx]
        exact hfraction
      have hdigits := Double.digits_shortest_ne_zero .away hx fun hzero =>
        hfraction (Double.isWhole_iff.2 ⟨hx, hzero ▸ Nat.dvd_zero _⟩)
      obtain ⟨n, htext, hvalue, hmarked⟩ :=
        DecimalForm.spells_layout { expressionForm with pointZero := true } (x.shortest .away)
      rw [DecimalForm.layout_of_exponent_neg _ _ hdigits hexponent] at htext
      refine ⟨n, ?_, ?_, fun _ => hmarked rfl⟩
      · rw [if_neg hpoint, DecimalForm.write, String.toList_ofList, htext]
        rfl
      · rw [hvalue, Double.ofDecimal_shortest _ hx]
    · obtain ⟨n, htext, hvalue, -⟩ := expressionForm.spells_layout (x.shortest .away)
      refine ⟨n, ?_, ?_, fun h => absurd h hlt⟩
      · rw [if_neg hpoint, DecimalForm.write, String.toList_ofList, htext]
        rfl
      · rw [hvalue, Double.ofDecimal_shortest _ hx]

/-- **The text of a finite number reads back as the number.** -/
theorem read?_renderDouble (hx : x.isFinite) :
    Double.read? (renderDouble x).toList = some x := by
  obtain ⟨n, htext, hvalue, -⟩ := exists_numeral_renderDouble hx
  rw [htext, n.read?_text, hvalue]

/-- **A number of at least `10 ^ 16` is written as an integer.** -/
theorem renderDouble_eq_toString (hx : x.isFinite) (h : 10 ^ 16 ≤ x.truncate.natAbs) :
    renderDouble x = toString x.shortestInt := by
  have hunits : 10 ^ 16 ≤ x.units / Double.unitsPerOne := Double.natAbs_truncate x ▸ h
  have hwhole : x.isWhole = true := Double.isWhole_of_le hx (le_trans (by decide) hunits)
  have hzero : x.units ≠ 0 := by
    intro hzero
    rw [hzero, Nat.zero_div] at hunits
    exact absurd hunits (by decide)
  have hdigits := Double.digits_shortest_ne_zero .away hx hzero
  have hexponent := Double.exponent_shortest_nonneg .away hwhole
  have hlayout : expressionForm.layout (x.shortest .away) =
      (Nat.repr ((x.shortest .away).digits * 10 ^ (x.shortest .away).exponent.toNat)).toList := by
    rw [repr_mul_ten_pow hdigits, DecimalForm.layout]
    simp only [if_neg hdigits, DecimalForm.placePoint, if_pos hexponent]
    exact List.append_nil _
  have hpoint : ¬(x.isWhole = true ∧ x.truncate.natAbs < 10 ^ 16) := fun hsmall =>
    absurd h (Nat.not_le.2 hsmall.2)
  refine String.toList_injective ?_
  rw [renderDouble_of_isFinite hx, if_neg hpoint, DecimalForm.write, String.toList_ofList,
    toList_toString, signed, Double.shortestInt]
  show _ ++ expressionForm.layout (x.shortest .away) = _
  have hpos : 0 < (x.shortest .away).digits * 10 ^ (x.shortest .away).exponent.toNat :=
    Nat.mul_pos (Nat.pos_of_ne_zero hdigits) (Nat.pow_pos (by decide))
  rw [hlayout]
  generalize (x.shortest .away).digits * 10 ^ (x.shortest .away).exponent.toNat = whole at hpos ⊢
  cases x.negative with
  | true => simp [hpos]
  | false => simp

/-! ### Numbers -/

theorem renderDouble_of_isInfinite (hx : x.isInfinite = true) :
    renderDouble x = if x.negative then "-float('inf')" else "float('inf')" := by
  have hmagnitude : x.magnitude = Double.infinityMagnitude := of_decide_eq_true hx
  have hnan : ¬x.isNaN = true := by
    rw [Double.isNaN, decide_eq_true_iff]
    omega
  rw [renderDouble, if_neg hnan, if_pos hx]

theorem isFinite_or_isInfinite (hx : x.isNaN = false) :
    x.isFinite = true ∨ x.isInfinite = true := by
  rw [Double.isNaN, decide_eq_false_iff_not] at hx
  rw [Double.isFinite, Double.isInfinite, decide_eq_true_iff, decide_eq_true_iff]
  omega

theorem read?_renderDouble_of_isInfinite (hx : x.isInfinite = true) :
    Double.read? (renderDouble x).toList = none ∧ readInt? (renderDouble x).toList = none := by
  rw [renderDouble_of_isInfinite hx]
  cases x.negative <;> exact ⟨rfl, rfl⟩

theorem eq_of_renderDouble_eq (hx : x.isNaN = false) (hy : y.isNaN = false)
    (h : renderDouble x = renderDouble y) : x = y := by
  rcases isFinite_or_isInfinite hx with hx | hx <;> rcases isFinite_or_isInfinite hy with hy | hy
  · have hread := read?_renderDouble hx
    rw [h, read?_renderDouble hy] at hread
    exact (Option.some.inj hread).symm
  · have hread := read?_renderDouble hx
    rw [h, (read?_renderDouble_of_isInfinite hy).1] at hread
    cases hread
  · have hread := read?_renderDouble hy
    rw [← h, (read?_renderDouble_of_isInfinite hx).1] at hread
    cases hread
  · have hmagnitude : x.magnitude = y.magnitude :=
      (of_decide_eq_true hx).trans (of_decide_eq_true hy).symm
    have hsign : x.negative = y.negative := by
      rw [renderDouble_of_isInfinite hx, renderDouble_of_isInfinite hy] at h
      cases hneg : x.negative <;> cases hneg' : y.negative <;> simp [hneg, hneg'] at h ⊢
    cases x
    cases y
    cases hmagnitude
    cases hsign
    rfl

/-- A number is written as an integer exactly if it is finite and at least `10 ^ 16`. -/
theorem toString_eq_renderDouble_iff (hx : x.isNaN = false) (i : Int) :
    toString i = renderDouble x ↔
      x.isFinite = true ∧ 10 ^ 16 ≤ x.truncate.natAbs ∧ i = x.shortestInt := by
  constructor
  · intro h
    have hread : readInt? (renderDouble x).toList = some i := by
      rw [← h, toList_toString, readInt?_signed]
    rcases isFinite_or_isInfinite hx with hx | hx
    · by_cases hlt : x.truncate.natAbs < 10 ^ 16
      · -- A point is not part of an integer.
        obtain ⟨n, htext, -, hmarked⟩ := exists_numeral_renderDouble hx
        have hnone := n.readInt?_text (hmarked hlt)
        rw [htext] at hread
        cases hneg : x.negative with
        | true =>
          rw [hneg, if_pos rfl, List.singleton_append, hnone.2] at hread
          cases hread
        | false =>
          rw [hneg, if_neg Bool.false_ne_true, List.nil_append, hnone.1] at hread
          cases hread
      · rw [renderDouble_eq_toString hx (Nat.not_lt.1 hlt), toList_toString,
          readInt?_signed] at hread
        exact ⟨hx, Nat.not_lt.1 hlt, (Option.some.inj hread).symm⟩
    · rw [(read?_renderDouble_of_isInfinite hx).2] at hread
      cases hread
  · rintro ⟨hx, hle, rfl⟩
    exact (renderDouble_eq_toString hx hle).symm

/-! ### Kinds of literals -/

/-- What a literal can be told by. -/
inductive LiteralKind where
  /-- It is a word. -/
  | word
  /-- It is a number. -/
  | number
  /-- It stands in quotes. -/
  | quoted
  deriving DecidableEq

/-- The kind of the literal of a value. -/
def literalKind : Value → LiteralKind
  | .bool _ => .word
  | .int _ | .float _ => .number
  | .text _ => .quoted

/-- The kind that the first character of a literal tells. -/
def kindOfInitial (c : Char) : LiteralKind :=
  if c = 'T' ∨ c = 'F' then .word else if c = '\'' ∨ c = '"' then .quoted else .number

theorem kindOfInitial_digit {c : Char} (h : c.isDigit = true) : kindOfInitial c = .number := by
  rw [kindOfInitial, if_neg, if_neg]
  · rintro (rfl | rfl) <;> cases h
  · rintro (rfl | rfl) <;> cases h

theorem head?_of_isNumeral {text : String} (h : Json.IsNumeral text) :
    text.toList.head?.map kindOfInitial = some .number := by
  obtain ⟨negative, n, htext⟩ := h
  rw [htext]
  cases negative with
  | true => rfl
  | false =>
    obtain ⟨c, rest, hcons, hc⟩ := n.exists_text_eq_cons
    rw [hcons]
    exact congrArg some (kindOfInitial_digit hc)

theorem renderDouble_cases (x : Double) :
    Json.IsNumeral (renderDouble x) ∨ renderDouble x = "float('nan')" ∨
      renderDouble x = "float('inf')" ∨ renderDouble x = "-float('inf')" := by
  cases hnan : x.isNaN with
  | true => exact .inr (.inl (by rw [renderDouble, if_pos hnan]))
  | false =>
    rcases isFinite_or_isInfinite hnan with hx | hx
    · obtain ⟨n, htext, -⟩ := exists_numeral_renderDouble hx
      exact .inl ⟨x.negative, n, htext⟩
    · rw [renderDouble_of_isInfinite hx]
      cases x.negative with
      | true => exact .inr (.inr (.inr rfl))
      | false => exact .inr (.inr (.inl rfl))

theorem head?_literal (v : Value) :
    v.literal.toList.head?.map kindOfInitial = some v.literalKind := by
  cases v with
  | bool b => cases b <;> rfl
  | int i => exact head?_of_isNumeral (Json.isNumeral_toString i.toInt)
  | float x =>
    show (renderDouble x).toList.head?.map kindOfInitial = some .number
    rcases renderDouble_cases x with h | h | h | h
    · exact head?_of_isNumeral h
    all_goals rw [h]; rfl
  | text s =>
    rw [literal, toList_quoted, List.head?_cons, Option.map_some]
    rcases quoteFor_cases s.toList with h | h <;> rw [h] <;> rfl

theorem literal_ne_of_kind {v w : Value} (h : v.literalKind ≠ w.literalKind) :
    v.literal ≠ w.literal := by
  intro heq
  have hkind := head?_literal v
  rw [heq, head?_literal] at hkind
  exact h (Option.some.inj hkind).symm

/-! ### Literals are on one line -/

theorem newline_notMem_of_isNumeral {text : String} (h : Json.IsNumeral text) :
    '\n' ∉ text.toList := by
  obtain ⟨negative, n, htext⟩ := h
  rw [htext, List.mem_append, not_or]
  constructor
  · cases negative <;> decide
  · intro hmem
    rcases n.isDigit_or_mem_marks hmem with h | h
    · exact absurd h (by decide)
    · exact absurd h (by decide)

theorem newline_notMem_quoted (s : String) : '\n' ∉ (quoted s).toList := by
  have hquote := quoteFor_cases s.toList
  have hne : '\n' ≠ quoteFor s.toList := by rcases hquote with h | h <;> rw [h] <;> decide
  rw [toList_quoted, List.mem_cons, List.mem_append, List.mem_singleton]
  rintro (h | h | h)
  · exact hne h
  · obtain ⟨c, -, hc⟩ := List.mem_flatMap.1 h
    exact absurd (isControl_of_mem_quoteChar hquote hc) (by decide)
  · exact hne h

/-- **No literal has a line feed**, whatever the value. -/
theorem newline_notMem_literal (v : Value) : '\n' ∉ v.literal.toList := by
  cases v with
  | bool b => cases b <;> decide
  | int i => exact newline_notMem_of_isNumeral (Json.isNumeral_toString i.toInt)
  | float x =>
    show '\n' ∉ (renderDouble x).toList
    rcases renderDouble_cases x with h | h | h | h
    · exact newline_notMem_of_isNumeral h
    all_goals rw [h]; decide
  | text s => exact newline_notMem_quoted s

/-! ### Equal literals -/

/-- The value is a floating-point number that is not a number. -/
def isNaN : Value → Bool
  | .float x => x.isNaN
  | _ => false

/-- The first value is the integer that is written for the second one, a floating-point number of at
least `10 ^ 16`. -/
def WrittenFor : Value → Value → Prop
  | .int i, .float x =>
    x.isFinite = true ∧ 10 ^ 16 ≤ x.truncate.natAbs ∧ i.toInt = x.shortestInt
  | _, _ => False

theorem literal_int_eq_float_iff {i : Int64} (hx : x.isNaN = false) :
    (Value.int i).literal = (Value.float x).literal ↔ WrittenFor (.int i) (.float x) :=
  toString_eq_renderDouble_iff hx i.toInt

theorem literal_eq_of_writtenFor {v w : Value} (hw : w.isNaN = false) (h : WrittenFor v w) :
    v.literal = w.literal := by
  cases v with
  | int i =>
    cases w with
    | float x => exact (literal_int_eq_float_iff hw).2 h
    | bool _ | int _ | text _ => cases h
  | bool _ | float _ | text _ => cases h

theorem eq_of_literal_int_eq {i j : Int64} (h : (Value.int i).literal = (Value.int j).literal) :
    i = j := by
  have hread := readInt?_signed false i.toInt
  rw [← toList_toString, show toString i.toInt = toString j.toInt from h, toList_toString,
    readInt?_signed] at hread
  exact Int64.toInt_inj.1 (Option.some.inj hread).symm

/-- **Values with the same literal are equal, or one is a floating-point number of at least
`10 ^ 16` and the other the integer that its shortest decimal denotes.**  Such two have the same
literal. -/
theorem literal_eq_iff {v w : Value} (hv : v.isNaN = false) (hw : w.isNaN = false) :
    v.literal = w.literal ↔ v = w ∨ WrittenFor v w ∨ WrittenFor w v := by
  constructor
  · intro h
    have hkind : v.literalKind = w.literalKind := by
      by_contra hkind
      exact literal_ne_of_kind hkind h
    cases v with
    | bool b =>
      cases w with
      | bool c =>
        left
        revert h
        cases b <;> cases c <;> decide
      | int _ | float _ | text _ => cases hkind
    | int i =>
      cases w with
      | int j => exact .inl (congrArg Value.int (eq_of_literal_int_eq h))
      | float x => exact .inr (.inl ((literal_int_eq_float_iff hw).1 h))
      | bool _ | text _ => cases hkind
    | float x =>
      cases w with
      | int j => exact .inr (.inr ((literal_int_eq_float_iff hv).1 h.symm))
      | float y => exact .inl (congrArg Value.float (eq_of_renderDouble_eq hv hw h))
      | bool _ | text _ => cases hkind
    | text s =>
      cases w with
      | text t => exact .inl (congrArg Value.text (quoted_injective h))
      | bool _ | int _ | float _ => cases hkind
  · rintro (rfl | h | h)
    · rfl
    · exact literal_eq_of_writtenFor hw h
    · exact (literal_eq_of_writtenFor hv h).symm

end Value

namespace Sample

/-- The largest number below `10 ^ 16`. -/
def pointed : Double := .ofInt 9999999999999998

/-- A number whose shortest decimal is not the number itself. -/
def pointless : Double := .ofInt (2 ^ 60)

end Sample

namespace Value

/-- The largest number below `10 ^ 16` shows its point.  The literal of `2 ^ 60` is that of another
integer. -/
theorem literal_near_limit :
    (Value.int 9999999999999998).literal ≠ (Value.float Sample.pointed).literal ∧
    (Value.int 1152921504606847000).literal = (Value.float Sample.pointless).literal ∧
    Sample.pointless.truncate = 1152921504606846976 := by
  have hsmall : (Value.float Sample.pointed).isNaN = false ∧
      ¬10 ^ 16 ≤ Sample.pointed.truncate.natAbs := by decide +kernel
  have hlarge : (Value.float Sample.pointless).isNaN = false ∧
      (Sample.pointless.isFinite = true ∧ 10 ^ 16 ≤ Sample.pointless.truncate.natAbs ∧
        (1152921504606847000 : Int64).toInt = Sample.pointless.shortestInt) ∧
      Sample.pointless.truncate = 1152921504606846976 := by decide +kernel
  refine ⟨fun h => ?_, ?_, hlarge.2.2⟩
  · rcases (literal_eq_iff rfl hsmall.1).1 h with h | h | h
    · cases h
    · exact hsmall.2 h.2.1
    · cases h
  · exact (literal_eq_iff rfl hlarge.1).2 (.inr (.inl hlarge.2.1))

/-- **A floating-point number and an integer can have the same literal**, so that the literal does
not tell the kind of a number. -/
theorem literal_kind_lost :
    (Value.float (.ofInt 10000000000000000)).isNaN = false ∧
    (Value.float (.ofInt 10000000000000000)).literal = "10000000000000000" ∧
    (Value.int 10000000000000000).literal = "10000000000000000" := by
  decide +kernel

end Value

end Blueprint
