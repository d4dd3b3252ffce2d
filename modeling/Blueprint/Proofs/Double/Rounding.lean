import Mathlib.Tactic.Ring
import Blueprint.Double.Shortest

/-!
# Rounding gives doubles back

Rounding depends on the quotient only and not on its two parts (`magnitudeOfQuotient_congr`).
Hence a decimal is rounded as the quotient that it is, powers of ten of any size included
(`ofDecimal_eq_ofQuotient`), and shifting its digits changes nothing (`ofDecimal_shift`).  A number
of units that a double has rounds to that double (`magnitudeOfQuotient_units`).

Main statement: the shortest decimal of a finite number reads back as the number
(`ofDecimal_shortest`).
-/

namespace Blueprint

namespace Double

/-! ### Quotients -/

theorem roundHalfEven_mul_right (n d : Nat) {k : Nat} (hk : 0 < k) :
    roundHalfEven (n * k) (d * k) = roundHalfEven n d := by
  have hlt : 2 * (n % d * k) < d * k ↔ 2 * (n % d) < d := by
    rw [← Nat.mul_assoc]
    exact Nat.mul_lt_mul_right hk
  have heq : 2 * (n % d * k) = d * k ↔ 2 * (n % d) = d := by
    rw [← Nat.mul_assoc]
    exact Nat.mul_left_inj (by omega)
  simp only [roundHalfEven, Nat.mul_div_mul_right _ _ hk, Nat.mul_mod_mul_right, beq_eq_decide,
    hlt, heq]

@[simp] theorem roundHalfEven_one (n : Nat) : roundHalfEven n 1 = n := by
  simp [roundHalfEven, Nat.mod_one]

theorem div_le_roundHalfEven (n d : Nat) : n / d ≤ roundHalfEven n d := by
  rw [roundHalfEven]
  split <;> omega

theorem magnitudeOfQuotient_mul_right (n d : Nat) {k : Nat} (hk : 0 < k) :
    magnitudeOfQuotient (n * k) (d * k) = magnitudeOfQuotient n d := by
  have hshift (s : Nat) : (d * k) <<< s = (d <<< s) * k := by
    rw [Nat.shiftLeft_eq, Nat.shiftLeft_eq, Nat.mul_right_comm]
  simp only [magnitudeOfQuotient, Nat.mul_div_mul_right _ _ hk, hshift,
    roundHalfEven_mul_right _ _ hk]

theorem magnitudeOfQuotient_congr {n d n' d' : Nat} (hd : 0 < d) (hd' : 0 < d')
    (h : n * d' = n' * d) : magnitudeOfQuotient n d = magnitudeOfQuotient n' d' := by
  calc magnitudeOfQuotient n d
      = magnitudeOfQuotient (n * d') (d * d') := (magnitudeOfQuotient_mul_right n d hd').symm
    _ = magnitudeOfQuotient (n' * d) (d' * d) := by rw [h, Nat.mul_comm d d']
    _ = magnitudeOfQuotient n' d' := magnitudeOfQuotient_mul_right n' d' hd

theorem ofQuotient_congr (negative : Bool) {n d n' d' : Nat} (hd : 0 < d) (hd' : 0 < d')
    (h : n * d' = n' * d) : ofQuotient negative n d = ofQuotient negative n' d' := by
  rw [ofQuotient, ofQuotient, magnitudeOfQuotient_congr hd hd']
  rw [Nat.mul_right_comm, h, Nat.mul_right_comm]

/-! ### Very small and very large quotients -/

theorem magnitudeOfQuotient_of_lt {n d : Nat} (h : 2 * n < d) : magnitudeOfQuotient n d = 0 := by
  have hq : n / d = 0 := Nat.div_eq_of_lt (by omega)
  have hr : n % d = n := Nat.mod_eq_of_lt (by omega)
  simp [magnitudeOfQuotient, roundHalfEven, hq, hr, h]

theorem infinityMagnitude_le_magnitudeOfQuotient {n d : Nat} (hlog : 2098 ≤ (n / d).log2) :
    infinityMagnitude ≤ magnitudeOfQuotient n d := by
  have hne : n / d ≠ 0 := by
    intro hzero
    rw [hzero, Nat.log2_zero] at hlog
    omega
  -- The kept bits are 53, so the significand has its leading bit.
  have hkept : binade ≤ n / (d <<< ((n / d).log2 - 52)) := by
    rw [Nat.shiftLeft_eq, ← Nat.div_div_eq_div_mul, Nat.le_div_iff_mul_le (Nat.two_pow_pos _)]
    calc binade * 2 ^ ((n / d).log2 - 52)
        = 2 ^ (52 + ((n / d).log2 - 52)) := by rw [Nat.pow_add]; rfl
      _ = 2 ^ (n / d).log2 := by rw [Nat.add_sub_cancel' (by omega)]
      _ ≤ n / d := Nat.log2_self_le hne
  have hround := hkept.trans (div_le_roundHalfEven n _)
  have hdropped : 2046 * binade ≤ ((n / d).log2 - 52) * binade :=
    Nat.mul_le_mul_right _ (by omega)
  have hsum : infinityMagnitude = 2046 * binade + binade := rfl
  rw [magnitudeOfQuotient, hsum]
  exact Nat.add_le_add hdropped hround

/-! ### Decimals -/

theorem log2_mul_shiftLeft {m : Nat} (hm : m ≠ 0) (s : Nat) :
    (m * 1 <<< s).log2 = m.log2 + s := by
  rw [Nat.one_shiftLeft]
  induction s with
  | zero => simp
  | succ s ih =>
    have hne : m * 2 ^ s ≠ 0 := Nat.mul_ne_zero hm (Nat.two_pow_pos s).ne'
    rw [Nat.pow_succ, ← Nat.mul_assoc, Nat.mul_comm _ 2, Nat.log2_two_mul hne, ih]
    omega

/-- Digits that are too few for their negative exponent are less than half a unit. -/
theorem digits_lt_of_log2 {digits m : Nat}
    (h : ((digits.log2 + 1 : Nat) : Int) ≤ 3 * ((m : Int) - 330)) :
    2 * (digits * unitsPerOne) < 10 ^ m := by
  have hm : m = (m - 330) + 330 := by omega
  have hdigits : digits < 10 ^ (m - 330) := by
    calc digits < 2 ^ (digits.log2 + 1) := Nat.lt_log2_self
      _ ≤ 2 ^ (3 * (m - 330)) := Nat.pow_le_pow_right (by decide) (by omega)
      _ = 8 ^ (m - 330) := by rw [Nat.pow_mul]
      _ ≤ 10 ^ (m - 330) := Nat.pow_le_pow_left (by decide) _
  have hunit : 2 * unitsPerOne ≤ 10 ^ 330 := by decide +kernel
  calc 2 * (digits * unitsPerOne)
      = digits * (2 * unitsPerOne) := by ring
    _ < 10 ^ (m - 330) * (2 * unitsPerOne) :=
      Nat.mul_lt_mul_of_pos_right hdigits (by decide +kernel)
    _ ≤ 10 ^ (m - 330) * 10 ^ 330 := Nat.mul_le_mul_left _ hunit
    _ = 10 ^ m := by rw [← Nat.pow_add, ← hm]

/-- Digits with a large exponent are past all finite numbers. -/
theorem log2_digits_of_exponent {digits e : Nat} (hdigits : digits ≠ 0) (he : 310 ≤ e) :
    2098 ≤ (digits * 10 ^ e * unitsPerOne).log2 := by
  have hne : digits * 10 ^ e ≠ 0 := Nat.mul_ne_zero hdigits (Nat.pow_pos (by decide)).ne'
  have hle {b k : Nat} (hbk : 2 ^ b ≤ 10 ^ k) (hke : k ≤ e) : b ≤ (digits * 10 ^ e).log2 := by
    refine (Nat.le_log2 hne).2 ?_
    calc 2 ^ b ≤ 10 ^ k := hbk
      _ ≤ 10 ^ e := Nat.pow_le_pow_right (by decide) hke
      _ ≤ digits * 10 ^ e := Nat.le_mul_of_pos_left _ (Nat.pos_of_ne_zero hdigits)
  have hlog := hle (b := 1024) (k := 310) (by decide +kernel) he
  rw [unitsPerOne, log2_mul_shiftLeft hne]
  omega

/-- A decimal is rounded as a quotient; that very large and very small ones are sorted out before
does not show. -/
theorem ofDecimal_eq_ofQuotient (negative : Bool) (digits : Nat) (exponent : Int) :
    ofDecimal negative digits exponent =
      ofQuotient negative (digits * 10 ^ exponent.toNat) (10 ^ (-exponent).toNat) := by
  rw [ofDecimal]
  split_ifs with hsmall hlarge hpos
  · rw [ofQuotient, magnitudeOfQuotient_of_lt]
    rcases Bool.or_eq_true_iff.1 hsmall with hzero | hlog
    · rw [of_decide_eq_true hzero, Nat.zero_mul, Nat.zero_mul]
      exact Nat.pow_pos (by decide)
    · have hlog := of_decide_eq_true hlog
      have hexponent : exponent.toNat = 0 := by omega
      rw [hexponent, Nat.pow_zero, Nat.mul_one]
      exact digits_lt_of_log2 (by omega)
  · have hdigits : digits ≠ 0 := by rintro rfl; simp at hsmall
    have hlog := log2_digits_of_exponent hdigits (e := exponent.toNat) (by omega)
    rw [← Nat.div_one (_ * _)] at hlog
    have hinf := infinityMagnitude_le_magnitudeOfQuotient hlog
    have hexponent : (-exponent).toNat = 0 := by omega
    rw [infinity, ofQuotient, hexponent, Nat.pow_zero, ofMagnitude, ofMagnitude]
    congr 1
    omega
  · have hexponent : (-exponent).toNat = 0 := by omega
    rw [hexponent, Nat.pow_zero]
    rfl
  · have hexponent : exponent.toNat = 0 := by omega
    rw [hexponent, Nat.pow_zero, Nat.mul_one]
    rfl

@[simp] theorem ofDecimal_zero (negative : Bool) (exponent : Int) :
    ofDecimal negative 0 exponent = ofMagnitude negative 0 := by simp [ofDecimal]

/-- Zeros after the last digit can be counted in the exponent. -/
theorem ofDecimal_shift (negative : Bool) (digits k : Nat) (exponent : Int) :
    ofDecimal negative (digits * 10 ^ k) (exponent - k) = ofDecimal negative digits exponent := by
  rw [ofDecimal_eq_ofQuotient, ofDecimal_eq_ofQuotient]
  refine ofQuotient_congr negative (Nat.pow_pos (by decide)) (Nat.pow_pos (by decide)) ?_
  have hexponents : k + (exponent - k).toNat + (-exponent).toNat =
      exponent.toNat + (-(exponent - k)).toNat := by omega
  rw [Nat.mul_assoc, Nat.mul_assoc, Nat.mul_assoc, ← Nat.pow_add, ← Nat.pow_add, ← Nat.pow_add,
    ← hexponents, Nat.add_assoc]

/-! ### Reading back -/

theorem magnitudeOfQuotient_units (x : Double) : magnitudeOfQuotient x.units 1 = x.magnitude := by
  have hfraction : x.magnitude % binade < binade := Nat.mod_lt _ (by decide)
  have hsplit : x.magnitude / binade * binade + x.magnitude % binade = x.magnitude :=
    Nat.div_add_mod' _ _
  rw [units]
  split_ifs with hexponent
  · -- A subnormal number has at most 52 bits: none is dropped.
    have hlog : (x.magnitude % binade).log2 - 52 = 0 := by
      have : (x.magnitude % binade).log2 ≤ 52 := by
        by_cases hzero : x.magnitude % binade = 0
        · simp [hzero]
        · exact Nat.le_of_lt ((Nat.log2_lt hzero).2 hfraction)
      omega
    rw [magnitudeOfQuotient, Nat.div_one, hlog, Nat.shiftLeft_zero, roundHalfEven_one]
    rw [hexponent] at hsplit
    omega
  · -- A normal number has 53 bits before its zeros: exactly the zeros are dropped.
    generalize x.magnitude / binade = e at hexponent hsplit
    generalize x.magnitude % binade = f at hfraction hsplit
    have hlog : (binade + f).log2 = 52 :=
      (Nat.log2_eq_iff (by simp [binade])).2 ⟨Nat.le_add_right _ _, Nat.add_lt_add_left hfraction _⟩
    have hdropped : ((binade + f) * 2 ^ (e - 1)).log2 - 52 = e - 1 := by
      rw [← Nat.one_shiftLeft, log2_mul_shiftLeft (by simp [binade]), hlog]
      omega
    have hround : roundHalfEven ((binade + f) * 2 ^ (e - 1)) (1 * 2 ^ (e - 1)) = binade + f := by
      rw [roundHalfEven_mul_right _ _ (Nat.two_pow_pos _), roundHalfEven_one]
    rw [magnitudeOfQuotient, Nat.div_one, Nat.shiftLeft_eq, Nat.shiftLeft_eq, hdropped, hround,
      ← hsplit]
    obtain ⟨k, rfl⟩ := Nat.exists_eq_add_one_of_ne_zero hexponent
    rw [Nat.add_sub_cancel, Nat.add_mul, Nat.one_mul, Nat.add_assoc]

theorem ofMagnitude_magnitude {x : Double} (h : x.isFinite) :
    ofMagnitude x.negative x.magnitude = x := by
  have hlt : x.magnitude < infinityMagnitude := of_decide_eq_true h
  rw [ofMagnitude]
  congr 1
  omega

theorem ofDecimal_mul_five_pow (negative : Bool) (n k : Nat) :
    ofDecimal negative (n * Nat.pow 5 k) (-k) = ofQuotient negative n (1 <<< k) := by
  rw [ofDecimal_eq_ofQuotient, Int.neg_neg, Int.toNat_natCast, Int.toNat_neg_natCast, Nat.pow_zero,
    Nat.mul_one, Nat.one_shiftLeft]
  refine ofQuotient_congr negative (Nat.pow_pos (by decide)) (Nat.two_pow_pos k) ?_
  rw [Nat.pow_eq, Nat.mul_assoc, ← Nat.mul_pow]

theorem ofDecimal_exactDecimal {x : Double} (h : x.isFinite) :
    ofDecimal x.negative x.exactDecimal.digits x.exactDecimal.exponent = x := by
  have hone : 0 < unitsPerOne := by decide +kernel
  have hunits : magnitudeOfQuotient (x.units * unitsPerOne) unitsPerOne = x.magnitude := by
    rw [← magnitudeOfQuotient_units x]
    exact magnitudeOfQuotient_congr hone Nat.one_pos (Nat.mul_one _)
  calc ofDecimal x.negative x.exactDecimal.digits x.exactDecimal.exponent
      = ofQuotient x.negative x.units unitsPerOne :=
        ofDecimal_mul_five_pow x.negative x.units 1074
    _ = ofMagnitude x.negative x.magnitude := by rw [ofQuotient, hunits]
    _ = x := ofMagnitude_magnitude h

theorem ofDecimal_of_gridHit {tie : Tie} {x : Double} {exponent : Int} {digits : Nat}
    (h : x.gridHit tie exponent = some digits) : ofDecimal x.negative digits exponent = x := by
  suffices x.readsBack digits exponent by exact of_decide_eq_true this
  rw [gridHit] at h
  simp only at h
  split at h
  · cases h
  · cases h; assumption
  · cases h; assumption
  · -- Both neighbours read back, so it does not matter which of them is taken.
    split at h
    · cases h; assumption
    · split at h
      · cases h; assumption
      · split at h
        · cases h; assumption
        · split at h <;> cases h <;> assumption

/-- Whatever grid the search ends on, its decimal reads back. -/
theorem ofDecimal_searchGrids (tie : Tie) {x : Double} (h : x.isFinite) (steps : Nat)
    (exponent : Int) :
    ofDecimal x.negative (x.searchGrids tie steps exponent).digits
      (x.searchGrids tie steps exponent).exponent = x := by
  induction steps generalizing exponent with
  | zero => exact ofDecimal_exactDecimal h
  | succ steps ih =>
    rw [searchGrids]
    split
    case h_1 digits hhit => exact ofDecimal_of_gridHit hhit
    case h_2 => exact ih (exponent - 1)

/-- **The shortest decimal of a finite number reads back as the number**, whichever way ties
go. -/
theorem ofDecimal_shortest (tie : Tie) {x : Double} (h : x.isFinite) :
    ofDecimal x.negative (x.shortest tie).digits (x.shortest tie).exponent = x := by
  rw [shortest]
  split_ifs with hzero
  · have hmagnitude : x.magnitude = 0 := by
      rw [← magnitudeOfQuotient_units x, hzero]
      exact magnitudeOfQuotient_of_lt (by decide)
    have hx := ofMagnitude_magnitude h
    rw [hmagnitude] at hx
    exact hx
  · exact ofDecimal_searchGrids tie h _ _

end Double

end Blueprint
