import Blueprint.Proofs.Double.Rounding

/-!
# Whole numbers and their shortest decimals

Rounding an integer gives a whole number (`isWhole_of_ofDecimal`), and a whole number is the one
that its own digits round to (`ofDecimal_of_isWhole`).  So a grid of whole numbers is fine enough
for a whole number, and for one of more digits than the search tries, so is the last grid that it
tries: the neighbour below is nearer than a quarter of the distance to the next double
(`readsBack_of_four_mul_le`).

Main statement: the shortest decimal of a finite number has no digits behind the point exactly if
the number is whole (`exponent_shortest_nonneg_iff`).
-/

namespace Blueprint

namespace Double

/-! ### Units of rounded numbers -/

theorem roundHalfEven_le (n d : Nat) : roundHalfEven n d ≤ n / d + 1 := by
  rw [roundHalfEven]
  split <;> omega

theorem roundHalfEven_mul_self (k : Nat) {d : Nat} (hd : 0 < d) : roundHalfEven (k * d) d = k := by
  have h := roundHalfEven_mul_right k 1 hd
  rwa [Nat.one_mul, roundHalfEven_one] at h

theorem roundHalfEven_sub {k d r : Nat} (hk : 0 < k) (hr : 0 < r) (hhalf : 2 * r < d) :
    roundHalfEven (k * d - r) d = k := by
  obtain ⟨k, rfl⟩ := Nat.exists_eq_add_one_of_ne_zero hk.ne'
  have hsplit : (k + 1) * d - r = d * k + (d - r) := by
    rw [Nat.add_mul, Nat.one_mul, Nat.mul_comm k d]
    omega
  have hdiv : (d * k + (d - r)) / d = k := by
    rw [Nat.mul_add_div (by omega), Nat.div_eq_of_lt (by omega), Nat.add_zero]
  have hmod : (d * k + (d - r)) % d = d - r := by
    rw [Nat.mul_add_mod, Nat.mod_eq_of_lt (by omega)]
  have hup : ¬(2 * (d - r) < d ∨ (2 * (d - r) = d ∧ k % 2 = 0)) := by omega
  rw [hsplit]
  simpa [roundHalfEven, hdiv, hmod] using hup

/-- A magnitude is a significand behind a number of dropped bits, also if the significand has
carried into the next power of two. -/
theorem units_of_magnitude_eq {x : Double} {dropped significand : Nat}
    (h : x.magnitude = dropped * binade + significand) (hlow : binade ≤ significand)
    (hhigh : significand ≤ 2 * binade) : x.units = significand * 2 ^ dropped := by
  have hpos : 0 < binade := by decide
  rcases hhigh.lt_or_eq with hlt | rfl
  · obtain ⟨fraction, rfl⟩ := Nat.exists_eq_add_of_le hlow
    have hmagnitude : x.magnitude = binade * (dropped + 1) + fraction := by
      rw [h, Nat.mul_add, Nat.mul_comm binade dropped]
      omega
    have hdiv : x.magnitude / binade = dropped + 1 := by
      rw [hmagnitude, Nat.mul_add_div hpos, Nat.div_eq_of_lt (by omega), Nat.add_zero]
    have hmod : x.magnitude % binade = fraction := by
      rw [hmagnitude, Nat.mul_add_mod, Nat.mod_eq_of_lt (by omega)]
    rw [units, hdiv, hmod]
    simp [Nat.shiftLeft_eq]
  · have hmagnitude : x.magnitude = binade * (dropped + 2) := by
      rw [h, Nat.mul_add, Nat.mul_comm binade dropped, Nat.mul_comm 2]
    have hdiv : x.magnitude / binade = dropped + 2 := by
      rw [hmagnitude, Nat.mul_div_cancel_left _ hpos]
    have hmod : x.magnitude % binade = 0 := by rw [hmagnitude, Nat.mul_mod_right]
    rw [units, hdiv, hmod]
    simp [Nat.shiftLeft_eq, Nat.pow_succ]
    ring

/-- A number that is not subnormal has a significand of 53 bits. -/
theorem exists_significand {x : Double} (h : binade ≤ x.units) :
    ∃ dropped significand, binade ≤ significand ∧ significand < 2 * binade ∧
      x.magnitude = dropped * binade + significand ∧ x.units = significand * 2 ^ dropped := by
  have hfraction : x.magnitude % binade < binade := Nat.mod_lt _ (by decide)
  have hsplit : x.magnitude / binade * binade + x.magnitude % binade = x.magnitude :=
    Nat.div_add_mod' _ _
  have hexponent : x.magnitude / binade ≠ 0 := by
    intro hzero
    rw [units, hzero] at h
    exact absurd h (Nat.not_le.2 hfraction)
  obtain ⟨dropped, hdropped⟩ := Nat.exists_eq_add_one_of_ne_zero hexponent
  refine ⟨dropped, binade + x.magnitude % binade, Nat.le_add_right _ _, by omega, ?_, ?_⟩
  · rw [hdropped, Nat.add_mul, Nat.one_mul] at hsplit
    omega
  · rw [units, hdropped]
    simp [Nat.shiftLeft_eq]

theorem magnitudeOfQuotient_one (n : Nat) :
    magnitudeOfQuotient n 1 =
      (n.log2 - 52) * binade + roundHalfEven n (2 ^ (n.log2 - 52)) := by
  rw [magnitudeOfQuotient, Nat.div_one, Nat.shiftLeft_eq, Nat.one_mul]

theorem roundHalfEven_bounds {n : Nat} (h : 52 ≤ n.log2) :
    binade ≤ roundHalfEven n (2 ^ (n.log2 - 52)) ∧
      roundHalfEven n (2 ^ (n.log2 - 52)) ≤ 2 * binade := by
  have hne : n ≠ 0 := by
    rintro rfl
    exact absurd h (by decide)
  have hlog : n.log2 = 52 + (n.log2 - 52) := by omega
  have hlow : binade ≤ n / 2 ^ (n.log2 - 52) := by
    rw [Nat.le_div_iff_mul_le (Nat.two_pow_pos _)]
    calc binade * 2 ^ (n.log2 - 52) = 2 ^ n.log2 := by
          nth_rewrite 2 [hlog]
          rw [Nat.pow_add]
          rfl
      _ ≤ n := Nat.log2_self_le hne
  have hhigh : n / 2 ^ (n.log2 - 52) < 2 * binade := by
    rw [Nat.div_lt_iff_lt_mul (Nat.two_pow_pos _)]
    calc n < 2 ^ (n.log2 + 1) := Nat.lt_log2_self
      _ = 2 * binade * 2 ^ (n.log2 - 52) := by
          nth_rewrite 1 [hlog]
          rw [Nat.add_right_comm, Nat.pow_add]
          rfl
  exact ⟨hlow.trans (div_le_roundHalfEven _ _), (roundHalfEven_le _ _).trans hhigh⟩

/-! ### Whole numbers -/

theorem isWhole_iff {x : Double} :
    x.isWhole = true ↔ x.isFinite = true ∧ unitsPerOne ∣ x.units := by
  rw [isWhole, Bool.and_eq_true, decide_eq_true_iff, Nat.dvd_iff_mod_eq_zero]

/-- The number of bits behind the point. -/
def pointBits : Nat := 1074

theorem unitsPerOne_eq : unitsPerOne = 2 ^ pointBits := Nat.one_shiftLeft pointBits

/-- Rounding an integer gives a whole number: bits behind the point are not there to be kept. -/
theorem unitsPerOne_dvd_of_magnitude_eq {x : Double} {n : Nat}
    (h : x.magnitude = magnitudeOfQuotient (n * unitsPerOne) 1) : unitsPerOne ∣ x.units := by
  by_cases hn : n = 0
  · rw [hn, Nat.zero_mul, magnitudeOfQuotient_of_lt (by decide)] at h
    rw [units, h]
    exact Nat.dvd_zero _
  · have hlog : (n * unitsPerOne).log2 = n.log2 + 1074 := log2_mul_shiftLeft hn 1074
    have hbounds := roundHalfEven_bounds (n := n * unitsPerOne) (by omega)
    rw [magnitudeOfQuotient_one] at h
    rw [units_of_magnitude_eq h hbounds.1 hbounds.2, hlog]
    generalize n.log2 + 1074 - 52 = dropped
    rcases le_total pointBits dropped with hbits | hbits
    · rw [unitsPerOne_eq]
      exact (Nat.pow_dvd_pow 2 hbits).mul_left _
    · -- No more bits are dropped than the integer has zeros, so that it is kept as it is.
      have hzeros := Nat.pow_sub_mul_pow 2 hbits
      rw [← unitsPerOne_eq] at hzeros
      rw [← hzeros, ← Nat.mul_assoc, roundHalfEven_mul_self _ (Nat.two_pow_pos _), Nat.mul_assoc]
      exact Nat.dvd_mul_left _ _

theorem magnitude_of_ofQuotient {x : Double} (hx : x.isFinite) {n d : Nat}
    (h : ofQuotient x.negative n d = x) :
    x.magnitude = magnitudeOfQuotient (n * unitsPerOne) d := by
  have hmagnitude := congrArg magnitude h
  rw [ofQuotient, ofMagnitude] at hmagnitude
  have hlt : x.magnitude < infinityMagnitude := of_decide_eq_true hx
  simp only at hmagnitude
  omega

theorem isWhole_of_ofDecimal {x : Double} (hx : x.isFinite) {digits : Nat} {exponent : Int}
    (h : ofDecimal x.negative digits exponent = x) (hexponent : 0 ≤ exponent) :
    x.isWhole = true := by
  have hnone : (-exponent).toNat = 0 := by omega
  rw [ofDecimal_eq_ofQuotient, hnone, Nat.pow_zero] at h
  exact isWhole_iff.2 ⟨hx, unitsPerOne_dvd_of_magnitude_eq (magnitude_of_ofQuotient hx h)⟩

theorem ofDecimal_of_isWhole {x : Double} (h : x.isWhole = true) :
    ofDecimal x.negative (x.units / unitsPerOne) 0 = x := by
  obtain ⟨hx, hdvd⟩ := isWhole_iff.1 h
  rw [ofDecimal_eq_ofQuotient]
  show ofQuotient x.negative (x.units / unitsPerOne * 1) 1 = x
  rw [Nat.mul_one, ofQuotient, Nat.div_mul_cancel hdvd, magnitudeOfQuotient_units,
    ofMagnitude_magnitude hx]

theorem isWhole_of_le {x : Double} (hx : x.isFinite) (h : 2 * binade ≤ x.units / unitsPerOne) :
    x.isWhole = true := by
  have hpos : 0 < unitsPerOne := by decide +kernel
  rw [Nat.le_div_iff_mul_le hpos] at h
  have hnormal : binade ≤ x.units := by
    refine le_trans ?_ h
    calc binade ≤ 2 * binade * 1 := by omega
      _ ≤ 2 * binade * unitsPerOne := Nat.mul_le_mul_left _ hpos
  obtain ⟨dropped, significand, -, hlt, -, hunits⟩ := exists_significand hnormal
  refine isWhole_iff.2 ⟨hx, ?_⟩
  rw [unitsPerOne_eq, hunits] at h ⊢
  generalize pointBits = bits at h ⊢
  -- A significand below `2 ^ 53` needs as many bits behind it as there are behind the point.
  have hpow : 2 * binade * 2 ^ bits < 2 * binade * 2 ^ dropped :=
    lt_of_le_of_lt h (Nat.mul_lt_mul_of_pos_right hlt (Nat.two_pow_pos _))
  have hbits : bits < dropped :=
    (Nat.pow_lt_pow_iff_right (by decide)).1 (Nat.lt_of_mul_lt_mul_left hpow)
  exact (Nat.pow_dvd_pow 2 hbits.le).mul_left _

/-! ### Grids for whole numbers -/

theorem log2_eq_of_bounds {n dropped : Nat} (hlow : binade * 2 ^ dropped ≤ n)
    (hhigh : n < 2 * binade * 2 ^ dropped) : n.log2 = 52 + dropped := by
  have hne : n ≠ 0 := by
    rintro rfl
    exact absurd hlow (Nat.not_le.2 (Nat.mul_pos (by decide) (Nat.two_pow_pos _)))
  refine (Nat.log2_eq_iff hne).2 ⟨?_, ?_⟩
  · rw [Nat.pow_add]
    exact hlow
  · rw [Nat.add_right_comm, Nat.pow_add]
    exact hhigh

theorem log2_le_of_lt {n : Nat} (h : n < binade) : n.log2 ≤ 52 := by
  by_cases hzero : n = 0
  · simp [hzero]
  · exact ((Nat.log2_lt hzero).2 h).le

/-- **A little less than a double is rounded to it.**  Less than a quarter of the distance to the
next larger double is less than half of that to the next smaller one, also for a power of two. -/
theorem magnitudeOfQuotient_mul_sub {significand dropped r : Nat} (hlow : binade ≤ significand)
    (hhigh : significand < 2 * binade) (hr : 4 * r < 2 ^ dropped) :
    magnitudeOfQuotient (significand * 2 ^ dropped - r) 1 = dropped * binade + significand := by
  have hupper := Nat.mul_lt_mul_of_pos_right hhigh (Nat.two_pow_pos dropped)
  rcases Nat.eq_zero_or_pos r with rfl | hpos
  · have hlower := Nat.mul_le_mul_right (2 ^ dropped) hlow
    rw [Nat.sub_zero, magnitudeOfQuotient_one, log2_eq_of_bounds hlower hupper,
      Nat.add_sub_cancel_left, roundHalfEven_mul_self _ (Nat.two_pow_pos _)]
  · rcases hlow.eq_or_lt with rfl | hlow
    · -- The double is a power of two, and what is less has one bit less.
      obtain ⟨dropped, rfl⟩ : ∃ k, dropped = k + 1 :=
        Nat.exists_eq_add_one_of_ne_zero (by rintro rfl; omega)
      have hdouble : binade * 2 ^ (dropped + 1) = 2 * binade * 2 ^ dropped := by
        rw [Nat.pow_succ]
        ring
      rw [Nat.pow_succ] at hr
      have hlog : (2 * binade * 2 ^ dropped - r).log2 = 52 + dropped := by
        refine log2_eq_of_bounds ?_ ?_ <;> simp only [binade] <;> omega
      rw [hdouble, magnitudeOfQuotient_one, hlog, Nat.add_sub_cancel_left,
        roundHalfEven_sub (by decide) hpos (by omega)]
      ring
    · have hlower := Nat.mul_le_mul_right (2 ^ dropped) (Nat.succ_le_of_lt hlow)
      rw [Nat.succ_mul] at hlower
      have hlog : (significand * 2 ^ dropped - r).log2 = 52 + dropped :=
        log2_eq_of_bounds (by omega) (by omega)
      rw [magnitudeOfQuotient_one, hlog, Nat.add_sub_cancel_left,
        roundHalfEven_sub (by omega) hpos (by omega)]

theorem onGrid_natCast (x : Double) (k : Nat) :
    (x.onGrid k).1 = x.units / (unitsPerOne * 10 ^ k) := by
  have hpos : ¬(k : Int) < 0 := by omega
  simp [onGrid, hpos]

theorem ofDecimal_natCast (negative : Bool) (digits k : Nat) :
    ofDecimal negative digits k =
      ofMagnitude negative (magnitudeOfQuotient (digits * 10 ^ k * unitsPerOne) 1) := by
  rw [ofDecimal_eq_ofQuotient, Int.toNat_natCast, Int.toNat_neg_natCast, Nat.pow_zero, ofQuotient]

/-- On a grid of whole numbers whose step is small enough, the neighbour below a number reads
back. -/
theorem readsBack_of_four_mul_le {x : Double} (hx : x.isFinite) {k : Nat}
    (h : 4 * (unitsPerOne * 10 ^ k) ≤ 2 ^ (x.units.log2 - 52)) :
    x.readsBack (x.onGrid k).1 k = true := by
  have hstep : 0 < unitsPerOne * 10 ^ k := Nat.mul_pos (by decide +kernel) (Nat.pow_pos (by decide))
  have hnormal : binade ≤ x.units := by
    by_contra hsmall
    rw [Nat.sub_eq_zero_of_le (log2_le_of_lt (Nat.not_le.1 hsmall))] at h
    omega
  obtain ⟨dropped, significand, hlow, hhigh, hmagnitude, hunits⟩ := exists_significand hnormal
  have hlog : x.units.log2 - 52 = dropped := by
    rw [hunits, log2_eq_of_bounds (Nat.mul_le_mul_right _ hlow)
      (Nat.mul_lt_mul_of_pos_right hhigh (Nat.two_pow_pos _)), Nat.add_sub_cancel_left]
  have hmultiple : x.units / (unitsPerOne * 10 ^ k) * 10 ^ k * unitsPerOne =
      x.units - x.units % (unitsPerOne * 10 ^ k) := by
    rw [Nat.mul_assoc, Nat.mul_comm (10 ^ k), ← Nat.div_mul_self_eq_mod_sub_self]
  have hmod := Nat.mod_lt x.units hstep
  rw [readsBack, decide_eq_true_iff, onGrid_natCast, ofDecimal_natCast, hmultiple]
  generalize x.units % (unitsPerOne * 10 ^ k) = r at hmod
  rw [hunits, magnitudeOfQuotient_mul_sub hlow hhigh (by rw [← hlog]; omega), ← hmagnitude,
    ofMagnitude_magnitude hx]

theorem readsBack_of_isWhole {x : Double} (h : x.isWhole = true) :
    x.readsBack (x.onGrid 0).1 0 = true := by
  have hgrid := x.onGrid_natCast 0
  rw [Nat.pow_zero, Nat.mul_one] at hgrid
  rw [readsBack, decide_eq_true_iff]
  exact hgrid ▸ ofDecimal_of_isWhole h

theorem gridHit_ne_none (tie : Tie) {x : Double} {exponent : Int}
    (h : x.readsBack (x.onGrid exponent).1 exponent = true) : x.gridHit tie exponent ≠ none := by
  intro hmiss
  rw [gridHit] at hmiss
  simp only [h] at hmiss
  split at hmiss
  · cases ‹true = false›
  · cases hmiss
  · cases ‹true = false›
  · split at hmiss
    · cases hmiss
    · split at hmiss
      · cases hmiss
      · split at hmiss
        · cases hmiss
        · split at hmiss <;> cases hmiss

/-- The search ends on no finer grid than one on which the neighbour below reads back. -/
theorem le_exponent_searchGrids (tie : Tie) {x : Double} {exponent : Int}
    (h : x.readsBack (x.onGrid exponent).1 exponent = true) {steps : Nat} {start : Int}
    (hstart : exponent ≤ start) (hsteps : start < exponent + steps) :
    exponent ≤ (x.searchGrids tie steps start).exponent := by
  induction steps generalizing start with
  | zero => omega
  | succ steps ih =>
    rw [searchGrids]
    split
    case h_1 => exact hstart
    case h_2 hmiss =>
      have hne : exponent ≠ start := by
        rintro rfl
        exact gridHit_ne_none tie h hmiss
      exact ih (by omega) (by omega)

theorem ten_pow_le_two_pow : ∀ k < 1026, 10 ^ (k * 30103 / 100000) ≤ 2 ^ (k + 1) := by
  decide +kernel

theorem log2_units_lt {x : Double} (hx : x.isFinite) : x.units.log2 < 2098 := by
  by_cases hnormal : binade ≤ x.units
  · obtain ⟨dropped, significand, hlow, hhigh, hmagnitude, hunits⟩ := exists_significand hnormal
    have hlt : x.magnitude < infinityMagnitude := of_decide_eq_true hx
    rw [hunits, log2_eq_of_bounds (Nat.mul_le_mul_right _ hlow)
      (Nat.mul_lt_mul_of_pos_right hhigh (Nat.two_pow_pos _))]
    simp only [infinityMagnitude, binade] at hlt hlow hmagnitude
    omega
  · have := log2_le_of_lt (Nat.not_le.1 hnormal)
    omega

/-- If the search does not get to the grid of all whole numbers, its last grid is fine enough. -/
theorem four_mul_grid_le {x : Double} (hx : x.isFinite) {k : Nat}
    (h : x.coarsestGrid = (k : Int) + 23) :
    4 * (unitsPerOne * 10 ^ k) ≤ 2 ^ (x.units.log2 - 52) := by
  have hlog := log2_units_lt hx
  rw [coarsestGrid] at h
  obtain ⟨j, hj⟩ : ∃ j, x.units.log2 = j + 1073 := Nat.exists_eq_add_of_le' (by omega)
  have hten := ten_pow_le_two_pow j (by omega)
  have hgrid : j * 30103 / 100000 = k + 22 := by omega
  have hpower : 10 ^ k ≤ 2 ^ (j - 55) := by
    have hbits : j + 1 = (j - 55) + 56 := by omega
    rw [hgrid, hbits, Nat.pow_add, Nat.pow_add] at hten
    refine Nat.le_of_mul_le_mul_right (le_trans ?_ hten) (Nat.two_pow_pos 56)
    exact Nat.mul_le_mul_left _ (by decide)
  have hexponent : x.units.log2 - 52 = pointBits + 2 + (j - 55) := by
    rw [hj, pointBits]
    omega
  calc 4 * (unitsPerOne * 10 ^ k)
      = unitsPerOne * 2 ^ 2 * 10 ^ k := by ring
    _ ≤ unitsPerOne * 2 ^ 2 * 2 ^ (j - 55) := Nat.mul_le_mul_left _ hpower
    _ = 2 ^ (x.units.log2 - 52) := by rw [hexponent, unitsPerOne_eq, Nat.pow_add, Nat.pow_add]

theorem exponent_shortest_nonneg (tie : Tie) {x : Double} (h : x.isWhole = true) :
    0 ≤ (x.shortest tie).exponent := by
  rw [shortest]
  split_ifs with hzero
  · exact Int.le_refl 0
  · obtain ⟨hx, hdvd⟩ := isWhole_iff.1 h
    have hlog : pointBits ≤ x.units.log2 := by
      rw [Nat.le_log2 hzero, ← unitsPerOne_eq]
      exact Nat.le_of_dvd (Nat.pos_of_ne_zero hzero) hdvd
    have hstart : 0 ≤ x.coarsestGrid := by
      rw [pointBits] at hlog
      rw [coarsestGrid]
      omega
    by_cases hlast : x.coarsestGrid ≤ 23
    · exact le_exponent_searchGrids tie (readsBack_of_isWhole h) hstart (by omega)
    · -- The search stops before it gets to the grid of all whole numbers.
      obtain ⟨k, hk⟩ := Int.eq_ofNat_of_zero_le (a := x.coarsestGrid - 23) (by omega)
      have hgrid := four_mul_grid_le hx (k := k) (by omega)
      have hend : (k : Int) ≤ (x.searchGrids tie 24 x.coarsestGrid).exponent :=
        le_exponent_searchGrids tie (readsBack_of_four_mul_le hx hgrid) (by omega) (by omega)
      omega

/-- **The shortest decimal of a finite number has no digits behind the point exactly if the number
is whole.** -/
theorem exponent_shortest_nonneg_iff (tie : Tie) {x : Double} (hx : x.isFinite) :
    0 ≤ (x.shortest tie).exponent ↔ x.isWhole = true :=
  ⟨isWhole_of_ofDecimal hx (ofDecimal_shortest tie hx), exponent_shortest_nonneg tie⟩

end Double

end Blueprint
