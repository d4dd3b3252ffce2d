import Mathlib.Data.Nat.Log
import Blueprint.Parameter
import Blueprint.Proofs.Double.Whole

/-!
# Ranges of integers

An integer parameter keeps the two ends of its range as doubles, and an integer that is checked
against them is rounded first.  Rounding is monotone on all integers (`rank_ofInt_mono`), infinities
included, and keeps each integer up to `2 ^ 53` as it is (`units_ofInt`).  So an integer below
`2 ^ 53` in magnitude keeps its neighbours apart from itself, and with them all integers beyond
(`rank_ofInt_lt`).

Main statement: an integer parameter with ends below `2 ^ 53` in magnitude accepts exactly the
integers of its range (`ParameterSpec.accepts_int_iff`).
-/

namespace Blueprint

namespace Double

/-! ### Rounding is monotone -/

theorem roundHalfEven_mono {m n : Nat} (d : Nat) (h : m ≤ n) :
    roundHalfEven m d ≤ roundHalfEven n d := by
  rcases (Nat.div_le_div_right (c := d) h).lt_or_eq with hlt | heq
  · calc roundHalfEven m d ≤ m / d + 1 := roundHalfEven_le m d
      _ ≤ n / d := hlt
      _ ≤ roundHalfEven n d := div_le_roundHalfEven n d
  · -- With one quotient, the larger number has the larger rest.
    have hrest : m % d ≤ n % d := by
      have hm := Nat.div_add_mod m d
      have hn := Nat.div_add_mod n d
      rw [heq] at hm
      omega
    simp only [roundHalfEven, heq, Bool.or_eq_true, decide_eq_true_iff, Bool.and_eq_true,
      beq_iff_eq]
    split_ifs <;> omega

/-- The kept bits are at most 53, or all bits are carried into the next power of two. -/
theorem roundHalfEven_le_two_mul_binade (n : Nat) :
    roundHalfEven n (2 ^ (n.log2 - 52)) ≤ 2 * binade := by
  rcases le_total 52 n.log2 with hlog | hlog
  · exact (roundHalfEven_bounds hlog).2
  · have hlt : n < 2 ^ 53 :=
      Nat.lt_log2_self.trans_le (Nat.pow_le_pow_right (by decide) (by omega))
    rw [Nat.sub_eq_zero_of_le hlog, Nat.pow_zero, roundHalfEven_one]
    exact hlt.le

/-- **A larger number of units is not rounded to a smaller double.** -/
theorem magnitudeOfQuotient_mono {m n : Nat} (h : m ≤ n) :
    magnitudeOfQuotient m 1 ≤ magnitudeOfQuotient n 1 := by
  have hlog : m.log2 - 52 ≤ n.log2 - 52 := by
    rw [Nat.log2_eq_log_two, Nat.log2_eq_log_two]
    exact Nat.sub_le_sub_right (Nat.log_mono_right h) 52
  rw [magnitudeOfQuotient_one, magnitudeOfQuotient_one]
  rcases hlog.eq_or_lt with heq | hlt
  · rw [heq]
    exact Nat.add_le_add_left (roundHalfEven_mono _ h) _
  · -- The larger number drops more bits, which counts for more than all that the smaller keeps.
    have hkept : binade ≤ roundHalfEven n (2 ^ (n.log2 - 52)) :=
      (roundHalfEven_bounds (by omega)).1
    calc (m.log2 - 52) * binade + roundHalfEven m (2 ^ (m.log2 - 52))
        ≤ (m.log2 - 52) * binade + 2 * binade :=
          Nat.add_le_add_left (roundHalfEven_le_two_mul_binade m) _
      _ = (m.log2 - 52 + 1) * binade + binade := by ring
      _ ≤ (n.log2 - 52) * binade + roundHalfEven n (2 ^ (n.log2 - 52)) :=
          Nat.add_le_add (Nat.mul_le_mul_right _ hlt) hkept

/-! ### Integers as doubles -/

theorem magnitude_ofInt (i : Int) :
    (ofInt i).magnitude =
      min (magnitudeOfQuotient (i.natAbs * unitsPerOne) 1) infinityMagnitude := rfl

theorem isNaN_ofInt (i : Int) : (ofInt i).isNaN = false := by
  rw [isNaN, magnitude_ofInt, decide_eq_false_iff_not]
  omega

theorem rank_ofInt_natCast (n : Nat) : (ofInt n).rank = (ofInt n).magnitude := by
  have hsign : (ofInt n).negative = false := decide_eq_false (Int.natCast_nonneg n).not_gt
  rw [rank, hsign]
  rfl

theorem rank_ofInt_neg (n : Nat) : (ofInt (-n)).rank = -(ofInt n).rank := by
  have hmagnitude : (ofInt (-n)).magnitude = (ofInt n).magnitude := by
    rw [magnitude_ofInt, magnitude_ofInt, Int.natAbs_neg]
  rw [rank_ofInt_natCast, rank, hmagnitude]
  split_ifs with hsign
  · rfl
  · -- Only zero has no sign to change.
    have hzero : n = 0 := by
      by_contra hne
      exact hsign (decide_eq_true (by omega))
    rw [hzero, magnitude_ofInt, Int.natAbs_natCast, Nat.zero_mul,
      magnitudeOfQuotient_of_lt (by decide), Nat.zero_min]
    rfl

theorem rank_ofInt_natCast_mono {m n : Nat} (h : m ≤ n) : (ofInt m).rank ≤ (ofInt n).rank := by
  have hunits : m * unitsPerOne ≤ n * unitsPerOne := Nat.mul_le_mul_right _ h
  have hmagnitude := magnitudeOfQuotient_mono hunits
  rw [rank_ofInt_natCast, rank_ofInt_natCast, magnitude_ofInt, magnitude_ofInt, Int.natAbs_natCast,
    Int.natAbs_natCast]
  omega

/-- **A larger integer is not rounded to a smaller double.** -/
theorem rank_ofInt_mono {i j : Int} (h : i ≤ j) : (ofInt i).rank ≤ (ofInt j).rank := by
  have hzero (n : Nat) : 0 ≤ (ofInt n).rank := by
    rw [rank_ofInt_natCast]
    exact Int.natCast_nonneg _
  obtain ⟨m, rfl | rfl⟩ := Int.eq_nat_or_neg i <;> obtain ⟨n, rfl | rfl⟩ := Int.eq_nat_or_neg j
  · exact rank_ofInt_natCast_mono (by omega)
  · obtain ⟨rfl, rfl⟩ : m = 0 ∧ n = 0 := by omega
    exact le_rfl
  · rw [rank_ofInt_neg]
    exact (Int.neg_nonpos_of_nonneg (hzero m)).trans (hzero n)
  · rw [rank_ofInt_neg, rank_ofInt_neg]
    exact Int.neg_le_neg (rank_ofInt_natCast_mono (by omega))

/-! ### Integers that rounding keeps -/

theorem magnitude_ofInt_of_le {n : Nat} (h : n ≤ 2 ^ 53) :
    (ofInt n).magnitude = magnitudeOfQuotient (n * unitsPerOne) 1 := by
  have hunits : n * unitsPerOne ≤ 2 ^ 53 * unitsPerOne := Nat.mul_le_mul_right _ h
  have hmono := magnitudeOfQuotient_mono hunits
  have hfinite : magnitudeOfQuotient (2 ^ 53 * unitsPerOne) 1 < infinityMagnitude := by
    decide +kernel
  rw [magnitude_ofInt, Int.natAbs_natCast]
  omega

/-- **Rounding keeps the integers up to `2 ^ 53`.**  The last one has a zero in the one place that is
dropped, and the others have no more places than are kept. -/
theorem units_ofInt {n : Nat} (h : n ≤ 2 ^ 53) : (ofInt n).units = n * unitsPerOne := by
  have hmagnitude := magnitude_ofInt_of_le h
  rcases Nat.eq_zero_or_pos n with rfl | hpos
  · rw [Nat.zero_mul, magnitudeOfQuotient_of_lt (by decide)] at hmagnitude
    rw [units, hmagnitude, Nat.zero_mul]
    rfl
  · have hlog : (n * unitsPerOne).log2 = n.log2 + pointBits := log2_mul_shiftLeft hpos.ne' _
    have hdvd : 2 ^ ((n * unitsPerOne).log2 - 52) ∣ n * unitsPerOne := by
      rcases h.eq_or_lt with rfl | hlt
      · decide +kernel
      · have hbits : n.log2 < 53 := (Nat.log2_lt hpos.ne').2 hlt
        rw [hlog, unitsPerOne_eq]
        exact (Nat.pow_dvd_pow 2 (by omega)).mul_left n
    obtain ⟨kept, hkept⟩ := hdvd
    have hbounds := roundHalfEven_bounds (n := n * unitsPerOne) (by rw [hlog, pointBits]; omega)
    have hround : roundHalfEven (n * unitsPerOne) (2 ^ ((n * unitsPerOne).log2 - 52)) = kept := by
      nth_rewrite 1 [hkept]
      rw [Nat.mul_comm, roundHalfEven_mul_self _ (Nat.two_pow_pos _)]
    rw [magnitudeOfQuotient_one] at hmagnitude
    rw [units_of_magnitude_eq hmagnitude hbounds.1 hbounds.2, hround, Nat.mul_comm, ← hkept]

theorem rank_ofInt_natCast_lt_succ {n : Nat} (h : n < 2 ^ 53) :
    (ofInt n).rank < (ofInt (n + 1 : Nat)).rank := by
  refine lt_of_le_of_ne (rank_ofInt_natCast_mono (Nat.le_succ n)) fun heq => ?_
  rw [rank_ofInt_natCast, rank_ofInt_natCast, Int.natCast_inj] at heq
  -- Doubles of one magnitude have the same units, which the integers have not.
  have hunits : n * unitsPerOne = (n + 1) * unitsPerOne := by
    rw [← units_ofInt h.le, ← units_ofInt h, units, units, heq]
  have hpos : 0 < unitsPerOne := by decide +kernel
  exact absurd (Nat.eq_of_mul_eq_mul_right hpos hunits) (Nat.ne_of_lt (Nat.lt_succ_self n))

theorem rank_ofInt_lt_succ {i : Int} (hlow : -2 ^ 53 ≤ i) (hhigh : i < 2 ^ 53) :
    (ofInt i).rank < (ofInt (i + 1)).rank := by
  rcases lt_or_ge i 0 with hneg | hpos
  · obtain ⟨n, rfl⟩ : ∃ n : Nat, i = -(n + 1 : Nat) := ⟨(-i - 1).toNat, by omega⟩
    have hnext : -((n + 1 : Nat) : Int) + 1 = -(n : Int) := by omega
    rw [hnext, rank_ofInt_neg, rank_ofInt_neg]
    exact Int.neg_lt_neg (rank_ofInt_natCast_lt_succ (by omega))
  · obtain ⟨n, rfl⟩ := Int.eq_ofNat_of_zero_le hpos
    exact rank_ofInt_natCast_lt_succ (by omega)

/-- **Different integers are rounded to different doubles if one of them is below `2 ^ 53` in
magnitude**, however large the other is. -/
theorem rank_ofInt_lt {i j : Int} (h : i < j) (hsmall : i.natAbs < 2 ^ 53 ∨ j.natAbs < 2 ^ 53) :
    (ofInt i).rank < (ofInt j).rank := by
  rcases hsmall with hi | hj
  · calc (ofInt i).rank < (ofInt (i + 1)).rank := rank_ofInt_lt_succ (by omega) (by omega)
      _ ≤ (ofInt j).rank := rank_ofInt_mono h
  · calc (ofInt i).rank ≤ (ofInt (j - 1)).rank := rank_ofInt_mono (by omega)
      _ < (ofInt (j - 1 + 1)).rank := rank_ofInt_lt_succ (by omega) (by omega)
      _ = (ofInt j).rank := by rw [Int.sub_add_cancel]

/-- Against an integer below `2 ^ 53` in magnitude, rounded integers compare as they are. -/
theorem le_ofInt_iff {i j : Int} (hsmall : i.natAbs < 2 ^ 53 ∨ j.natAbs < 2 ^ 53) :
    (ofInt i).le (ofInt j) = true ↔ i ≤ j := by
  simp only [le, isNaN_ofInt, Bool.not_false, Bool.true_and, decide_eq_true_iff]
  refine ⟨fun hrank => ?_, rank_ofInt_mono⟩
  by_contra hlt
  exact absurd hrank (rank_ofInt_lt (Int.not_le.1 hlt) hsmall.symm).not_ge

end Double

namespace ParameterSpec

theorem inRange_iff {spec : ParameterSpec} {low high : Double} (hmin : spec.min = some low)
    (hmax : spec.max = some high) (x : Double) :
    spec.inRange x = true ↔ low.le x = true ∧ x.le high = true := by
  rw [inRange, hmin, hmax, Bool.and_eq_true]
  rfl

/-- **An integer parameter accepts exactly the integers of its range**, if the ends of the range are
below `2 ^ 53` in magnitude.  That an integer is rounded before it is compared never takes it over
an end of the range, up to the largest integers there are. -/
theorem accepts_int_iff (name label : String) (default min max value : Int64)
    (hmin : min.toInt.natAbs < 2 ^ 53) (hmax : max.toInt.natAbs < 2 ^ 53) :
    (int name label default min max).accepts (.int value) = true ↔
      min.toInt ≤ value.toInt ∧ value.toInt ≤ max.toInt := by
  have hkind : (int name label default min max).accepts (.int value) =
      (int name label default min max).inRange (.ofInt value.toInt) := by
    simp [accepts, int]
  rw [hkind, inRange_iff rfl rfl, Double.le_ofInt_iff (.inl hmin), Double.le_ofInt_iff (.inr hmax)]

end ParameterSpec

namespace Sample

/-- The widest range whose ends are below `2 ^ 53` in magnitude. -/
def widest : ParameterSpec := .int "n" "N" 0 (-9007199254740991) 9007199254740991

end Sample

namespace ParameterSpec

/-- The ends of the widest range belong to it; their neighbours and the largest integer do not. -/
theorem widest_accepts :
    ((-9007199254740991 : Int64).toInt.natAbs < 2 ^ 53 ∧
      (9007199254740991 : Int64).toInt.natAbs < 2 ^ 53) ∧
    Sample.widest.accepts (.int 9007199254740991) = true ∧
    Sample.widest.accepts (.int (-9007199254740991)) = true ∧
    Sample.widest.accepts (.int 9007199254740992) = false ∧
    Sample.widest.accepts (.int (-9007199254740992)) = false ∧
    Sample.widest.accepts (.int Int64.maxValue) = false := by
  have hmin : (-9007199254740991 : Int64).toInt.natAbs < 2 ^ 53 := by decide
  have hmax : (9007199254740991 : Int64).toInt.natAbs < 2 ^ 53 := by decide
  have hiff (value : Int64) : Sample.widest.accepts (.int value) = true ↔
      (-9007199254740991 : Int64).toInt ≤ value.toInt ∧
        value.toInt ≤ (9007199254740991 : Int64).toInt :=
    accepts_int_iff "n" "N" 0 _ _ value hmin hmax
  refine ⟨⟨hmin, hmax⟩, (hiff _).2 (by decide), (hiff _).2 (by decide), ?_, ?_, ?_⟩ <;>
    · rw [← Bool.not_eq_true, hiff]
      decide

-- With an end at `2 ^ 53`, the next integer is rounded into the range.
example : (int "n" "N" 0 0 9007199254740992).accepts (.int 9007199254740993) = true := by
  decide +kernel

end ParameterSpec

end Blueprint
