import Mathlib.Algebra.Ring.Nat
import Tabula.Double.Basic

/-!
# The nearest number to an integer

Rounding keeps the order: the bits of the nearest number to a natural are its exponent followed by
its significand, and each of the two grows with the natural.

* `Double.overPower_bounds`: what is rounded to the significand.
* `Double.round_eq`: the bits, by exponent and significand.
* `Double.totalKey_ofInt_le`: the nearest numbers to integers are in the order of the integers.
-/

namespace Tabula

/-! ## Quotients -/

/-- A larger numerator is rounded to no smaller number. -/
theorem roundDiv_le_roundDiv {m n d : ℕ} (h : m ≤ n) : roundDiv m d ≤ roundDiv n d := by
  have hq : m / d ≤ n / d := Nat.div_le_div_right h
  have hm := Nat.div_add_mod m d
  have hn := Nat.div_add_mod n d
  rw [roundDiv, roundDiv]
  rcases Nat.lt_or_eq_of_le hq with hlt | heq
  · split <;> split <;> omega
  · -- the whole parts are the same, so the rests decide
    have hrest : m % d ≤ n % d := by
      rw [heq] at hm
      omega
    simp only [heq, Bool.or_eq_true, decide_eq_true_eq, Bool.and_eq_true, beq_iff_eq]
    split <;> split <;> omega

theorem le_roundDiv {q n d : ℕ} (hd : 0 < d) (h : q * d ≤ n) : q ≤ roundDiv n d := by
  have hq : q ≤ n / d := (Nat.le_div_iff_mul_le hd).mpr h
  rw [roundDiv]
  split <;> omega

theorem roundDiv_le {q n d : ℕ} (hd : 0 < d) (h : n < q * d) : roundDiv n d ≤ q := by
  have hq : n / d < q := (Nat.div_lt_iff_lt_mul hd).mpr h
  rw [roundDiv]
  split <;> omega

namespace Double

/-! ## Naturals -/

/-- A natural of `l + 1` bits, over the power that leaves `k + 1` of them in front of the point. -/
theorem overPower_bounds {m l : ℕ} (hle : 2 ^ l ≤ m) (hlt : m < 2 ^ (l + 1)) (k : ℕ) :
    0 < (overPower 2 m 1 (l - k)).2 ∧
      2 ^ k * (overPower 2 m 1 (l - k)).2 ≤ (overPower 2 m 1 (l - k)).1 ∧
      (overPower 2 m 1 (l - k)).1 < 2 ^ (k + 1) * (overPower 2 m 1 (l - k)).2 := by
  rw [overPower]
  rcases Nat.lt_or_ge l k with hkl | hkl
  · obtain ⟨i, rfl⟩ := Nat.exists_eq_add_of_lt hkl
    have hi : (-((l : ℤ) - (l + i + 1 : ℕ))).toNat = i + 1 := by omega
    rw [if_neg (by omega), hi]
    refine ⟨Nat.one_pos, ?_, ?_⟩
    · change 2 ^ (l + i + 1) * 1 ≤ m * 2 ^ (i + 1)
      rw [Nat.mul_one, Nat.add_assoc, Nat.pow_add]
      exact Nat.mul_le_mul_right _ hle
    · change m * 2 ^ (i + 1) < 2 ^ (l + i + 1 + 1) * 1
      have hsum : l + i + 1 + 1 = l + 1 + (i + 1) := by omega
      rw [Nat.mul_one, hsum, Nat.pow_add 2 (l + 1)]
      exact Nat.mul_lt_mul_of_pos_right hlt (Nat.two_pow_pos _)
  · obtain ⟨i, rfl⟩ := Nat.exists_eq_add_of_le hkl
    have hi : ((k + i : ℕ) - k : ℤ).toNat = i := by omega
    rw [if_pos (by omega), hi]
    refine ⟨Nat.mul_pos Nat.one_pos (Nat.two_pow_pos i), ?_, ?_⟩
    · change 2 ^ k * (1 * 2 ^ i) ≤ m
      rw [Nat.one_mul, ← Nat.pow_add]
      exact hle
    · change m < 2 ^ (k + 1) * (1 * 2 ^ i)
      rw [Nat.one_mul, ← Nat.pow_add, Nat.add_right_comm]
      exact hlt

/-- The significand of the nearest number to a natural. -/
def significand (m : ℕ) : ℕ :=
  roundDiv (overPower 2 m 1 (m.log2 - 52)).1 (overPower 2 m 1 (m.log2 - 52)).2

theorem significand_bounds {m : ℕ} (h : 0 < m) :
    2 ^ 52 ≤ significand m ∧ significand m ≤ 2 ^ 53 := by
  obtain ⟨hpos, hle, hlt⟩ :=
    overPower_bounds (Nat.log2_self_le (Nat.ne_of_gt h)) Nat.lt_log2_self 52
  exact ⟨le_roundDiv hpos hle, roundDiv_le hpos hlt⟩

/-- **The bits of the nearest number to a natural**: the exponent, and behind it the significand,
which carries into it if it is rounded up to another bit. -/
theorem round_eq {m : ℕ} (h : 0 < m) :
    Format.binary64.round m 1 =
      min ((m.log2 + 1022) * 2 ^ 52 + significand m) Format.binary64.infinity := by
  have hleast : Format.binary64.leastExponent = -1074 := by decide
  have hprecision : Format.binary64.precision = 53 := rfl
  have hhidden : Format.binary64.hidden = 2 ^ 52 := by decide
  have hone : Nat.log2 1 = 0 := by decide
  obtain ⟨hpos, hle, -⟩ :=
    overPower_bounds (Nat.log2_self_le (Nat.ne_of_gt h)) Nat.lt_log2_self 53
  have hlarge : ¬(overPower 2 m 1 (m.log2 - 53)).1 / (overPower 2 m 1 (m.log2 - 53)).2 <
      Nat.pow 2 53 := by
    rw [Nat.not_lt]
    exact (Nat.le_div_iff_mul_le hpos).mpr hle
  have hfirst : max (-1074 : ℤ) ((m.log2 : ℤ) - (0 : ℕ) - (53 : ℕ)) = m.log2 - 53 := by omega
  have hexponent : (m.log2 : ℤ) - 53 + 1 = m.log2 - 52 := by omega
  obtain ⟨hnormal, -⟩ := significand_bounds h
  have hassemble : Format.binary64.assemble (significand m) (m.log2 - 52) =
      (m.log2 + 1022) * 2 ^ 52 + significand m := by
    have hbiased : ((m.log2 : ℤ) - 52 - -1074 + 1).toNat = m.log2 + 1023 := by omega
    rw [Format.assemble, hhidden, hleast, if_neg (Nat.not_lt.mpr hnormal), hbiased]
    omega
  rw [Format.round, if_neg (Nat.ne_of_gt h), hleast, hprecision, hone, hfirst]
  simp only [if_neg hlarge, hexponent]
  exact congrArg (min · _) hassemble

/-- Rounding keeps the order of naturals. -/
theorem round_le_round {m n : ℕ} (h : m ≤ n) :
    Format.binary64.round m 1 ≤ Format.binary64.round n 1 := by
  rcases Nat.eq_zero_or_pos m with rfl | hm
  · exact Nat.zero_le _
  · have hn : 0 < n := Nat.lt_of_lt_of_le hm h
    obtain ⟨-, hsm⟩ := significand_bounds hm
    obtain ⟨hsn, -⟩ := significand_bounds hn
    have hlog : m.log2 ≤ n.log2 := by
      have hm' := Nat.log2_self_le (Nat.ne_of_gt hm)
      exact (Nat.le_log2 (Nat.ne_of_gt hn)).mpr (Nat.le_trans hm' h)
    rw [round_eq hm, round_eq hn]
    have hbits : (m.log2 + 1022) * 2 ^ 52 + significand m ≤
        (n.log2 + 1022) * 2 ^ 52 + significand n := by
      rcases Nat.lt_or_eq_of_le hlog with hlt | heq
      · -- the smaller number is rounded at most to the power of two above it
        omega
      · have hover : (overPower 2 m 1 (m.log2 - 52)).2 = (overPower 2 n 1 (n.log2 - 52)).2 ∧
            (overPower 2 m 1 (m.log2 - 52)).1 ≤ (overPower 2 n 1 (n.log2 - 52)).1 := by
          rw [heq, overPower, overPower]
          split
          · exact ⟨rfl, h⟩
          · exact ⟨rfl, Nat.mul_le_mul_right _ h⟩
        have hsig : significand m ≤ significand n := by
          rw [significand, significand, hover.1]
          exact roundDiv_le_roundDiv hover.2
        omega
    omega

/-! ## Integers -/

variable {negative : Bool} {bits : ℕ}

theorem isNegative_ofMagnitude (h : bits < Format.binary64.signBit) :
    (ofMagnitude negative bits).isNegative = negative := by
  have hsign : Format.binary64.signBit = 9223372036854775808 := by decide
  rw [hsign] at h
  cases negative <;>
    simp only [isNegative, ofMagnitude, hsign, UInt64.toNat_ofNat', Bool.false_eq_true, if_false,
      if_true, decide_eq_true_eq, decide_eq_false_iff_not] <;> omega

theorem magnitude_ofMagnitude (h : bits < Format.binary64.signBit) :
    (ofMagnitude negative bits).magnitude = bits := by
  have hsign : Format.binary64.signBit = 9223372036854775808 := by decide
  rw [hsign] at h
  cases negative <;>
    simp only [magnitude, ofMagnitude, hsign, UInt64.toNat_ofNat', Bool.false_eq_true, if_false,
      if_true] <;> omega

/-- The place of a number in the total order, by its sign and its bits. -/
theorem totalKey_ofMagnitude (h : bits < Format.binary64.signBit) :
    (ofMagnitude negative bits).totalKey = if negative then -(bits : ℤ) - 1 else bits := by
  rw [totalKey, isNegative_ofMagnitude h, magnitude_ofMagnitude h]

theorem totalKey_ofInt (i : ℤ) :
    (ofInt i).totalKey =
      if i < 0 then -(Format.binary64.round i.natAbs 1 : ℤ) - 1
      else Format.binary64.round i.natAbs 1 := by
  have hsmall : Format.binary64.round i.natAbs 1 < Format.binary64.signBit := by
    have hinfinity : Format.binary64.infinity < Format.binary64.signBit := by decide
    refine Nat.lt_of_le_of_lt ?_ hinfinity
    rw [Format.round]
    split
    · exact Nat.zero_le _
    · exact Nat.min_le_right _ _
  rw [ofInt, ofQuotient, totalKey_ofMagnitude hsmall]
  simp only [decide_eq_true_eq]

/-- **The nearest numbers to integers are in the order of the integers.** -/
theorem totalKey_ofInt_le {i j : ℤ} (h : i ≤ j) : (ofInt i).totalKey ≤ (ofInt j).totalKey := by
  rw [totalKey_ofInt, totalKey_ofInt]
  by_cases hi : i < 0
  · by_cases hj : j < 0
    · have hround := round_le_round (m := j.natAbs) (n := i.natAbs) (by omega)
      rw [if_pos hi, if_pos hj]
      omega
    · rw [if_pos hi, if_neg hj]
      omega
  · have hround := round_le_round (m := i.natAbs) (n := j.natAbs) (by omega)
    rw [if_neg hi, if_neg (by omega)]
    omega

end Double

end Tabula
