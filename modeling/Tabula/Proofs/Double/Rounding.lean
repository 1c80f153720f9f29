import Mathlib.Algebra.Order.Field.Power
import Mathlib.Algebra.Order.Field.Rat
import Mathlib.Algebra.Ring.Parity
import Mathlib.Tactic.FieldSimp
import Mathlib.Tactic.Linarith
import Mathlib.Tactic.Positivity
import Mathlib.Tactic.Ring
import Tabula.Proofs.Double.Nearest

/-!
# Rounding is to the nearest number

The numbers of a format are multiples of powers of two: the smallest ones of the least power, and
the others of the power that leaves the significand its full length. So a quotient is divided by the
power that leaves it that length, and rounded to a natural. No number of a smaller power is nearer,
since it lies below all that have the full length.

* `Format.value`: the number of some bits.
* `Format.IsNearest`, `Format.IsRounded`: what is nearest, and what that comes to.
* `Format.isRounded_round`: rounding gives it.
-/

namespace Tabula

/-! ## Naturals -/

section RoundDiv

variable {n d : ℕ}

/-- How far a quotient can be from what it is rounded to. -/
theorem roundDiv_bounds (hd : 0 < d) :
    2 * n ≤ 2 * (roundDiv n d * d) + d ∧ 2 * (roundDiv n d * d) ≤ 2 * n + d ∧
      (2 * n = 2 * (roundDiv n d * d) + d ∨ 2 * (roundDiv n d * d) = 2 * n + d →
        Even (roundDiv n d)) := by
  have hn := Nat.div_add_mod' n d
  have hr := Nat.mod_lt n hd
  rw [roundDiv]
  split
  next hdown =>
    simp only [Bool.or_eq_true, decide_eq_true_eq, Bool.and_eq_true, beq_iff_eq] at hdown
    exact ⟨by omega, by omega, fun htie => Nat.even_iff.mpr (by omega)⟩
  next hup =>
    simp only [Bool.or_eq_true, decide_eq_true_eq, Bool.and_eq_true, beq_iff_eq] at hup
    rw [Nat.add_mul, Nat.one_mul]
    exact ⟨by omega, by omega, fun htie => Nat.even_iff.mpr (by omega)⟩

/-- What is rounded is off by half at most. -/
theorem roundDiv_error (hd : 0 < d) : |(roundDiv n d : ℚ) - n / d| ≤ 1 / 2 := by
  obtain ⟨hle, hge, -⟩ := roundDiv_bounds (n := n) hd
  have hd' : (0 : ℚ) < d := Nat.cast_pos.mpr hd
  have hle' : (2 * n : ℚ) ≤ 2 * (roundDiv n d * d) + d := by exact_mod_cast hle
  have hge' : (2 * (roundDiv n d * d) : ℚ) ≤ 2 * n + d := by exact_mod_cast hge
  have hn : (n : ℚ) = n / d * d := (div_mul_cancel₀ _ hd'.ne').symm
  rw [abs_le]
  constructor
  · refine le_of_mul_le_mul_right ?_ hd'
    rw [sub_mul, ← hn]
    linarith
  · refine le_of_mul_le_mul_right ?_ hd'
    rw [sub_mul, ← hn]
    linarith

/-- And if it is off by half it is even. -/
theorem even_roundDiv (hd : 0 < d) (h : |(roundDiv n d : ℚ) - n / d| = 1 / 2) :
    Even (roundDiv n d) := by
  obtain ⟨-, -, heven⟩ := roundDiv_bounds (n := n) hd
  have hd' : (d : ℚ) ≠ 0 := Nat.cast_ne_zero.mpr hd.ne'
  refine heven ?_
  rcases (abs_eq (by norm_num)).mp h with hup | hdown
  · right
    have hcast : (2 * (roundDiv n d * d) : ℚ) = 2 * n + d := by
      field_simp at hup
      linarith
    exact_mod_cast hcast
  · left
    have hcast : (2 * n : ℚ) = 2 * (roundDiv n d * d) + d := by
      field_simp at hdown
      linarith
    exact_mod_cast hcast

/-- Another natural is at least one away from it. -/
theorem one_le_abs_add_abs {k : ℕ} (hk : k ≠ roundDiv n d) :
    (1 : ℚ) ≤ |(k : ℚ) - n / d| + |(roundDiv n d : ℚ) - n / d| := by
  have hapart : (1 : ℤ) ≤ |(k : ℤ) - roundDiv n d| := Int.one_le_abs (by omega)
  have hcast : (1 : ℚ) ≤ |(k : ℚ) - roundDiv n d| := by exact_mod_cast hapart
  have htriangle := abs_sub_le (k : ℚ) (n / d) (roundDiv n d)
  rw [abs_sub_comm (n / d : ℚ)] at htriangle
  exact hcast.trans htriangle

/-- **No natural is nearer to a quotient than the one to which it is rounded.** -/
theorem roundDiv_nearest (hd : 0 < d) (k : ℕ) :
    |(roundDiv n d : ℚ) - n / d| ≤ |(k : ℚ) - n / d| := by
  by_cases hk : k = roundDiv n d
  · rw [hk]
  · linarith [roundDiv_error (n := n) hd, one_le_abs_add_abs hk]

/-- Of two that are equally near it is the even one. -/
theorem even_roundDiv_of_tie (hd : 0 < d) {k : ℕ} (hk : k ≠ roundDiv n d)
    (h : |(k : ℚ) - n / d| = |(roundDiv n d : ℚ) - n / d|) : Even (roundDiv n d) := by
  have herror := roundDiv_error (n := n) hd
  have hapart := one_le_abs_add_abs hk
  exact even_roundDiv hd (by linarith)

end RoundDiv

/-! ## Numbers of a format -/

namespace Format

variable {f : Format} {x : ℚ} {m b : ℕ} {e : ℤ}

/-- A significand and an exponent that some bits have. -/
structure Fits (f : Format) (m : ℕ) (e : ℤ) : Prop where
  /-- the exponent is not too small -/
  least : f.leastExponent ≤ e
  /-- the significand has its full length unless the exponent is least -/
  full : f.hidden ≤ m ∨ e = f.leastExponent

theorem hidden_pos : 0 < f.hidden := Nat.two_pow_pos _

theorem fits_parts (b : ℕ) :
    f.Fits (f.parts b).1 (f.parts b).2 ∧ (f.parts b).1 < 2 * f.hidden := by
  rw [parts]
  split
  next hsmall => exact ⟨⟨le_rfl, .inr rfl⟩, by omega⟩
  next hlarge =>
    have hmod := Nat.mod_lt b (f.hidden_pos)
    have hdiv := Nat.div_pos (Nat.not_lt.mp hlarge) f.hidden_pos
    exact ⟨⟨by omega, .inl (by omega)⟩, by omega⟩

/-- The number of some bits without a sign, as if no exponent were too large. -/
def value (f : Format) (b : ℕ) : ℚ := (f.parts b).1 * 2 ^ (f.parts b).2

theorem parts_of_normal {k c : ℕ} (hc : c < f.hidden) :
    f.parts ((k + 1) * f.hidden + c) = (c + f.hidden, f.leastExponent + k) := by
  have hlarge : ¬(k + 1) * f.hidden + c < f.hidden := by
    rw [Nat.add_mul]
    omega
  have hmod : ((k + 1) * f.hidden + c) % f.hidden = c := by
    rw [Nat.add_comm, Nat.add_mul_mod_self_right, Nat.mod_eq_of_lt hc]
  have hdiv : ((k + 1) * f.hidden + c) / f.hidden = k + 1 := by
    rw [Nat.add_comm, Nat.add_mul_div_right _ _ f.hidden_pos, Nat.div_eq_of_lt hc, Nat.zero_add]
  rw [parts, if_neg hlarge, hmod, hdiv]
  congr 1
  omega

/-- What is put together has the number that it is put together of. -/
theorem value_assemble (h : f.Fits m e) (hm : m ≤ 2 * f.hidden) :
    f.value (f.assemble m e) = m * 2 ^ e := by
  obtain ⟨hleast, hfull⟩ := h
  rw [assemble]
  split
  next hsmall =>
    rw [value, parts, if_pos hsmall, hfull.resolve_left (by omega)]
  next hlarge =>
    obtain ⟨k, hk⟩ := Int.eq_ofNat_of_zero_le (Int.sub_nonneg.mpr hleast)
    have he : (e - f.leastExponent + 1).toNat = k + 1 := by omega
    rw [he, value]
    rcases Nat.lt_or_eq_of_le hm with hlt | rfl
    · -- the exponent and behind it the significand
      rw [parts_of_normal (by omega)]
      have hsum : m - f.hidden + f.hidden = m := by omega
      have hexponent : f.leastExponent + k = e := by omega
      simp only [hsum, hexponent]
    · -- the significand carries into the exponent
      have hcarry : (k + 1) * f.hidden + (2 * f.hidden - f.hidden) =
          (k + 1 + 1) * f.hidden + 0 := by
        rw [Nat.add_mul (k + 1)]
        omega
      have hexponent : f.leastExponent + ((k + 1 : ℕ) : ℤ) = e + 1 := by omega
      rw [hcarry, parts_of_normal f.hidden_pos]
      simp only [hexponent, Nat.zero_add, zpow_add_one₀ (two_ne_zero (α := ℚ))]
      push_cast
      ring

theorem assemble_parts (b : ℕ) : f.assemble (f.parts b).1 (f.parts b).2 = b := by
  have hdiv := Nat.div_add_mod' b f.hidden
  rw [parts]
  split
  next hsmall => rw [assemble, if_pos hsmall]
  next hlarge =>
    have hlength := Nat.div_pos (Nat.not_lt.mp hlarge) f.hidden_pos
    rw [assemble, if_neg (by omega), Nat.add_sub_cancel]
    have hexponent : (f.leastExponent + ((b / f.hidden : ℕ) - 1 : ℤ) - f.leastExponent + 1).toNat =
        b / f.hidden := by omega
    rw [hexponent, hdiv]

/-- The next significand has the next bits. -/
theorem assemble_succ (h : f.Fits m e) : f.assemble (m + 1) e = f.assemble m e + 1 := by
  obtain ⟨-, hfull⟩ := h
  rw [assemble, assemble]
  split
  next hnext => rw [if_pos (by omega)]
  next hlarge =>
    split
    next hsmall =>
      -- the smallest number whose significand has its full length
      have hm : m + 1 = f.hidden := by omega
      have he : (e - f.leastExponent + 1).toNat = 1 := by
        have hleast := hfull.resolve_left (by omega)
        omega
      rw [he, hm, Nat.one_mul, Nat.sub_self, Nat.add_zero]
    next => omega

/-- **Numbers grow with their bits.** -/
theorem value_strictMono : StrictMono f.value := by
  refine strictMono_nat_of_lt_succ fun b => ?_
  obtain ⟨hfits, hlt⟩ := f.fits_parts b
  have hsucc := f.assemble_succ hfits
  rw [assemble_parts] at hsucc
  rw [← hsucc, value_assemble ⟨hfits.least, hfits.full.imp_left (by omega)⟩ hlt, value]
  have hpow : (0 : ℚ) < 2 ^ (f.parts b).2 := by positivity
  push_cast
  linarith

/-- A significand that is not too long has a number, if the exponent is not too small. -/
theorem exists_value_eq (he : f.leastExponent ≤ e) (hm : m ≤ 2 * f.hidden) :
    ∃ b, f.value b = m * 2 ^ e := by
  obtain ⟨k, hk⟩ := Int.eq_ofNat_of_zero_le (Int.sub_nonneg.mpr he)
  -- by the exponent: a significand that is too short is doubled
  induction k generalizing m e with
  | zero => exact ⟨_, value_assemble ⟨he, .inr (by omega)⟩ hm⟩
  | succ k ih =>
    by_cases hfull : f.hidden ≤ m
    · exact ⟨_, value_assemble ⟨he, .inl hfull⟩ hm⟩
    · obtain ⟨b, hb⟩ := ih (m := 2 * m) (e := e - 1) (by omega) (by omega) (by omega)
      refine ⟨b, ?_⟩
      rw [hb, zpow_sub_one₀ two_ne_zero]
      push_cast
      ring

/-- Bits are even if the significand is. -/
theorem even_assemble (hprecision : 1 < f.precision) (hm : Even m) : Even (f.assemble m e) := by
  have hhidden : Even f.hidden := by
    rw [hidden]
    exact (Nat.even_pow.mpr ⟨even_two, by omega⟩)
  rw [assemble]
  split
  · exact hm
  next hlarge =>
    exact (hhidden.mul_left _).add
      ((Nat.even_sub (Nat.not_lt.mp hlarge)).mpr (iff_of_true hm hhidden))

/-! ## The nearest number -/

/-- These bits have the number that is nearest to one: no other one is nearer, and if another one is
equally near they are even. -/
structure IsNearest (f : Format) (x : ℚ) (b : ℕ) : Prop where
  /-- no other number is nearer -/
  near : ∀ c, |f.value b - x| ≤ |f.value c - x|
  /-- of two that are equally near these are the even bits -/
  even : ∀ c, f.value c ≠ f.value b → |f.value c - x| = |f.value b - x| → Even b

/-- What a number is rounded to: the nearest one, as if no exponent were too large, and infinity if
its exponent is. -/
def IsRounded (f : Format) (x : ℚ) (b : ℕ) : Prop :=
  ∃ nearest, f.IsNearest x nearest ∧ b = min nearest f.infinity

/-- The number of some bits is a multiple of a power of two, or it lies below all that have a
significand of full length and this power. -/
theorem value_eq_or_lt (b : ℕ) (h : f.leastExponent ≤ e) :
    (∃ k : ℕ, f.value b = k * 2 ^ e) ∨
      f.leastExponent < e ∧ f.value b < f.hidden * 2 ^ e := by
  obtain ⟨⟨hleast, -⟩, hlt⟩ := f.fits_parts b
  -- `b` lies on the grid of `e`, or below its whole binade
  rcases le_or_gt e (f.parts b).2 with hle | hgt
  · left
    obtain ⟨i, hi⟩ := Int.eq_ofNat_of_zero_le (Int.sub_nonneg.mpr hle)
    have hexponent : (f.parts b).2 = e + i := by omega
    refine ⟨(f.parts b).1 * 2 ^ i, ?_⟩
    rw [value, hexponent, zpow_add₀ (two_ne_zero (α := ℚ)), zpow_natCast]
    push_cast
    ring
  · right
    refine ⟨by omega, ?_⟩
    have hpow : (2 : ℚ) ^ ((f.parts b).2 + 1) ≤ 2 ^ e :=
      zpow_le_zpow_right₀ one_le_two (by omega)
    have hsignificand : ((f.parts b).1 : ℚ) < 2 * f.hidden := by exact_mod_cast hlt
    have hpos : (0 : ℚ) < 2 ^ (f.parts b).2 := by positivity
    -- a full significand of the lower binade is still short of the least one of the upper
    calc f.value b = (f.parts b).1 * 2 ^ (f.parts b).2 := rfl
      _ < 2 * f.hidden * 2 ^ (f.parts b).2 := mul_lt_mul_of_pos_right hsignificand hpos
      _ = f.hidden * 2 ^ ((f.parts b).2 + 1) := by
        rw [zpow_add_one₀ (two_ne_zero (α := ℚ))]
        ring
      _ ≤ f.hidden * 2 ^ e := mul_le_mul_of_nonneg_left hpow (Nat.cast_nonneg _)

/-- **What is rounded to a natural at the right power is the nearest number.** -/
theorem isNearest_assemble {n d : ℕ} (hprecision : 1 < f.precision) (hd : 0 < d)
    (hx : (n / d : ℚ) = x / 2 ^ e) (hleast : f.leastExponent ≤ e) (hlt : n < 2 * f.hidden * d)
    (hfull : f.hidden * d ≤ n ∨ e = f.leastExponent) :
    f.IsNearest x (f.assemble (roundDiv n d) e) := by
  have hpow : (0 : ℚ) < 2 ^ e := by positivity
  have hvalue : f.value (f.assemble (roundDiv n d) e) = roundDiv n d * 2 ^ e :=
    value_assemble ⟨hleast, hfull.imp_left (le_roundDiv hd)⟩ (roundDiv_le hd hlt)
  -- distances are those of the naturals, times the power
  have hscale (k : ℕ) : |(k * 2 ^ e : ℚ) - x| = |(k : ℚ) - n / d| * 2 ^ e := by
    rw [hx, ← abs_of_pos hpow, ← abs_mul, abs_of_pos hpow, sub_mul, div_mul_cancel₀ _ hpow.ne']
  have hbelow {c : ℕ} (h : f.leastExponent < e) (hc : f.value c < f.hidden * 2 ^ e) :
      |f.value (f.assemble (roundDiv n d) e) - x| < |f.value c - x| := by
    have hfull' : (f.hidden : ℚ) ≤ n / d := by
      rw [le_div_iff₀ (Nat.cast_pos.mpr hd)]
      exact_mod_cast hfull.resolve_right h.ne'
    have hx' : (f.hidden : ℚ) * 2 ^ e ≤ x := by
      rw [hx, le_div_iff₀ hpow] at hfull'
      exact hfull'
    calc |f.value (f.assemble (roundDiv n d) e) - x| = |(roundDiv n d : ℚ) - n / d| * 2 ^ e := by
          rw [hvalue, hscale]
      _ ≤ |(f.hidden : ℚ) - n / d| * 2 ^ e :=
          mul_le_mul_of_nonneg_right (roundDiv_nearest hd _) hpow.le
      _ = x - f.hidden * 2 ^ e := by rw [← hscale, abs_sub_comm, abs_of_nonneg (by linarith)]
      _ < x - f.value c := by linarith
      _ = |f.value c - x| := by rw [abs_sub_comm, abs_of_nonneg (by linarith)]
  constructor
  · intro c
    rcases f.value_eq_or_lt c hleast with ⟨k, hk⟩ | ⟨h, hc⟩
    · rw [hvalue, hk, hscale, hscale]
      exact mul_le_mul_of_nonneg_right (roundDiv_nearest hd k) hpow.le
    · exact (hbelow h hc).le
  · intro c hne htie
    rcases f.value_eq_or_lt c hleast with ⟨k, hk⟩ | ⟨h, hc⟩
    · rw [hvalue, hk, hscale, hscale] at htie
      have hk' : k ≠ roundDiv n d := by
        rintro rfl
        exact hne (hk.trans hvalue.symm)
      have hdistance := mul_right_cancel₀ hpow.ne' htie
      exact even_assemble hprecision (even_roundDiv_of_tie hd hk' hdistance)
    · exact absurd htie (hbelow h hc).ne'

end Format

/-! ## The right power -/

section Scaling

variable {num den : ℕ}

theorem overPower_snd_pos (num : ℕ) (hden : 0 < den) (e : ℤ) : 0 < (overPower 2 num den e).2 := by
  rw [overPower]
  split
  · exact Nat.mul_pos hden (Nat.two_pow_pos _)
  · exact hden

/-- A quotient over a power. -/
theorem overPower_div (num den : ℕ) (e : ℤ) :
    ((overPower 2 num den e).1 / (overPower 2 num den e).2 : ℚ) = num / den / 2 ^ e := by
  rw [overPower]
  split
  next hnonneg =>
    obtain ⟨k, rfl⟩ := Int.eq_ofNat_of_zero_le hnonneg
    change (num / (den * 2 ^ k : ℕ) : ℚ) = _
    rw [Nat.cast_mul, Nat.cast_pow, Nat.cast_two, zpow_natCast, div_div]
  next hneg =>
    obtain ⟨k, rfl⟩ := Int.exists_eq_neg_ofNat (Int.le_of_lt (Int.not_le.mp hneg))
    rw [Int.neg_neg, Int.toNat_natCast, zpow_neg, zpow_natCast, div_inv_eq_mul]
    change ((num * 2 ^ k : ℕ) / den : ℚ) = _
    rw [Nat.cast_mul, Nat.cast_pow, Nat.cast_two, mul_div_right_comm]

/-- Between which powers of two a quotient lies. -/
theorem quotient_bounds (hnum : num ≠ 0) (hden : den ≠ 0) :
    (2 : ℚ) ^ ((num.log2 : ℤ) - den.log2 - 1) ≤ num / den ∧
      (num / den : ℚ) < 2 ^ ((num.log2 : ℤ) - den.log2 + 1) := by
  have htwo : (2 : ℚ) ≠ 0 := two_ne_zero
  have hden' : (0 : ℚ) < den := Nat.cast_pos.mpr (Nat.pos_of_ne_zero hden)
  have hnum₁ : (2 : ℚ) ^ num.log2 ≤ num := by exact_mod_cast Nat.log2_self_le hnum
  have hnum₂ : (num : ℚ) < 2 ^ (num.log2 + 1) := by exact_mod_cast num.lt_log2_self
  have hden₁ : (2 : ℚ) ^ den.log2 ≤ den := by exact_mod_cast Nat.log2_self_le hden
  have hden₂ : (den : ℚ) < 2 ^ (den.log2 + 1) := by exact_mod_cast den.lt_log2_self
  constructor
  · have hpow : (2 : ℚ) ^ ((num.log2 : ℤ) - den.log2 - 1) = 2 ^ num.log2 / 2 ^ (den.log2 + 1) := by
      rw [sub_sub, zpow_sub₀ htwo, ← zpow_natCast, ← zpow_natCast]
      norm_cast
    rw [hpow]
    gcongr
  · have hpow : (2 : ℚ) ^ ((num.log2 : ℤ) - den.log2 + 1) = 2 ^ (num.log2 + 1) / 2 ^ den.log2 := by
      rw [sub_add_eq_add_sub, zpow_sub₀ htwo, ← zpow_natCast, ← zpow_natCast]
      norm_cast
    rw [hpow]
    gcongr

end Scaling

namespace Format

variable {f : Format} {num den : ℕ}

/-- The power that leaves a quotient the full length of a significand, or the least one. -/
def scale (f : Format) (num den : ℕ) : ℤ :=
  let e := max f.leastExponent ((num.log2 : ℤ) - den.log2 - f.precision)
  if (overPower 2 num den e).1 / (overPower 2 num den e).2 < Nat.pow 2 f.precision then e else e + 1

theorem round_eq_assemble (hnum : num ≠ 0) :
    f.round num den = min (f.assemble (roundDiv (overPower 2 num den (f.scale num den)).1
      (overPower 2 num den (f.scale num den)).2) (f.scale num den)) f.infinity := by
  rw [round, if_neg hnum]
  rfl

theorem leastExponent_le_scale (f : Format) (num den : ℕ) : f.leastExponent ≤ f.scale num den := by
  rw [scale]
  split <;> omega

/-- Over that power a quotient has the full length of a significand, unless the power is least. -/
theorem scale_bounds (hprecision : 1 < f.precision) (hnum : num ≠ 0) (hden : 0 < den) :
    (num / den / 2 ^ f.scale num den : ℚ) < 2 * f.hidden ∧
      ((f.hidden : ℚ) ≤ num / den / 2 ^ f.scale num den ∨ f.scale num den = f.leastExponent) := by
  obtain ⟨hlow, hhigh⟩ := quotient_bounds hnum hden.ne'
  obtain ⟨p, hp⟩ : ∃ p, f.precision = p + 1 := ⟨f.precision - 1, by omega⟩
  have hhidden : (f.hidden : ℚ) = 2 ^ (p : ℤ) := by
    rw [hidden, hp, zpow_natCast]
    exact Nat.cast_pow 2 p
  have htwice : (2 * f.hidden : ℚ) = 2 ^ ((p : ℤ) + 1) := by
    rw [hhidden, zpow_add_one₀ two_ne_zero, mul_comm]
  rw [scale]
  generalize hfirst : max f.leastExponent ((num.log2 : ℤ) - den.log2 - f.precision) = e
  have hpow : (0 : ℚ) < 2 ^ e := by positivity
  have hover := overPower_div num den e
  -- the first power leaves it no more than one bit too long, and the full length if it is not least
  have htop : (num / den / 2 ^ e : ℚ) < 2 ^ ((p : ℤ) + 2) := by
    rw [div_lt_iff₀ hpow, ← zpow_add₀ two_ne_zero]
    exact hhigh.trans_le (zpow_le_zpow_right₀ one_le_two (by omega))
  have hfull (hne : e ≠ f.leastExponent) : (2 : ℚ) ^ (p : ℤ) ≤ num / den / 2 ^ e := by
    rw [le_div_iff₀ hpow, ← zpow_add₀ two_ne_zero]
    exact (zpow_le_zpow_right₀ one_le_two (by omega)).trans hlow
  have hd : (0 : ℚ) < (overPower 2 num den e).2 := Nat.cast_pos.mpr (overPower_snd_pos num hden e)
  have hfits : (overPower 2 num den e).1 / (overPower 2 num den e).2 < Nat.pow 2 f.precision ↔
      (num / den / 2 ^ e : ℚ) < 2 ^ ((p : ℤ) + 1) := by
    have hcast : ((Nat.pow 2 f.precision : ℕ) : ℚ) = 2 ^ ((p : ℤ) + 1) := by
      rw [hp, ← Nat.cast_succ, zpow_natCast]
      exact Nat.cast_pow 2 (p + 1)
    rw [Nat.div_lt_iff_lt_mul (overPower_snd_pos num hden e), ← hover, div_lt_iff₀ hd, ← hcast]
    exact_mod_cast Iff.rfl
  split
  next h =>
    rw [htwice, hhidden]
    exact ⟨hfits.mp h, or_iff_not_imp_right.mpr hfull⟩
  next h =>
    have hlong := not_lt.mp (hfits.not.mp h)
    rw [htwice, hhidden, zpow_add_one₀ two_ne_zero e, ← div_div, div_lt_iff₀ two_pos,
      le_div_iff₀ two_pos, ← zpow_add_one₀ two_ne_zero, ← zpow_add_one₀ two_ne_zero, add_assoc]
    exact ⟨htop, .inl hlong⟩

/-- **Rounding gives what a quotient is rounded to.** -/
theorem isRounded_round (hprecision : 1 < f.precision) (num : ℕ) (hden : 0 < den) :
    f.IsRounded (num / den) (f.round num den) := by
  -- zero is zero over anything, and even
  by_cases hnum : num = 0
  · have hzero : f.value 0 = 0 := by
      rw [value, parts, if_pos f.hidden_pos, Nat.cast_zero, zero_mul]
    refine ⟨0, ⟨fun c => ?_, fun _ _ _ => Even.zero⟩, ?_⟩
    · rw [hzero, hnum, Nat.cast_zero, zero_div, sub_zero, abs_zero]
      exact abs_nonneg _
    · rw [round, if_pos hnum, Nat.zero_min]
  · rw [round_eq_assemble hnum]
    obtain ⟨hlt, hfull⟩ := scale_bounds hprecision hnum hden
    -- what is scaled has a full significand, or the least exponent
    have hd := overPower_snd_pos num hden (f.scale num den)
    have hd' : (0 : ℚ) < (overPower 2 num den (f.scale num den)).2 := Nat.cast_pos.mpr hd
    have hover := overPower_div num den (f.scale num den)
    refine ⟨_, isNearest_assemble hprecision hd hover (f.leastExponent_le_scale num den) ?_ ?_, rfl⟩
    · rw [← hover, div_lt_iff₀ hd'] at hlt
      exact_mod_cast hlt
    · refine hfull.imp_left fun h => ?_
      rw [← hover, le_div_iff₀ hd'] at h
      exact_mod_cast h

end Format

/-! ## Doubles -/

namespace Double

variable {negative : Bool} {bits num den : ℕ} {x : ℚ} {y : Double}

/-- The absolute value of a number that is finite. -/
def absolute (y : Double) : ℚ := Format.binary64.value y.magnitude

/-- The number is what an absolute value is rounded to, with a sign, in a format that may be a
narrower one. -/
structure IsRounded (f : Format) (negative : Bool) (x : ℚ) (y : Double) : Prop where
  /-- it has the sign -/
  sign : y.isNegative = negative
  /-- it is the number of the bits to which the absolute value is rounded -/
  number : ∃ b, f.IsRounded x b ∧ (b = f.infinity ∧ y.isInfinite ∨
    b < f.infinity ∧ y.isFinite ∧ y.absolute = f.value b)

theorem infinity_lt_signBit : Format.binary64.infinity < Format.binary64.signBit := by decide

/-- What a quotient of naturals comes to is what it is rounded to. -/
theorem isRounded_ofQuotient (negative : Bool) (num : ℕ) (hden : 0 < den) :
    (ofQuotient negative num den).IsRounded .binary64 negative (num / den) := by
  have hrounded := Format.isRounded_round (f := .binary64) (by decide) num hden
  obtain ⟨nearest, -, hmin⟩ := hrounded
  have hle : Format.binary64.round num den ≤ Format.binary64.infinity := hmin ▸ Nat.min_le_right _ _
  have hlt := Nat.lt_of_le_of_lt hle infinity_lt_signBit
  refine ⟨isNegative_ofMagnitude hlt, _, Format.isRounded_round (by decide) num hden, ?_⟩
  have hmagnitude : (ofQuotient negative num den).magnitude = Format.binary64.round num den :=
    magnitude_ofMagnitude hlt
  rw [isInfinite, isFinite, absolute, hmagnitude]
  rcases Nat.lt_or_eq_of_le hle with hbelow | htop
  · exact .inr ⟨hbelow, decide_eq_true hbelow, rfl⟩
  · exact .inl ⟨htop, beq_iff_eq.mpr htop⟩

/-- A number of 32 bits has 64 bits too. -/
theorem exists_value_eq_single {b : ℕ} (hb : b < Format.binary32.infinity) :
    ∃ c < Format.binary64.infinity, Format.binary64.value c = Format.binary32.value b := by
  have hleast : Format.binary32.leastExponent = -149 := by decide
  have hleast' : Format.binary64.leastExponent = -1074 := by decide
  have hhidden : Format.binary32.hidden = 2 ^ 23 := by decide
  have hhidden' : Format.binary64.hidden = 2 ^ 52 := by decide
  obtain ⟨⟨hexponent, -⟩, hsignificand⟩ := Format.binary32.fits_parts b
  obtain ⟨c, hc⟩ := Format.exists_value_eq (f := .binary64) (m := (Format.binary32.parts b).1)
    (e := (Format.binary32.parts b).2) (by omega) (by omega)
  refine ⟨c, ?_, hc⟩
  -- as numbers both infinities would be powers of two
  have hsingle : Format.binary32.value Format.binary32.infinity = 2 ^ (128 : ℤ) := by
    have hparts : Format.binary32.parts Format.binary32.infinity = (2 ^ 23, 105) := by decide
    rw [Format.value, hparts, Nat.cast_pow, Nat.cast_two, ← zpow_natCast, ← zpow_add₀ two_ne_zero]
    rfl
  have hdouble : Format.binary64.value Format.binary64.infinity = 2 ^ (1024 : ℤ) := by
    have hparts : Format.binary64.parts Format.binary64.infinity = (2 ^ 52, 972) := by decide
    rw [Format.value, hparts, Nat.cast_pow, Nat.cast_two, ← zpow_natCast, ← zpow_add₀ two_ne_zero]
    rfl
  refine (Format.value_strictMono (f := .binary64)).lt_iff_lt.mp ?_
  calc Format.binary64.value c = Format.binary32.value b := hc
    _ < Format.binary32.value Format.binary32.infinity := Format.value_strictMono hb
    _ < Format.binary64.value Format.binary64.infinity := by
      rw [hsingle, hdouble]
      exact zpow_lt_zpow_right₀ one_lt_two (by decide)

/-- A number that a format has is what it is rounded to. -/
theorem IsRounded.of_value {c : ℕ} (h : y.IsRounded .binary64 negative x)
    (hc : c < Format.binary64.infinity) (hx : Format.binary64.value c = x) :
    y.isFinite ∧ y.absolute = x := by
  obtain ⟨-, _, ⟨nearest, hnearest, rfl⟩, hnumber⟩ := h
  have hdistance := hnearest.near c
  rw [hx, sub_self, abs_zero, abs_nonpos_iff, sub_eq_zero, ← hx] at hdistance
  have hsame : nearest = c := Format.value_strictMono.injective hdistance
  rw [hsame, Nat.min_eq_left hc.le, hx] at hnumber
  exact (hnumber.resolve_left fun htop => hc.ne htop.1).2

/-- A significand over a power, as a quotient of naturals. -/
theorem powerQuotient_div (m : ℕ) (e : ℤ) :
    0 < (powerQuotient 2 m e).2 ∧
      ((powerQuotient 2 m e).1 / (powerQuotient 2 m e).2 : ℚ) = m * 2 ^ e := by
  rw [powerQuotient]
  split
  next hnonneg =>
    obtain ⟨k, rfl⟩ := Int.eq_ofNat_of_zero_le hnonneg
    refine ⟨Nat.one_pos, ?_⟩
    rw [Nat.cast_one, div_one, zpow_natCast, Nat.cast_mul]
    exact congrArg _ (Nat.cast_pow 2 k)
  next hneg =>
    obtain ⟨k, rfl⟩ := Int.exists_eq_neg_ofNat (Int.le_of_lt (Int.not_le.mp hneg))
    refine ⟨Nat.two_pow_pos _, ?_⟩
    rw [Int.neg_neg, Int.toNat_natCast, zpow_neg, zpow_natCast, ← div_eq_mul_inv]
    exact congrArg _ (Nat.cast_pow 2 k)

/-- What is read of the bits of a number of 32 bits that is not NaN. -/
theorem ofSingle_eq {b : ℕ} (hb : b ≤ Format.binary32.infinity) (negative : Bool) :
    ofSingle (.ofNat ((if negative then Format.binary32.signBit else 0) + b)) =
      if b = Format.binary32.infinity then infinity negative
      else ofQuotient negative
        (powerQuotient 2 (Format.binary32.parts b).1 (Format.binary32.parts b).2).1
        (powerQuotient 2 (Format.binary32.parts b).1 (Format.binary32.parts b).2).2 := by
  have hsign : Format.binary32.signBit = 2147483648 := by decide
  have hinfinity : Format.binary32.infinity = 2139095040 := by decide
  rw [hinfinity] at hb
  have hbits : (UInt32.ofNat ((if negative then Format.binary32.signBit else 0) + b)).toNat =
      (if negative then Format.binary32.signBit else 0) + b := by
    rw [UInt32.toNat_ofNat', hsign]
    cases negative <;> simp only [Bool.false_eq_true, if_false, if_true] <;> omega
  -- the sign is the top bit, and the magnitude is below it
  have hnegative : decide ((if negative then Format.binary32.signBit else 0) + b ≥
      Format.binary32.signBit) = negative := by
    rw [hsign]
    cases negative with
    | false => exact decide_eq_false (by simp; omega)
    | true => exact decide_eq_true (Nat.le_add_right _ _)
  have hmagnitude : ((if negative then Format.binary32.signBit else 0) + b) %
      Format.binary32.signBit = b := by
    rw [hsign]
    cases negative <;> simp <;> omega
  have hnumber : ¬b > Format.binary32.infinity := by
    rw [hinfinity]
    omega
  simp only [ofSingle, hbits, hnegative, hmagnitude, if_neg hnumber]

/-- **What bits of 32 are read as has their number.** -/
theorem isRounded_ofSingle {b : ℕ} (hb : Format.binary32.IsRounded x b) (negative : Bool) :
    (ofSingle (.ofNat ((if negative then Format.binary32.signBit else 0) + b))).IsRounded .binary32
      negative x := by
  have hle : b ≤ Format.binary32.infinity := by
    obtain ⟨nearest, -, rfl⟩ := hb
    exact Nat.min_le_right _ _
  rw [ofSingle_eq hle]
  -- infinity stays infinite, and a finite single is a double
  by_cases htop : b = Format.binary32.infinity
  · rw [if_pos htop, infinity]
    refine ⟨isNegative_ofMagnitude infinity_lt_signBit, b, hb, .inl ⟨htop, ?_⟩⟩
    rw [isInfinite, magnitude_ofMagnitude infinity_lt_signBit, beq_self_eq_true]
  · obtain ⟨hpos, hquotient⟩ := powerQuotient_div (Format.binary32.parts b).1
      (Format.binary32.parts b).2
    have hrounded := isRounded_ofQuotient negative
      (powerQuotient 2 (Format.binary32.parts b).1 (Format.binary32.parts b).2).1 hpos
    have hbelow := Nat.lt_of_le_of_ne hle htop
    obtain ⟨c, hc, hvalue⟩ := exists_value_eq_single hbelow
    rw [hquotient] at hrounded
    rw [if_neg htop]
    exact ⟨hrounded.sign, b, hb, .inr ⟨hbelow, hrounded.of_value hc hvalue⟩⟩

/-- **A number is sent with 32 bits as the one that is nearest to it.** -/
theorem isRounded_toSingle (y : Double) (hy : y.isFinite) :
    (ofSingle y.toSingle).IsRounded .binary32 y.isNegative y.absolute := by
  have hpos : 0 < y.quotient.2 := (powerQuotient_div _ _).1
  have hquotient : (y.quotient.1 / y.quotient.2 : ℚ) = y.absolute := (powerQuotient_div _ _).2
  have hlt : y.magnitude < Format.binary64.infinity := of_decide_eq_true hy
  have hnumber : y.isNaN = false := decide_eq_false (Nat.not_lt.mpr hlt.le)
  have hfinite : y.isInfinite = false := beq_eq_false_iff_ne.mpr hlt.ne
  have hsingle : y.toSingle = .ofNat ((if y.isNegative then Format.binary32.signBit else 0) +
      Format.binary32.round y.quotient.1 y.quotient.2) := by
    simp only [toSingle, hnumber, hfinite, Bool.false_eq_true, if_false]
  rw [hsingle]
  refine isRounded_ofSingle ?_ y.isNegative
  rw [← hquotient]
  exact Format.isRounded_round (by decide) y.quotient.1 hpos

/-- **An integer is sent as the number that is nearest to it.** -/
theorem isRounded_ofInt (i : ℤ) : (ofInt i).IsRounded .binary64 (i < 0) i.natAbs := by
  have hrounded := isRounded_ofQuotient (decide (i < 0)) i.natAbs Nat.one_pos
  rwa [Nat.cast_one, div_one] at hrounded

/-- A finite number is what it is rounded to itself. -/
theorem isRounded_self (y : Double) (hy : y.isFinite) :
    y.IsRounded .binary64 y.isNegative y.absolute := by
  have hlt : y.magnitude < Format.binary64.infinity := of_decide_eq_true hy
  have hnearest : Format.binary64.IsNearest y.absolute y.magnitude := by
    constructor
    · intro c
      rw [absolute, sub_self, abs_zero]
      exact abs_nonneg _
    · intro c hne htie
      rw [absolute, sub_self, abs_zero, abs_eq_zero, sub_eq_zero] at htie
      exact absurd htie hne
  exact ⟨rfl, y.magnitude, ⟨_, hnearest, (Nat.min_eq_left hlt.le).symm⟩, .inr ⟨hlt, hy, rfl⟩⟩

end Double

end Tabula
