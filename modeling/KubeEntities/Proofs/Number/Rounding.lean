import KubeEntities.Number.Decimal
import Mathlib.Algebra.Order.Floor.Semiring
import Mathlib.Data.Rat.Floor
import Mathlib.Tactic.FieldSimp
import Mathlib.Tactic.Linarith
import Mathlib.Tactic.NormNum
import Mathlib.Tactic.Positivity
import Mathlib.Tactic.Ring

/-! Rounding to binary64. A magnitude covers the rationals that round to it: half the gap to each of
its neighbours, with the ends if its mantissa is even (`Magnitude.Covers`). A quotient becomes the
magnitude that covers it (`nearest?_of_covers`), and so does a decimal (`ofDecimal_of_covers`), for
what is answered early is covered by none. -/

namespace KubeEntities

/-- From `a` to `b`, where the ends count for an even `m` only. -/
def Within (m : Nat) (a q b : ℚ) : Prop := if m % 2 = 0 then a ≤ q ∧ q ≤ b else a < q ∧ q < b

namespace Within
variable {m n : Nat} {a q b c : ℚ}

theorem le (h : Within m a q b) : a ≤ q ∧ q ≤ b := by
  unfold Within at h
  split at h
  · exact h
  · exact ⟨h.1.le, h.2.le⟩

theorem even_of_end (h : Within m a q b) (touches : q = a ∨ q = b) : m % 2 = 0 := by
  unfold Within at h
  split at h
  · assumption
  · rcases touches with rfl | rfl
    · exact absurd h.1 (lt_irrefl _)
    · exact absurd h.2 (lt_irrefl _)

theorem div (h : Within m a q b) (pos : 0 < c) : Within m (a / c) (q / c) (b / c) := by
  unfold Within at h ⊢
  simpa only [div_le_div_iff_of_pos_right pos, div_lt_div_iff_of_pos_right pos] using h

end Within

theorem roundDiv_of_within {num den m : Nat} (pos : 0 < den)
    (h : Within m (m - 1 / 2) (num / den) (m + 1 / 2)) : roundDiv num den = m := by
  have pos' : (0 : ℚ) < den := by exact_mod_cast pos
  let whole := num / den
  let rest := num % den
  have split : (num : ℚ) / den = whole + rest / den := by
    have parts : (num : ℚ) = den * whole + rest := by exact_mod_cast (Nat.div_add_mod num den).symm
    rw [parts]
    field_simp
  obtain ⟨low, high⟩ := h.le
  rw [split] at low high
  change (if 2 * rest < den then whole else if den < 2 * rest then whole + 1
    else whole + whole % 2) = m
  split_ifs with small_rest large_rest
  · have small : (rest : ℚ) / den < 1 / 2 := by
      rw [div_lt_div_iff₀ pos' two_pos]
      exact_mod_cast (by omega : rest * 2 < 1 * den)
    have nonneg : (0 : ℚ) ≤ rest / den := by positivity
    have : (whole : ℚ) < m + 1 := by linarith
    have : (m : ℚ) < whole + 1 := by linarith
    norm_cast at *
    omega
  · have large : 1 / 2 < (rest : ℚ) / den := by
      rw [div_lt_div_iff₀ two_pos pos']
      exact_mod_cast (by omega : 1 * den < rest * 2)
    have below : (rest : ℚ) / den < 1 := by
      rw [div_lt_one pos']
      exact_mod_cast Nat.mod_lt num pos
    have : (whole : ℚ) < m := by linarith
    have : (m : ℚ) < whole + 2 := by linarith
    norm_cast at *
    omega
  · have half : (rest : ℚ) / den = 1 / 2 := by
      rw [div_eq_div_iff pos'.ne' two_ne_zero]
      exact_mod_cast (by omega : rest * 2 = 1 * den)
    rw [half] at low high split
    have lower : whole ≤ m := by exact_mod_cast (by linarith : (whole : ℚ) ≤ m)
    have upper : m ≤ whole + 1 := by exact_mod_cast (by linarith : (m : ℚ) ≤ whole + 1)
    have even : m % 2 = 0 := by
      refine h.even_of_end ?_
      rcases Nat.eq_or_lt_of_le lower with same | above
      · exact .inr (by rw [split, same])
      · have next : m = whole + 1 := by omega
        exact .inl (by rw [split, next]; push_cast; ring)
    omega

theorem le_div_iff_cast_le {num den n : Nat} (pos : 0 < den) :
    n ≤ num / den ↔ (n : ℚ) ≤ num / den := by
  rw [Nat.le_div_iff_mul_le pos, le_div_iff₀ (by exact_mod_cast pos)]
  exact_mod_cast Iff.rfl

theorem div_lt_iff_lt_cast {num den n : Nat} (pos : 0 < den) :
    num / den < n ↔ (num : ℚ) / den < n := by
  rw [← not_le, ← not_le, le_div_iff_cast_le pos]

namespace Magnitude

theorem log2_sub_eq {whole exponent : Nat} (low : exponent = 0 ∨ 2 ^ (52 + exponent) ≤ whole)
    (high : whole < 2 ^ (53 + exponent)) : whole.log2 - 52 = exponent := by
  by_cases some_bits : whole = 0
  · rcases low with rfl | low
    · rw [some_bits, Nat.log2_zero]
    · have := Nat.two_pow_pos (52 + exponent)
      omega
  · have upper := (Nat.log2_lt some_bits).2 high
    rcases low with rfl | low
    · omega
    · have := (Nat.le_log2 some_bits).2 low
      omega

variable {x : Magnitude} {q : ℚ}

/-- Half the gap to the magnitude before, in units. -/
def gapBelow (x : Magnitude) : ℚ :=
  if x.mantissa = 2 ^ 52 ∧ x.exponent ≠ 0 then 2 ^ x.exponent / 4 else 2 ^ x.exponent / 2

/-- Whether so many units round to a magnitude. -/
def Covers (x : Magnitude) (q : ℚ) : Prop :=
  Within x.mantissa (x.units - x.gapBelow) q (x.units + 2 ^ x.exponent / 2)

theorem units_eq (x : Magnitude) : (x.units : ℚ) = x.mantissa * 2 ^ x.exponent := by
  simp [units]

theorem step_pos (x : Magnitude) : (0 : ℚ) < 2 ^ x.exponent := pow_pos two_pos x.exponent

theorem Covers.within_half (h : x.Covers q) :
    Within x.mantissa (x.units - 2 ^ x.exponent / 2) q (x.units + 2 ^ x.exponent / 2) := by
  unfold Covers gapBelow at h
  split at h
  · rename_i edge
    have step := x.step_pos
    have even : x.mantissa % 2 = 0 := by rw [edge.1]; decide
    unfold Within at h ⊢
    rw [if_pos even] at h ⊢
    exact ⟨by linarith [h.1], h.2⟩
  · exact h

theorem Covers.lt (h : x.Covers q) : q < 2 ^ (53 + x.exponent) := by
  have step := x.step_pos
  have bits : (x.mantissa : ℚ) ≤ 2 ^ 53 - 1 := by
    have small : x.mantissa + 1 ≤ 2 ^ 53 := x.canonical.1
    have : ((x.mantissa + 1 : ℕ) : ℚ) ≤ ((2 ^ 53 : ℕ) : ℚ) := by exact_mod_cast small
    push_cast at this
    linarith
  calc q ≤ x.units + 2 ^ x.exponent / 2 := h.le.2
    _ ≤ (2 ^ 53 - 1) * 2 ^ x.exponent + 2 ^ x.exponent / 2 := by
      rw [units_eq]
      gcongr
    _ < 2 ^ (53 + x.exponent) := by
      rw [pow_add]
      linarith

theorem Covers.mantissa_of_lt (h : x.Covers q) (scaled : x.exponent ≠ 0)
    (below : q < 2 ^ (52 + x.exponent)) : x.mantissa = 2 ^ 52 := by
  have normal : 2 ^ 52 ≤ x.mantissa := x.canonical.2.1.resolve_left scaled
  by_contra other
  have step := x.step_pos
  have above : (2 ^ 52 + 1 : ℚ) ≤ x.mantissa := by
    exact_mod_cast (by omega : 2 ^ 52 + 1 ≤ x.mantissa)
  have low : (2 ^ 52 + 1) * 2 ^ x.exponent - 2 ^ x.exponent / 2 ≤ q :=
    calc (2 ^ 52 + 1) * (2 : ℚ) ^ x.exponent - 2 ^ x.exponent / 2
      _ ≤ (x.units : ℚ) - 2 ^ x.exponent / 2 := by
        rw [units_eq]
        gcongr
      _ ≤ q := h.within_half.le.1
  rw [pow_add] at below
  linarith

theorem nearest?_of_within {num den exponent mantissa : Nat} (pos : 0 < den)
    (low : exponent = 0 ∨ (2 : ℚ) ^ (52 + exponent) ≤ num / den)
    (high : (num : ℚ) / den < 2 ^ (53 + exponent))
    (near : Within mantissa (mantissa - 1 / 2) (num / den / 2 ^ exponent) (mantissa + 1 / 2)) :
    nearest? num den = if mantissa = 2 ^ 53 then ofParts? (2 ^ 52) (exponent + 1)
      else ofParts? mantissa exponent := by
  have bits : (num / den).log2 - 52 = exponent := by
    refine log2_sub_eq (low.imp_right fun low => ?_) ?_
    · exact (le_div_iff_cast_le pos).2 (by exact_mod_cast low)
    · exact (div_lt_iff_lt_cast pos).2 (by exact_mod_cast high)
  have whole : roundDiv num (den * 2 ^ exponent) = mantissa := by
    refine roundDiv_of_within (by positivity) ?_
    have scaled : ((den * 2 ^ exponent : ℕ) : ℚ) = den * 2 ^ exponent := by push_cast; rfl
    rwa [scaled, ← div_div]
  change (if roundDiv num (den * 2 ^ ((num / den).log2 - 52)) = 2 ^ 53 then
      ofParts? (2 ^ 52) ((num / den).log2 - 52 + 1)
    else ofParts? (roundDiv num (den * 2 ^ ((num / den).log2 - 52))) ((num / den).log2 - 52)) = _
  rw [bits, whole]

theorem nearest?_of_covers {num den : Nat} (pos : 0 < den) (h : x.Covers (num / den)) :
    nearest? num den = some x := by
  have step := x.step_pos
  by_cases inside : x.exponent = 0 ∨ (2 : ℚ) ^ (52 + x.exponent) ≤ num / den
  · have near : Within x.mantissa (x.mantissa - 1 / 2) (num / den / 2 ^ x.exponent)
        (x.mantissa + 1 / 2) := by
      have near := h.within_half.div step
      rw [units_eq] at near
      convert near using 1 <;> field_simp
    have small : x.mantissa ≠ 2 ^ 53 := Nat.ne_of_lt x.canonical.1
    rw [nearest?_of_within pos inside h.lt near, if_neg small]
    exact ofParts?_eq_some.2 ⟨rfl, rfl⟩
  · -- the quotient has one bit less than the magnitude, and is rounded up to the power of two
    obtain ⟨scaled, below⟩ := not_or.1 inside
    have least := h.mantissa_of_lt scaled (not_le.1 below)
    obtain ⟨exponent, next⟩ := Nat.exists_eq_add_one_of_ne_zero scaled
    have half : (0 : ℚ) < 2 ^ exponent := by positivity
    have low : (2 ^ 53 - 1 / 2) * (2 : ℚ) ^ exponent ≤ num / den := by
      have low := h.le.1
      rw [gapBelow, if_pos ⟨least, scaled⟩, units_eq, least, next, pow_succ 2 exponent] at low
      push_cast at low
      linarith
    have high : (num : ℚ) / den < 2 ^ (53 + exponent) := by
      rw [not_le, next] at below
      exact below.trans_eq (by congr 1; omega)
    have near : Within (2 ^ 53) ((2 ^ 53 : ℕ) - 1 / 2) (num / den / 2 ^ exponent)
        ((2 ^ 53 : ℕ) + 1 / 2) := by
      rw [pow_add] at high
      rw [Within, if_pos (by decide), le_div_iff₀ half, div_le_iff₀ half]
      push_cast
      exact ⟨low, by linarith⟩
    have binade : (2 : ℚ) ^ (52 + exponent) ≤ num / den := by
      rw [pow_add]
      linarith
    rw [nearest?_of_within pos (.inr binade) high near, if_pos rfl]
    exact ofParts?_eq_some.2 ⟨least, next⟩

theorem Covers.half_le (h : x.Covers q) (some_units : x.mantissa ≠ 0) : 1 / 2 ≤ q := by
  have step : (1 : ℚ) ≤ 2 ^ x.exponent := one_le_pow₀ one_le_two
  have one : (1 : ℚ) ≤ x.mantissa := by exact_mod_cast Nat.one_le_iff_ne_zero.2 some_units
  have low := h.within_half.le.1
  rw [units_eq] at low
  nlinarith

def one : ℚ := 2 ^ 1074

theorem cast_mul_two_pow_div (num den n : Nat) :
    ((num * Nat.pow 2 n : ℕ) : ℚ) / den = num / den * 2 ^ n := by
  rw [Nat.pow_eq, Nat.cast_mul, Nat.cast_pow, Nat.cast_ofNat, mul_div_right_comm]

theorem one_pos : 0 < one := pow_pos two_pos 1074

theorem two_pow_le_ten_pow {m n : Nat} (h : m ≤ 3 * n) : (2 : ℚ) ^ m ≤ 10 ^ n :=
  calc (2 : ℚ) ^ m ≤ 2 ^ (3 * n) := pow_le_pow_right₀ one_le_two h
    _ = (2 ^ 3) ^ n := pow_mul 2 3 n
    _ ≤ 10 ^ n := pow_le_pow_left₀ (by norm_num) (by norm_num) n

theorem Covers.lt_limit (h : x.Covers q) : q < 10 ^ 401 * one :=
  calc q < 2 ^ (53 + x.exponent) := h.lt
    _ ≤ 2 ^ (1024 + 1074) :=
      pow_le_pow_right₀ one_le_two (Nat.add_le_add_left x.canonical.2.2 53)
    _ = 2 ^ 1024 * one := pow_add 2 1024 1074
    _ ≤ 10 ^ 401 * one := mul_le_mul_of_nonneg_right (two_pow_le_ten_pow (by decide)) one_pos.le

theorem eight_one_le : 8 * one ≤ 10 ^ 401 :=
  calc 8 * one = 2 ^ 3 * one := by norm_num
    _ = 2 ^ (3 + 1074) := (pow_add 2 3 1074).symm
    _ ≤ 10 ^ 401 := two_pow_le_ten_pow (by decide)

end Magnitude

def Decimal.value (d : Decimal) : ℚ := d.digits * 10 ^ d.exponent

namespace Number
variable {x : Magnitude} (negative : Bool)

theorem ofRatio_of_covers {num den : Nat} (pos : 0 < den)
    (h : x.Covers (num / den * Magnitude.one)) :
    ofRatio negative num den = .finite negative x := by
  revert h
  rw [ofRatio, Magnitude.one]
  -- as a numeral the power would be worked out again and again
  generalize 1074 = n
  intro h
  rw [← Magnitude.cast_mul_two_pow_div] at h
  rw [Magnitude.nearest?_of_covers pos h]
  rfl

section
variable {d : Decimal} (h : x.Covers (d.value * Magnitude.one))
include h

theorem digits_ne_zero_of_covers (some_units : x.mantissa ≠ 0) : d.digits ≠ 0 := by
  intro none
  have := h.half_le some_units
  norm_num [Decimal.value, none] at this

theorem exponent_le_of_covers (some_digits : d.digits ≠ 0) : d.exponent ≤ 400 := by
  by_contra large
  have one : (1 : ℚ) ≤ d.digits := by exact_mod_cast Nat.one_le_iff_ne_zero.2 some_digits
  have value : (10 : ℚ) ^ 401 ≤ d.value :=
    calc (10 : ℚ) ^ 401 = 10 ^ (401 : ℤ) := (zpow_natCast 10 401).symm
      _ ≤ 10 ^ d.exponent := zpow_le_zpow_right₀ (by norm_num) (by omega)
      _ ≤ d.value := le_mul_of_one_le_left (zpow_nonneg (by norm_num) _) one
  have units := mul_le_mul_of_nonneg_right value Magnitude.one_pos.le
  exact absurd h.lt_limit (not_lt.2 units)

theorem le_exponent_of_covers (some_units : x.mantissa ≠ 0) :
    -(400 + d.digits.log2 : Int) ≤ d.exponent := by
  by_contra small
  have bits : (d.digits : ℚ) ≤ 2 * 10 ^ d.digits.log2 := by
    have bits : d.digits ≤ 2 * 10 ^ d.digits.log2 :=
      calc d.digits ≤ 2 ^ (d.digits.log2 + 1) := Nat.lt_log2_self.le
        _ = 2 * 2 ^ d.digits.log2 := by rw [pow_succ, mul_comm]
        _ ≤ 2 * 10 ^ d.digits.log2 := by gcongr; decide
    exact_mod_cast bits
  have value : d.value * 10 ^ 401 ≤ 2 :=
    calc d.value * 10 ^ 401 ≤ 2 * 10 ^ d.digits.log2 * 10 ^ d.exponent * 10 ^ 401 :=
          mul_le_mul_of_nonneg_right
            (mul_le_mul_of_nonneg_right bits (zpow_nonneg (by norm_num) _)) (by positivity)
      _ = 2 * 10 ^ (d.digits.log2 + d.exponent + 401) := by
          rw [zpow_add₀ (by norm_num), zpow_add₀ (by norm_num), zpow_natCast, ← mul_assoc,
            ← mul_assoc]
          rfl
      _ ≤ 2 * 10 ^ (0 : ℤ) := by
          gcongr
          · norm_num
          · omega
      _ = 2 := by norm_num
  have units := h.half_le some_units
  have nonneg : 0 ≤ d.value := mul_nonneg (Nat.cast_nonneg _) (zpow_nonneg (by norm_num) _)
  have four : (4 : ℚ) ≤ 2 :=
    calc (4 : ℚ) ≤ d.value * (8 * Magnitude.one) := by linarith
      _ ≤ d.value * 10 ^ 401 := mul_le_mul_of_nonneg_left Magnitude.eight_one_le nonneg
      _ ≤ 2 := value
  norm_num at four

end

/-- A decimal reads as the magnitude that covers it. -/
theorem ofDecimal_of_covers {d : Decimal} (some_units : x.mantissa ≠ 0)
    (h : x.Covers (d.value * Magnitude.one)) : ofDecimal negative d = .finite negative x := by
  have some_digits := digits_ne_zero_of_covers h some_units
  have large := exponent_le_of_covers h some_digits
  have small := le_exponent_of_covers h some_units
  rw [ofDecimal, if_neg some_digits, if_neg (not_lt.2 large), if_neg (not_lt.2 small)]
  split
  · rename_i whole
    obtain ⟨n, places⟩ := Int.eq_ofNat_of_zero_le whole
    have value : ((d.digits * Nat.pow 10 d.exponent.toNat : ℕ) : ℚ) / (1 : ℕ) = d.value := by
      rw [Nat.cast_one, div_one, Decimal.value, places, Int.toNat_natCast, zpow_natCast,
        Nat.pow_eq]
      push_cast
      rfl
    exact ofRatio_of_covers negative Nat.one_pos (by rwa [value])
  · rename_i fraction
    obtain ⟨n, places⟩ := Int.exists_eq_neg_ofNat (not_le.1 fraction).le
    have value : (d.digits : ℚ) / (Nat.pow 10 (-d.exponent).toNat : ℕ) = d.value := by
      rw [Decimal.value, places, neg_neg, Int.toNat_natCast, zpow_neg, zpow_natCast,
        div_eq_mul_inv, Nat.pow_eq]
      push_cast
      rfl
    exact ofRatio_of_covers negative (Nat.pow_pos (by decide)) (by rwa [value])

end Number

end KubeEntities
