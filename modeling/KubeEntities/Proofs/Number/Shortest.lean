import KubeEntities.Proofs.Number.Rounding

/-! The shortest numeral of a magnitude lies among the rationals which the magnitude covers
(`covers_shortest`), whether it is found on a grid or takes all digits. -/

namespace KubeEntities.Magnitude

def scale : ℚ := 4 * 10 ^ 400

theorem scale_pos : 0 < scale := mul_pos (by norm_num) (pow_pos (by norm_num) 400)

section
variable (x : Magnitude)

theorem cast_mul_ten_pow (a n : Nat) : ((a * Nat.pow 10 n : ℕ) : ℚ) = a / 4 * (4 * 10 ^ n) := by
  rw [Nat.pow_eq]
  push_cast
  ring

theorem scaled_eq : (x.scaled : ℚ) = x.units * scale := by
  rw [scaled, scale]
  generalize 400 = n
  rw [cast_mul_ten_pow]
  push_cast
  ring

theorem halfAbove_eq : (x.halfAbove : ℚ) = 2 ^ x.exponent / 2 * scale := by
  rw [halfAbove, scale]
  generalize 400 = n
  rw [cast_mul_ten_pow, Nat.pow_eq]
  push_cast
  ring

theorem halfBelow_eq : (x.halfBelow : ℚ) = x.gapBelow * scale := by
  rw [halfBelow, scale, gapBelow]
  generalize 400 = n
  rw [cast_mul_ten_pow]
  simp only [Nat.pow_eq]
  split
  · push_cast
    ring
  · push_cast
    ring

theorem rounds_iff (value : Nat) : x.rounds value = true ↔ x.Covers (value / scale) := by
  have low : x.units - x.gapBelow ≤ value / scale ↔ x.scaled ≤ value + x.halfBelow := by
    rw [le_div_iff₀ scale_pos, sub_mul, ← scaled_eq, ← halfBelow_eq, sub_le_iff_le_add]
    exact_mod_cast Iff.rfl
  have high : value / scale ≤ x.units + 2 ^ x.exponent / 2 ↔ value ≤ x.scaled + x.halfAbove := by
    rw [div_le_iff₀ scale_pos, add_mul, ← scaled_eq, ← halfAbove_eq]
    exact_mod_cast Iff.rfl
  have above : x.units - x.gapBelow < value / scale ↔ x.scaled < value + x.halfBelow := by
    rw [lt_div_iff₀ scale_pos, sub_mul, ← scaled_eq, ← halfBelow_eq, sub_lt_iff_lt_add]
    exact_mod_cast Iff.rfl
  have below : value / scale < x.units + 2 ^ x.exponent / 2 ↔ value < x.scaled + x.halfAbove := by
    rw [div_lt_iff₀ scale_pos, add_mul, ← scaled_eq, ← halfAbove_eq]
    exact_mod_cast Iff.rfl
  unfold rounds Covers Within
  split
  · rw [low, high, Bool.and_eq_true, decide_eq_true_iff, decide_eq_true_iff]
  · rw [above, below, Bool.and_eq_true, decide_eq_true_iff, decide_eq_true_iff]

end

variable {tie : Tie} {x : Magnitude}

theorem rounds_of_onGrid? {place k : Nat} (h : x.onGrid? tie place = some k) :
    x.rounds (k * (Nat.pow 2 1076 * Nat.pow 10 place)) = true := by
  unfold onGrid? at h
  generalize Nat.pow 2 1076 * Nat.pow 10 place = step at h ⊢
  dsimp only at h
  split at h
  · rename_i low high
    cases h
    split
    · exact high
    · exact low
  · rename_i low high
    cases h
    exact low
  · rename_i low high
    cases h
    exact high
  · cases h

theorem cast_step_div (place : Nat) {m k n : Nat} (two_more : k = m + 2) :
    ((Nat.pow 2 k * Nat.pow 10 place : ℕ) : ℚ) / (4 * 10 ^ n) =
      10 ^ ((place : ℤ) - n) * 2 ^ m := by
  rw [two_more, zpow_sub₀ (by norm_num), zpow_natCast, zpow_natCast, Nat.pow_eq, Nat.pow_eq]
  push_cast
  field_simp
  ring

theorem covers_of_onGrid? {place k : Nat} (h : x.onGrid? tie place = some k) :
    x.Covers ((⟨k, (place : ℤ) - (400 : ℕ)⟩ : Decimal).value * one) := by
  have covered := (x.rounds_iff _).1 (rounds_of_onGrid? h)
  have two_more : 1076 = 1074 + 2 := rfl
  rw [scale] at covered
  rw [Decimal.value, one]
  generalize 1076 = m at two_more covered
  generalize 1074 = unit at two_more ⊢
  generalize 400 = n at covered ⊢
  rwa [Nat.cast_mul, mul_div_assoc, cast_step_div place two_more, ← mul_assoc] at covered

theorem covers_units (x : Magnitude) : x.Covers x.units := by
  have step := x.step_pos
  have gap : 0 < x.gapBelow := by
    unfold gapBelow
    split <;> positivity
  unfold Covers Within
  split
  · exact ⟨by linarith, by linarith⟩
  · exact ⟨by linarith, by linarith⟩

theorem value_exact (x : Magnitude) : x.exact.value * one = x.units := by
  have places : (-1074 : ℤ) = -(1074 : ℕ) := rfl
  rw [exact, Decimal.value, one, places]
  generalize 1074 = n
  rw [zpow_neg, zpow_natCast, Nat.pow_eq]
  push_cast
  rw [show (10 : ℚ) = 5 * 2 by norm_num, mul_pow]
  field_simp

theorem covers_shortest (tie : Tie) (x : Magnitude) :
    x.Covers ((x.shortest tie).value * one) := by
  unfold shortest
  generalize (Nat.toDigits 10 (x.scaled / Nat.pow 2 1076)).length - 1 = leading
  dsimp only
  cases found : (List.range 17).findSome? fun n =>
      (x.onGrid? tie (leading - n)).map fun k => (⟨k, (leading - n : Nat) - (400 : Int)⟩ : Decimal) with
  | none =>
    rw [Option.getD_none, value_exact]
    exact x.covers_units
  | some d =>
    obtain ⟨n, _, onGrid⟩ := List.exists_of_findSome?_eq_some found
    obtain ⟨k, nearest, rfl⟩ := Option.map_eq_some_iff.1 onGrid
    exact covers_of_onGrid? nearest

end KubeEntities.Magnitude
