import KubeEntities.Number.Text
import KubeEntities.Proofs.Number.Shortest
import KubeEntities.Proofs.Text.Integer
import Mathlib.Data.List.TakeWhile

/-! Plain text of numbers. The digits that are written have the value of the shortest numeral,
wherever the point comes to stand (`decimal?_positional`), so every number is read back from its
text (`ofText?_text`). -/

namespace KubeEntities.Number

theorem natOfDigits_append (l m : List Char) :
    natOfDigits (l ++ m) = 10 ^ m.length * natOfDigits l + natOfDigits m := by
  rw [natOfDigits, Nat.ofDigitChars_append, Nat.ofDigitChars_eq_ofDigitChars_zero]
  rfl

theorem natOfDigits_zeros (n : Nat) : natOfDigits (List.replicate n '0') = 0 :=
  Nat.ofDigitChars_replicate_zero.trans (Nat.mul_zero _)

theorem significant_eq (d : Decimal) : ∃ n : Nat,
    Nat.toDigits 10 d.digits = (significant d).1 ++ List.replicate n '0' ∧
      (significant d).2 = d.exponent + n := by
  let all := Nat.toDigits 10 d.digits
  let zeros := all.reverse.takeWhile (· == '0')
  have cut : all = (significant d).1 ++ zeros.reverse := by
    have parts := List.takeWhile_append_dropWhile (p := (· == '0')) (l := all.reverse)
    rw [← List.reverse_reverse all, ← parts, List.reverse_append]
    rfl
  have same : zeros.reverse = List.replicate zeros.length '0' := by
    have zero : ∀ c ∈ zeros, c = '0' := fun c hc =>
      beq_iff_eq.1 (List.mem_takeWhile_imp (p := (· == '0')) hc)
    rw [← List.reverse_replicate, ← List.eq_replicate_of_mem zero]
  refine ⟨zeros.length, by rw [← same]; exact cut, ?_⟩
  have lengths := congrArg List.length cut
  rw [List.length_append, List.length_reverse] at lengths
  change d.exponent + ((all.length - (significant d).1.length : Nat) : Int) = _
  omega

theorem isDigit_of_mem_significant {d : Decimal} {c : Char} (h : c ∈ (significant d).1) :
    c.isDigit = true := by
  obtain ⟨n, digits, _⟩ := significant_eq d
  exact Text.isDigit_of_mem_toDigits (digits ▸ List.mem_append_left _ h)

theorem natOfDigits_significant (d : Decimal) :
    (natOfDigits (significant d).1 : ℚ) * 10 ^ (significant d).2 = d.value := by
  obtain ⟨n, digits, exponent⟩ := significant_eq d
  have value : d.digits = 10 ^ n * natOfDigits (significant d).1 := by
    rw [← @Nat.ofDigitChars_ten_toDigits d.digits]
    change natOfDigits (Nat.toDigits 10 d.digits) = _
    rw [digits, natOfDigits_append, natOfDigits_zeros, List.length_replicate, Nat.add_zero]
  rw [Decimal.value, exponent, zpow_add₀ (by norm_num), zpow_natCast, value]
  push_cast
  ring

theorem significant_ne_nil {d : Decimal} (some_digits : d.digits ≠ 0) :
    (significant d).1 ≠ [] := by
  intro none
  obtain ⟨n, digits, _⟩ := significant_eq d
  refine some_digits ?_
  rw [← @Nat.ofDigitChars_ten_toDigits d.digits, digits, none]
  exact natOfDigits_zeros n

section
variable {whole fraction : List Char} (digits : ∀ c ∈ whole, c.isDigit = true)
include digits

theorem decimal?_whole (some_digits : whole ≠ []) :
    decimal? whole = some ⟨natOfDigits whole, 0⟩ := by
  have taken : whole.takeWhile Char.isDigit = whole := List.takeWhile_eq_self_iff.2 digits
  have left : whole.dropWhile Char.isDigit = [] := List.dropWhile_eq_nil_iff.2 digits
  simp [decimal?, taken, left, some_digits, exponent?]

theorem decimal?_point (some_digits : whole ≠ []) (digits' : ∀ c ∈ fraction, c.isDigit = true) :
    decimal? (whole ++ '.' :: fraction) =
      some ⟨natOfDigits (whole ++ fraction), -fraction.length⟩ := by
  have taken : (whole ++ '.' :: fraction).takeWhile Char.isDigit = whole := by
    rw [List.takeWhile_append_of_pos digits]
    simp
  have left : (whole ++ '.' :: fraction).dropWhile Char.isDigit = '.' :: fraction := by
    rw [List.dropWhile_append_of_pos digits]
    simp
  have taken' : fraction.takeWhile Char.isDigit = fraction := List.takeWhile_eq_self_iff.2 digits'
  have left' : fraction.dropWhile Char.isDigit = [] := List.dropWhile_eq_nil_iff.2 digits'
  simp [decimal?, taken, left, taken', left', some_digits, exponent?]

end

section
variable {digits : List Char} (all_digits : ∀ c ∈ digits, c.isDigit = true)
include all_digits

theorem decimal?_positional (some_digits : digits ≠ []) (exponent : Int) :
    ∃ d, decimal? (positional digits exponent) = some d ∧
      d.value = natOfDigits digits * 10 ^ exponent := by
  have zeros (n : Nat) : ∀ c ∈ List.replicate n '0', c.isDigit = true :=
    fun c hc => List.eq_of_mem_replicate hc ▸ rfl
  unfold positional
  split
  · rename_i whole
    obtain ⟨n, rfl⟩ := Int.eq_ofNat_of_zero_le whole
    refine ⟨_, decimal?_whole (List.forall_mem_append.2 ⟨all_digits, zeros _⟩)
      (by simp [some_digits]), ?_⟩
    rw [Decimal.value, natOfDigits_append, natOfDigits_zeros, List.length_replicate,
      Int.toNat_natCast, zpow_natCast, zpow_zero]
    push_cast
    ring
  · rename_i fraction
    obtain ⟨places, rfl⟩ := Int.exists_eq_neg_ofNat (not_le.1 fraction).le
    rw [neg_neg, Int.toNat_natCast]
    dsimp only
    split
    · rename_i inside
      have before : digits.take (digits.length - places) ≠ [] := by
        rw [Ne, List.take_eq_nil_iff]
        exact not_or.2 ⟨by omega, some_digits⟩
      refine ⟨_, decimal?_point (fun c hc => all_digits c (List.mem_of_mem_take hc)) before
        fun c hc => all_digits c (List.mem_of_mem_drop hc), ?_⟩
      rw [Decimal.value, List.take_append_drop, List.length_drop, Nat.sub_sub_self inside.le]
    · rename_i outside
      let behind := List.replicate (places - digits.length) '0' ++ digits
      have point : behind.length = places := by
        rw [List.length_append, List.length_replicate]
        omega
      have value : natOfDigits (['0'] ++ behind) = natOfDigits digits := by
        have zero : natOfDigits ['0'] = 0 := natOfDigits_zeros 1
        rw [natOfDigits_append, natOfDigits_append, natOfDigits_zeros, zero, Nat.mul_zero,
          Nat.mul_zero, Nat.zero_add, Nat.zero_add]
      have read : decimal? (['0'] ++ '.' :: behind) =
          some ⟨natOfDigits (['0'] ++ behind), -behind.length⟩ :=
        decimal?_point (by simp) (by simp) (List.forall_mem_append.2 ⟨zeros _, all_digits⟩)
      refine ⟨_, read, ?_⟩
      rw [Decimal.value, value, point]

theorem exists_positional_eq_cons (some_digits : digits ≠ []) (exponent : Int) :
    ∃ c rest, positional digits exponent = c :: rest ∧ c.isDigit = true := by
  obtain ⟨c, rest, rfl⟩ := List.exists_cons_of_ne_nil some_digits
  have digit := all_digits c List.mem_cons_self
  unfold positional
  split
  · exact ⟨c, _, rfl, digit⟩
  · dsimp only
    split
    · rename_i inside
      obtain ⟨n, before⟩ := Nat.exists_eq_add_of_lt inside
      rw [before, Nat.add_assoc, Nat.add_sub_cancel_left, List.take_succ_cons]
      exact ⟨c, _, rfl, digit⟩
    · exact ⟨'0', _, rfl, rfl⟩

end

theorem toLower_of_isDigit {c : Char} (h : c.isDigit = true) : c.toLower = c := by
  have bounds : 48 ≤ c.val.toNat ∧ c.val.toNat ≤ 57 := by
    simpa [Char.isDigit, UInt32.le_iff_toNat_le] using h
  refine dif_neg fun upper => ?_
  have low : 65 ≤ c.val.toNat := UInt32.le_iff_toNat_le.1 upper.1
  omega

theorem splitSign_signed (negative : Bool) {c : Char} {rest : List Char}
    (digit : c.isDigit = true) :
    splitSign (signed negative (c :: rest)) = (negative, c :: rest) := by
  cases negative with
  | true => rfl
  | false => exact Text.splitSign_of_isDigit digit

theorem ofChars?_signed (negative : Bool) {c : Char} {rest : List Char}
    (digit : c.isDigit = true) :
    ofChars? (signed negative (c :: rest)) =
      (decimal? (c :: rest)).map (ofDecimal negative) := by
  have lower : (c :: rest).map Char.toLower = c :: rest.map Char.toLower := by
    rw [List.map_cons, toLower_of_isDigit digit]
  have named {other : Char} {name : List Char} (letter : other.isDigit = false)
      (same : c :: rest.map Char.toLower = other :: name) : False := by
    rw [(List.cons.inj same).1, letter] at digit
    exact Bool.false_ne_true digit
  unfold ofChars?
  rw [splitSign_signed negative digit]
  dsimp only
  rw [lower]
  split
  · rename_i same
    exact (named rfl same).elim
  · rename_i same
    exact (named rfl same).elim
  · rename_i same
    exact (named rfl same).elim
  · rfl

theorem ofChars?_plainMagnitude (negative : Bool) (x : Magnitude) :
    ofChars? (signed negative (plainMagnitude x)) = some (.finite negative x) := by
  unfold plainMagnitude
  split
  · rename_i none
    have zero : x = .zero := by
      have least : x.exponent = 0 := x.canonical.2.1.resolve_right (by rw [none]; decide)
      cases x
      cases none
      cases least
      rfl
    rw [ofChars?_signed negative rfl, zero]
    rfl
  · rename_i some_units
    let d := x.shortest .upward
    have covered : x.Covers (d.value * Magnitude.one) := x.covers_shortest .upward
    have some_digits := significant_ne_nil (digits_ne_zero_of_covers covered some_units)
    have all_digits : ∀ c ∈ (significant d).1, c.isDigit = true :=
      fun c => isDigit_of_mem_significant
    obtain ⟨read, reads, value⟩ := decimal?_positional all_digits some_digits (significant d).2
    obtain ⟨c, rest, written, digit⟩ :=
      exists_positional_eq_cons all_digits some_digits (significant d).2
    rw [natOfDigits_significant] at value
    rw [← value] at covered
    change ofChars? (signed negative (positional (significant d).1 (significant d).2)) = _
    rw [written, ofChars?_signed negative digit, ← written, reads, Option.map_some,
      ofDecimal_of_covers negative some_units covered]

theorem ofText?_text (x : Number) : ofText? x.text = some x := by
  cases x with
  | nan => rfl
  | infinite negative => cases negative <;> rfl
  | finite negative x =>
    rw [ofText?, text, String.toList_ofList, ofChars?_plainMagnitude]

end KubeEntities.Number
