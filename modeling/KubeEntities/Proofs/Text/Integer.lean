import KubeEntities.Proofs.Text.Cut
import KubeEntities.Text.Integer

/-! Whole numbers of 64 bits read back from their decimal text, which is one word. -/

namespace KubeEntities.Text

theorem isDigit_of_mem_toDigits {n : Nat} {c : Char} (h : c ∈ Nat.toDigits 10 n) :
    c.isDigit = true :=
  Nat.isDigit_of_mem_toDigits (by decide) (by decide) h

theorem natural?_toDigits (n : Nat) : natural? (Nat.toDigits 10 n) = some n := by
  have digits : (Nat.toDigits 10 n).all Char.isDigit = true :=
    List.all_eq_true.2 fun c hc => isDigit_of_mem_toDigits hc
  simp [natural?, Nat.toDigits_ne_nil, digits, Number.natOfDigits, Nat.ofDigitChars_ten_toDigits]

theorem splitSign_of_isDigit {c : Char} {rest : List Char} (digit : c.isDigit = true) :
    Number.splitSign (c :: rest) = (false, c :: rest) := by
  unfold Number.splitSign
  split
  · rename_i same
    cases same
    exact absurd digit (by decide)
  · rename_i same
    cases same
    exact absurd digit (by decide)
  · rfl

theorem splitSign_toDigits (n : Nat) :
    Number.splitSign (Nat.toDigits 10 n) = (false, Nat.toDigits 10 n) := by
  obtain ⟨c, digits, shown⟩ := List.exists_cons_of_ne_nil (Nat.toDigits_ne_nil (b := 10) (n := n))
  rw [shown]
  exact splitSign_of_isDigit (isDigit_of_mem_toDigits (shown ▸ List.mem_cons_self))

theorem toList_toString_ofNat (n : Nat) : (toString (Int.ofNat n)).toList = Nat.toDigits 10 n := by
  rw [Int.toString_eq_repr]
  exact Nat.toList_repr

theorem toList_toString_negSucc (n : Nat) :
    (toString (Int.negSucc n)).toList = '-' :: Nat.toDigits 10 (n + 1) := by
  rw [Int.toString_eq_repr, Int.repr, String.toList_append, Nat.toList_repr]
  rfl

theorem signed64?_toString (i : Int64) : signed64? (toString i.toInt).toList = some i.toInt := by
  have low : -9223372036854775808 ≤ i.toInt := i.le_toInt
  have high : i.toInt < 9223372036854775808 := i.toInt_lt
  have limit : Nat.pow 2 63 = 9223372036854775808 := by decide
  cases shown : i.toInt with
  | ofNat n =>
    have value : Int.ofNat n = n := rfl
    have small : n < Nat.pow 2 63 := by omega
    simp only [toList_toString_ofNat, signed64?, splitSign_toDigits, natural?_toDigits,
      Option.bind_some, if_pos small, Bool.false_eq_true, if_false]
    rfl
  | negSucc n =>
    have value := Int.negSucc_eq n
    have small : n + 1 ≤ Nat.pow 2 63 := by omega
    simp only [toList_toString_negSucc, signed64?, Number.splitSign, natural?_toDigits,
      Option.bind_some, if_pos small, if_true]
    rfl

theorem isBlank_of_isDigit {c : Char} (h : c.isDigit = true) : isBlank c = false := by
  have bounds : 48 ≤ c.toNat ∧ c.toNat ≤ 57 := by
    simpa [Char.isDigit, UInt32.le_iff_toNat_le] using h
  exact isBlank_eq_false_of_visible (by omega) (by omega)

theorem isWord_toString (i : Int) : IsWord (toString i).toList := by
  have digits (n : Nat) : ∀ c ∈ Nat.toDigits 10 n, isBlank c = false :=
    fun c hc => isBlank_of_isDigit (isDigit_of_mem_toDigits hc)
  cases i with
  | ofNat n =>
    rw [toList_toString_ofNat]
    exact ⟨Nat.toDigits_ne_nil, digits n⟩
  | negSucc n =>
    rw [toList_toString_negSucc]
    exact ⟨List.cons_ne_nil _ _, List.forall_mem_cons.2 ⟨by decide, digits (n + 1)⟩⟩

end KubeEntities.Text
