import KubeEntities.Proofs.Text.Joined
import KubeEntities.Text.Quoted

/-! A text in quotes tells the text. The quoted characters are a prefix code: where one ends is told
by what stands there (`quotedChar_append_inj`). -/

namespace KubeEntities.Text

theorem digitChar_inj : ∀ d < 16, ∀ d' < 16, Nat.digitChar d = Nat.digitChar d' → d = d' := by
  decide

theorem notMem_toDigits (mark : Char) (h : ∀ d < 16, Nat.digitChar d ≠ mark) (n : Nat) :
    mark ∉ Nat.toDigits 16 n := by
  induction n using Nat.strongRecOn with
  | ind n ih =>
    have last : mark ≠ Nat.digitChar (n % 16) := (h _ (Nat.mod_lt n (by decide))).symm
    rcases Nat.lt_or_ge n 16 with small | big
    · rw [Nat.toDigits_of_lt_base small, List.mem_singleton, ← Nat.mod_eq_of_lt small]
      exact last
    · rw [Nat.toDigits_of_base_le (by decide) big, List.mem_append, List.mem_singleton, not_or]
      exact ⟨ih (n / 16) (Nat.div_lt_self (by omega) (by decide)), last⟩

theorem toDigits_inj {m n : Nat} (same : Nat.toDigits 16 m = Nat.toDigits 16 n) : m = n := by
  induction m using Nat.strongRecOn generalizing n with
  | ind m ih =>
    have several {k : Nat} (big : 16 ≤ k) (d : Char) : [d] ≠ Nat.toDigits 16 k := by
      rw [Nat.toDigits_of_base_le (by decide) big]
      have some := List.length_pos_of_ne_nil (Nat.toDigits_ne_nil (b := 16) (n := k / 16))
      intro single
      have length := congrArg List.length single
      rw [List.length_append] at length
      simp only [List.length_singleton] at length
      omega
    rcases Nat.lt_or_ge m 16 with small | big <;> rcases Nat.lt_or_ge n 16 with small' | big'
    · rw [Nat.toDigits_of_lt_base small, Nat.toDigits_of_lt_base small'] at same
      exact digitChar_inj m small n small' (List.singleton_inj.1 same)
    · rw [Nat.toDigits_of_lt_base small] at same
      exact absurd same (several big' _)
    · rw [Nat.toDigits_of_lt_base small'] at same
      exact absurd same.symm (several big _)
    · rw [Nat.toDigits_of_base_le (by decide) big, Nat.toDigits_of_base_le (by decide) big'] at same
      obtain ⟨front, last⟩ := List.append_inj' same rfl
      have front := ih (m / 16) (Nat.div_lt_self (by omega) (by decide)) front
      have last := digitChar_inj _ (Nat.mod_lt m (by decide)) _ (Nat.mod_lt n (by decide))
        (List.singleton_inj.1 last)
      omega

/-- The character that a mark behind a backslash stands for. -/
def named : Char → Char
  | 'n' => '\n'
  | 't' => '\t'
  | 'r' => '\r'
  | '0' => '\x00'
  | c => c

inductive Shown (c : Char) : List Char → Prop
  | plain : c ≠ '"' → c ≠ '\\' → Shown c [c]
  | named (mark : Char) : mark ≠ 'u' → c = named mark → Shown c ['\\', mark]
  | code : Shown c ('\\' :: 'u' :: '\x7b' :: Nat.toDigits 16 c.toNat ++ ['\x7d'])

theorem shown_quotedChar (c : Char) : Shown c (quotedChar c) := by
  unfold quotedChar
  split
  · exact .named '"' (by decide) ‹_›
  split
  · exact .named '\\' (by decide) ‹_›
  split
  · exact .named 'n' (by decide) ‹_›
  split
  · exact .named 't' (by decide) ‹_›
  split
  · exact .named 'r' (by decide) ‹_›
  split
  · exact .named '0' (by decide) ‹_›
  split
  · exact .code
  · exact .plain ‹_› ‹_›

theorem Shown.inj {c c' : Char} {shown shown' rest rest' : List Char} (h : Shown c shown)
    (h' : Shown c' shown') (same : shown ++ rest = shown' ++ rest') : c = c' ∧ rest = rest' := by
  cases h with
  | plain _ noEscape =>
    cases h' with
    | plain => exact List.cons.inj same
    | named => exact absurd (List.cons.inj same).1 noEscape
    | code => exact absurd (List.cons.inj same).1 noEscape
  | named mark noCode stands =>
    cases h' with
    | plain _ noEscape => exact absurd (List.cons.inj same).1.symm noEscape
    | named mark' _ stands' =>
      obtain ⟨rfl, rest⟩ := List.cons.inj (List.cons.inj same).2
      exact ⟨stands.trans stands'.symm, rest⟩
    | code => exact absurd (List.cons.inj (List.cons.inj same).2).1 noCode
  | code =>
    cases h' with
    | plain _ noEscape => exact absurd (List.cons.inj same).1.symm noEscape
    | named mark noCode => exact absurd (List.cons.inj (List.cons.inj same).2).1.symm noCode
    | code =>
      have inner : Nat.toDigits 16 c.toNat ++ '\x7d' :: rest =
          Nat.toDigits 16 c'.toNat ++ '\x7d' :: rest' := by simpa using same
      have digit (n : Nat) := forall_bne_of_notMem (notMem_toDigits '\x7d' (by decide) n)
      obtain ⟨digits, -, rest⟩ := run_unique (digit _) (digit _) (by simp) (by simp) inner
      exact ⟨Char.toNat_inj.1 (toDigits_inj digits), rest⟩

theorem quotedChar_append_inj {c c' : Char} {rest rest' : List Char}
    (same : quotedChar c ++ rest = quotedChar c' ++ rest') : c = c' ∧ rest = rest' :=
  (shown_quotedChar c).inj (shown_quotedChar c') same

theorem quotedChar_ne_nil (c : Char) : quotedChar c ≠ [] := by
  intro none
  have shown := shown_quotedChar c
  rw [none] at shown
  cases shown

theorem flatMap_quotedChar_inj {l l' : List Char}
    (same : l.flatMap quotedChar = l'.flatMap quotedChar) : l = l' := by
  induction l generalizing l' with
  | nil =>
    cases l' with
    | nil => rfl
    | cons c l' => exact absurd (List.append_eq_nil_iff.1 same.symm).1 (quotedChar_ne_nil c)
  | cons c l ih =>
    cases l' with
    | nil => exact absurd (List.append_eq_nil_iff.1 same).1 (quotedChar_ne_nil c)
    | cons c' l' =>
      obtain ⟨rfl, rest⟩ := quotedChar_append_inj same
      rw [ih rest]

theorem quoted_injective : Function.Injective quoted := by
  intro s s' same
  have inner := List.append_cancel_right (List.cons.inj (String.ofList_inj.1 same)).2
  exact String.toList_inj.1 (flatMap_quotedChar_inj inner)

end KubeEntities.Text
