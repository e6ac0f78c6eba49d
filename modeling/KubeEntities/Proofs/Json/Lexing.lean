import KubeEntities.Json.Token
import KubeEntities.Proofs.Text.Integer
import Mathlib.Data.List.TakeWhile
import Mathlib.Tactic.SplitIfs

/-! Lexing what was spelled. `Adds chars tokens` says that a lexer between tokens takes these
characters for these tokens, where a word at their end counts as taken: whatever may follow ends it.
Scalars are spelled so that they add themselves (`adds_spellScalar`), as far as their numbers read
back. -/

namespace KubeEntities

namespace Json

namespace Lexer

def settle (l : Lexer) : Option Lexer :=
  match l.mode with
  | .word read => (word? read.reverse).map fun s => ⟨.between, .scalar s :: l.tokens⟩
  | _ => some l

theorem step_eq_settle {c : Char} (ends : endsWord c = true) (l : Lexer) :
    l.step c = l.settle.bind (·.step c) := by
  obtain ⟨mode, tokens⟩ := l
  cases mode with
  | word read =>
    simp only [step, settle, ends, if_true]
    cases word? read.reverse <;> rfl
  | _ => rfl

theorem finish_eq_settle (l : Lexer) : l.finish = l.settle.bind finish := by
  obtain ⟨mode, tokens⟩ := l
  cases mode with
  | word read =>
    simp only [finish, settle]
    cases word? read.reverse <;> rfl
  | _ => rfl

end Lexer

def Adds (chars : List Char) (tokens : List Token) : Prop :=
  ∀ before, (chars.foldlM Lexer.step ⟨.between, before⟩).bind Lexer.settle =
    some ⟨.between, tokens.reverse ++ before⟩

namespace Adds

theorem nil : Adds [] [] := fun _ => rfl

theorem append {chars chars' : List Char} {tokens tokens' : List Token}
    (first : Adds chars tokens) (second : Adds chars' tokens')
    (ends : chars'.head?.any Lexer.endsWord = true) :
    Adds (chars ++ chars') (tokens ++ tokens') := by
  intro before
  obtain ⟨c, starts, ends⟩ := (Option.any_eq_true ..).1 ends
  obtain ⟨chars', rfl⟩ := List.head?_eq_some_iff.1 starts
  have joined : (fun l => (c :: chars').foldlM Lexer.step l) = fun l =>
      l.settle.bind fun l => (c :: chars').foldlM Lexer.step l := by
    funext l
    rw [List.foldlM_cons, l.step_eq_settle ends]
    cases l.settle <;> rfl
  rw [List.foldlM_append, Option.bind_eq_bind, joined, ← Option.bind_assoc, first before]
  exact (second _).trans (by simp)

theorem space {c : Char} (hc : isSpace c = true) {chars : List Char} {tokens : List Token}
    (rest : Adds chars tokens) : Adds (c :: chars) tokens := by
  intro before
  have stays : Lexer.step ⟨.between, before⟩ c = some ⟨.between, before⟩ := by
    simp [Lexer.step, Lexer.between, hc]
  rw [List.foldlM_cons, stays]
  exact rest before

theorem punctuation {c : Char} {token : Token} (hc : punctuation? c = some token)
    {chars : List Char} {tokens : List Token} (rest : Adds chars tokens) :
    Adds (c :: chars) (token :: tokens) := by
  intro before
  have plain : isSpace c = false ∧ c ≠ '"' := by
    unfold punctuation? at hc
    split_ifs at hc <;> subst c <;> decide
  have adds : Lexer.step ⟨.between, before⟩ c = some ⟨.between, token :: before⟩ := by
    simp [Lexer.step, Lexer.between, plain, hc]
  rw [List.foldlM_cons, adds]
  exact (rest (token :: before)).trans (by simp)

theorem tokens? {chars : List Char} {tokens : List Token} (h : Adds chars tokens) :
    tokens? chars = some tokens := by
  have settled := h []
  rw [List.append_nil] at settled
  unfold Json.tokens?
  simp only [Lexer.start]
  have finished : (chars.foldlM Lexer.step ⟨.between, []⟩).bind Lexer.finish =
      ((chars.foldlM Lexer.step ⟨.between, []⟩).bind Lexer.settle).bind Lexer.finish := by
    rw [Option.bind_assoc]
    exact congrArg _ (funext Lexer.finish_eq_settle)
  rw [finished, settled]
  simp [Lexer.finish]

theorem word {first : Char} {rest : List Char} {s : Scalar}
    (plain : ∀ c ∈ first :: rest, Lexer.endsWord c = false) (h : word? (first :: rest) = some s) :
    Adds (first :: rest) [.scalar s] := by
  have reads (chars read : List Char) (before : List Token)
      (plain : ∀ c ∈ chars, Lexer.endsWord c = false) :
      chars.foldlM Lexer.step ⟨.word read, before⟩ =
        some ⟨.word (chars.reverse ++ read), before⟩ := by
    induction chars generalizing read with
    | nil => rfl
    | cons c chars ih =>
      have taken : Lexer.step ⟨.word read, before⟩ c = some ⟨.word (c :: read), before⟩ := by
        simp [Lexer.step, plain c List.mem_cons_self]
      rw [List.foldlM_cons, taken]
      exact (ih (c :: read) fun d hd => plain d (List.mem_cons_of_mem _ hd)).trans (by simp)
  intro before
  have start := plain first List.mem_cons_self
  simp only [Lexer.endsWord, Bool.or_eq_false_iff, Option.isSome_eq_false_iff,
    Option.isNone_iff_eq_none] at start
  have begun : Lexer.step ⟨.between, before⟩ first = some ⟨.word [first], before⟩ := by
    simp_all [Lexer.step, Lexer.between]
  rw [List.foldlM_cons, begun]
  change (rest.foldlM Lexer.step ⟨.word [first], before⟩).bind Lexer.settle = _
  rw [reads rest [first] before fun c hc => plain c (List.mem_cons_of_mem _ hc)]
  simp [Lexer.settle, h]

end Adds

section
variable (read : List Nat) (before : List Token)

theorem hexValue?_hexDigit {n : Nat} (h : n < 16) : hexValue? (hexDigit n) = some n := by
  revert n
  decide

theorem foldlM_escapedChar (c : Char) :
    (escapedChar c).foldlM Lexer.step ⟨.quoted read, before⟩ =
      some ⟨.quoted (c.toNat :: read), before⟩ := by
  unfold escapedChar
  split_ifs with quote backslash backspace tab newline page carriage control
  all_goals try (subst c; rfl)
  · have high : hexValue? (hexDigit (c.toNat / 16)) = some (c.toNat / 16) :=
      hexValue?_hexDigit (by omega)
    have low : hexValue? (hexDigit (c.toNat % 16)) = some (c.toNat % 16) :=
      hexValue?_hexDigit (by omega)
    have zero : hexValue? '0' = some 0 := rfl
    have code : 16 * (c.toNat / 16) + c.toNat % 16 = c.toNat := Nat.div_add_mod ..
    simp [Lexer.step, high, low, zero, code]
  · simp [Lexer.step, quote, backslash, control]

theorem foldlM_escaped (chars : List Char) :
    (chars.flatMap escapedChar).foldlM Lexer.step ⟨.quoted read, before⟩ =
      some ⟨.quoted (chars.reverse.map Char.toNat ++ read), before⟩ := by
  induction chars generalizing read with
  | nil => rfl
  | cons c chars ih =>
    rw [List.flatMap_cons, List.foldlM_append, foldlM_escapedChar]
    exact (ih (c.toNat :: read)).trans (by simp)

end

theorem stringOfCodes_toNat (chars : List Char) :
    stringOfCodes (chars.reverse.map Char.toNat) = .str (String.ofList chars) := by
  have text := textOfCodes?_toNat [] chars.reverse
  simp only [List.reverse_reverse, List.append_nil] at text
  rw [stringOfCodes, text]

theorem adds_spellString (s : String) : Adds (spellString s) [.scalar (.str s)] := by
  intro before
  have opened : Lexer.step ⟨.between, before⟩ '"' = some ⟨.quoted [], before⟩ := rfl
  have closed (read : List Nat) : Lexer.step ⟨.quoted read, before⟩ '"' =
      some ⟨.between, .scalar (stringOfCodes read) :: before⟩ := rfl
  rw [spellString, List.cons_append, List.foldlM_cons, opened, Option.bind_eq_bind,
    Option.bind_some, List.foldlM_append, foldlM_escaped, List.append_nil, Option.bind_eq_bind,
    Option.bind_some, List.foldlM_cons, closed, stringOfCodes_toNat, String.ofList_toList]
  rfl

theorem endsWord_of_isDigit {c : Char} (h : c.isDigit = true) : Lexer.endsWord c = false := by
  have other (d : Char) (hd : d.isDigit = false) : c ≠ d := by
    rintro rfl
    rw [h] at hd
    cases hd
  have space := other ' ' rfl
  have newline := other '\n' rfl
  have tab := other '\t' rfl
  have return_ := other '\r' rfl
  have quote := other '"' rfl
  have beginArray := other '[' rfl
  have endArray := other ']' rfl
  have beginObject := other '\x7b' rfl
  have endObject := other '\x7d' rfl
  have comma := other ',' rfl
  have colon := other ':' rfl
  simp_all [Lexer.endsWord, isSpace, punctuation?]

theorem endsWord_of_exponent? {chars : List Char} {e : Int} (h : Number.exponent? chars = some e) :
    ∀ c ∈ chars, Lexer.endsWord c = false := by
  have signed (rest : List Char)
      (digits : ∀ c ∈ (Number.splitSign rest).2, Lexer.endsWord c = false) :
      ∀ c ∈ rest, Lexer.endsWord c = false := by
    unfold Number.splitSign at digits
    split at digits
    · exact List.forall_mem_cons.2 ⟨rfl, digits⟩
    · exact List.forall_mem_cons.2 ⟨rfl, digits⟩
    · exact digits
  unfold Number.exponent? at h
  split at h
  · simp
  · rename_i mark rest
    split at h
    · rename_i isMark
      dsimp only at h
      split at h
      · cases h
      · rename_i digits
        simp only [Bool.or_eq_true, Bool.not_eq_true', not_or, Bool.not_eq_false,
          List.all_eq_true] at digits
        refine List.forall_mem_cons.2 ⟨?_, signed rest fun c hc =>
          endsWord_of_isDigit (digits.2 c hc)⟩
        rcases isMark with rfl | rfl <;> rfl
    · cases h

theorem endsWord_of_numeral? {chars : List Char} {s : Scalar} (h : numeral? chars = some s) :
    chars ≠ [] ∧ ∀ c ∈ chars, Lexer.endsWord c = false := by
  have whole (body : List Char) : ∀ c ∈ body.takeWhile Char.isDigit, Lexer.endsWord c = false :=
    fun c hc => endsWord_of_isDigit (List.mem_takeWhile_imp hc)
  have joined (body : List Char)
      (tail : ∀ c ∈ body.dropWhile Char.isDigit, Lexer.endsWord c = false) :
      ∀ c ∈ body, Lexer.endsWord c = false := by
    rw [← List.takeWhile_append_dropWhile (p := Char.isDigit) (l := body)]
    exact List.forall_mem_append.2 ⟨whole body, tail⟩
  unfold numeral? at h
  split at h
  rename_i negative body signed
  have body_plain : body ≠ [] ∧ ∀ c ∈ body, Lexer.endsWord c = false := by
    dsimp only at h
    split at h
    · cases h
    · rename_i nonempty
      refine ⟨fun none => by simp [none] at nonempty, joined body ?_⟩
      split at h
      · rename_i ended
        simp [ended]
      · rename_i rest pointed
        split at h
        · cases h
        · obtain ⟨e, exponent, -⟩ := Option.map_eq_some_iff.1 h
          rw [pointed]
          exact List.forall_mem_cons.2 ⟨rfl, joined rest (endsWord_of_exponent? exponent)⟩
      · obtain ⟨e, exponent, -⟩ := Option.map_eq_some_iff.1 h
        exact endsWord_of_exponent? exponent
  split at signed
  · cases signed
    exact ⟨List.cons_ne_nil _ _, List.forall_mem_cons.2 ⟨rfl, body_plain.2⟩⟩
  · cases signed
    exact body_plain

theorem word?_of_numeral? {chars : List Char} {s : Scalar} (h : numeral? chars = some s) :
    word? chars = some s := by
  unfold word?
  split
  · cases h
  · cases h
  · cases h
  · exact h

theorem adds_numeral {chars : List Char} {s : Scalar} (h : numeral? chars = some s) :
    Adds chars [.scalar s] := by
  obtain ⟨nonempty, plain⟩ := endsWord_of_numeral? h
  obtain ⟨first, rest, rfl⟩ := List.exists_cons_of_ne_nil nonempty
  exact .word plain (word?_of_numeral? h)

theorem head_toDigits_ne_zero {n : Nat} (h : n ≠ 0) : (Nat.toDigits 10 n).head? ≠ some '0' := by
  induction n using Nat.strongRecOn with
  | ind n ih =>
    by_cases small : n < 10
    · rw [Nat.toDigits_of_lt_base small]
      have : ∀ n < 10, n ≠ 0 → [n.digitChar].head? ≠ some '0' := by decide
      exact this n small h
    · have big : 10 ≤ n := by omega
      obtain ⟨c, digits, shown⟩ :=
        List.exists_cons_of_ne_nil (Nat.toDigits_ne_nil (b := 10) (n := n / 10))
      have first := ih (n / 10) (by omega) (by omega)
      rw [Nat.toDigits_of_base_le (by decide) big, shown]
      rwa [shown] at first

/-- An integer that fits 64 bits, signed when it is negative. -/
def FitsWord (n : Int) : Prop := -(Nat.pow 2 63 : Int) ≤ n ∧ n < Nat.pow 2 64

theorem numeral?_toDigits (n : Nat) :
    numeral? (Nat.toDigits 10 n) =
        (if n < Nat.pow 2 64 then some (.int n) else some (real false (Nat.toDigits 10 n) [] 0)) ∧
      numeral? ('-' :: Nat.toDigits 10 n) =
        if 0 < n ∧ n ≤ Nat.pow 2 63 then some (.int (-n))
        else some (real true (Nat.toDigits 10 n) [] 0) := by
  have run : (Nat.toDigits 10 n).takeWhile Char.isDigit = Nat.toDigits 10 n :=
    List.takeWhile_eq_self_iff.2 fun c hc => Text.isDigit_of_mem_toDigits hc
  have rest : (Nat.toDigits 10 n).dropWhile Char.isDigit = [] :=
    List.dropWhile_eq_nil_iff.2 fun c hc => Text.isDigit_of_mem_toDigits hc
  have value : Number.natOfDigits (Nat.toDigits 10 n) = n := Nat.ofDigitChars_ten_toDigits
  have accepted : ((Nat.toDigits 10 n).isEmpty || ((Nat.toDigits 10 n).head? == some '0' &&
      decide (1 < (Nat.toDigits 10 n).length))) = false := by
    by_cases zero : n = 0
    · subst zero
      rfl
    · simp [Nat.toDigits_ne_nil, head_toDigits_ne_zero zero]
  constructor
  · unfold numeral?
    split
    rename_i negative body signed
    split at signed
    · rename_i marked
      have digit := Text.isDigit_of_mem_toDigits (marked ▸ List.mem_cons_self)
      exact absurd digit (by decide)
    · cases signed
      simp [run, rest, value, accepted]
  · simp [numeral?, run, rest, value, accepted]

theorem numeral?_spellInt {n : Int} (h : FitsWord n) : numeral? (spellInt n) = some (.int n) := by
  obtain ⟨low, high⟩ := h
  have wide : Nat.pow 2 64 = 2 ^ 64 := rfl
  have half : Nat.pow 2 63 = 2 ^ 63 := rfl
  cases n with
  | ofNat n =>
    have spelled : spellInt (Int.ofNat n) = Nat.toDigits 10 n := by
      simp [spellInt, Number.signed]
    have fits : n < Nat.pow 2 64 := by
      rw [Int.ofNat_eq_natCast] at high
      omega
    rw [spelled, (numeral?_toDigits n).1, if_pos fits]
    rfl
  | negSucc n =>
    have spelled : spellInt (Int.negSucc n) = '-' :: Nat.toDigits 10 (n + 1) := by
      simp [spellInt, Number.signed]
    have fits : 0 < n + 1 ∧ n + 1 ≤ Nat.pow 2 63 := by
      have value := Int.negSucc_eq n
      omega
    rw [spelled, (numeral?_toDigits (n + 1)).2, if_pos fits]
    rfl

end Json

def Number.ReadsBack (x : Number) : Prop := x.jsonChars?.bind Json.numeral? = some (.float x)

instance (x : Number) : Decidable x.ReadsBack := inferInstanceAs (Decidable (_ = _))

/-- Integers of 64 bits are read exactly and texts always are; what spells no text has no text that
spells it. -/
def Scalar.ReadsBack : Scalar → Prop
  | .null | .bool _ | .str _ => True
  | .int n => Json.FitsWord n
  | .float x => x.ReadsBack
  | .noText => False

namespace Json

theorem adds_spellScalar {s : Scalar} (h : s.ReadsBack) : Adds (spellScalar s) [.scalar s] := by
  have plain {chars : List Char} (h : chars.any Lexer.endsWord = false) :
      ∀ c ∈ chars, Lexer.endsWord c = false := by
    simpa using h
  cases s with
  | null => exact .word (plain (by decide)) rfl
  | bool b => cases b <;> exact .word (plain (by decide)) rfl
  | int n => exact adds_numeral (numeral?_spellInt h)
  | float x =>
    obtain ⟨chars, spelled, read⟩ := Option.bind_eq_some_iff.1 h
    simp only [spellScalar, spelled, Option.getD_some]
    exact adds_numeral read
  | str s => exact adds_spellString s
  | noText => exact absurd h id

end Json
end KubeEntities
