/-! Sample numbers: binary64 values, held exactly. A magnitude is `mantissa · 2 ^ exponent` in units
of `2 ^ (-1074)`, the least positive value, and is kept in its one canonical form, so equality of
numbers is equality of terms. There is one NaN. Rounding is to nearest, a half going to the even
mantissa; a quotient of naturals is rounded once, so no result is rounded twice. -/

namespace KubeEntities

structure Magnitude where
  mantissa : Nat
  exponent : Nat
  canonical : mantissa < Nat.pow 2 53 ∧ (exponent = 0 ∨ Nat.pow 2 52 ≤ mantissa) ∧ exponent ≤ 2045
deriving DecidableEq

inductive Number
  | nan
  | infinite (negative : Bool)
  | finite (negative : Bool) (magnitude : Magnitude)
deriving DecidableEq

/-- The whole number nearest to `num / den`, the even one of two. -/
def roundDiv (num den : Nat) : Nat :=
  let whole := num / den
  let rest := num % den
  if 2 * rest < den then whole
  else if den < 2 * rest then whole + 1
  else whole + whole % 2

namespace Magnitude

def zero : Magnitude := ⟨0, 0, by decide⟩

/-- How many times the least positive value. -/
def units (x : Magnitude) : Nat := x.mantissa * Nat.pow 2 x.exponent

def ofParts? (mantissa exponent : Nat) : Option Magnitude :=
  if h : mantissa < Nat.pow 2 53 ∧ (exponent = 0 ∨ Nat.pow 2 52 ≤ mantissa) ∧ exponent ≤ 2045 then
    some ⟨mantissa, exponent, h⟩
  else none

/-- The magnitude nearest to `num / den` units; none beyond the largest. The exponent is the least
that leaves 53 bits, and rounding up to a 54th carries into it. -/
def nearest? (num den : Nat) : Option Magnitude :=
  let exponent := (num / den).log2 - 52
  let mantissa := roundDiv num (den * Nat.pow 2 exponent)
  if mantissa = Nat.pow 2 53 then ofParts? (Nat.pow 2 52) (exponent + 1)
  else ofParts? mantissa exponent

theorem ofParts?_eq_some {mantissa exponent : Nat} {x : Magnitude} :
    ofParts? mantissa exponent = some x ↔ x.mantissa = mantissa ∧ x.exponent = exponent := by
  unfold ofParts?
  split
  · constructor
    · intro h
      cases h
      exact ⟨rfl, rfl⟩
    · rintro ⟨rfl, rfl⟩
      rfl
  · rename_i h
    constructor
    · intro h'
      cases h'
    · rintro ⟨rfl, rfl⟩
      exact absurd x.canonical h

end Magnitude

namespace Number

def zero (negative : Bool) : Number := .finite negative .zero

def isFinite : Number → Bool
  | .finite .. => true
  | _ => false

/-- The number nearest to `± num / den`, infinite beyond the range. -/
def ofRatio (negative : Bool) (num den : Nat) : Number :=
  (Magnitude.nearest? (num * Nat.pow 2 1074) den).elim (.infinite negative) (.finite negative)

def ofInt (n : Int) : Number := ofRatio (n < 0) n.natAbs 1

/-- A number's place in the order, as a signed count of units; NaN has none. The infinities lie
beyond the largest magnitude. -/
def rank? : Number → Option Int
  | .nan => none
  | .infinite negative => some (if negative then -Nat.pow 2 2099 else Nat.pow 2 2099)
  | .finite negative x => some (if negative then -x.units else x.units)

/-- Whether `a ≤ b`; false when either is NaN. -/
def le (a b : Number) : Bool :=
  match a.rank?, b.rank? with
  | some x, some y => x ≤ y
  | _, _ => false

/-- The number nearest to a sum of finite numbers; any other sum is taken to be NaN. A sum of zero
is negative only if both parts are. -/
def add : Number → Number → Number
  | .finite s x, .finite t y =>
    let signed (negative : Bool) (z : Magnitude) : Int := if negative then -z.units else z.units
    let sum := signed s x + signed t y
    ofRatio (if sum = 0 then s && t else sum < 0) sum.natAbs (Nat.pow 2 1074)
  | _, _ => .nan

/-- False for the two zeros only. -/
def isNonzero : Number → Bool
  | .finite _ x => x.mantissa ≠ 0
  | _ => true

/-- Rounds to a natural number, a half upwards, and clamps to `0 … limit`; NaN gives 0. -/
def clamp (limit : Nat) : Number → Nat
  | .nan => 0
  | .infinite negative => if negative then 0 else limit
  | .finite true _ => 0
  | .finite false x => min limit ((2 * x.units + Nat.pow 2 1074) / Nat.pow 2 1075)

end Number
end KubeEntities
