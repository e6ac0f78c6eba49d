import KubeEntities.Number

/-! Decimal numerals of magnitudes. A decimal reads as the nearest number; a magnitude is written
with the fewest digits that read back as it, and of those the nearest. Everything is exact
arithmetic on naturals: a magnitude and the ends of the interval that rounds to it are scaled by
`2 ^ 1076 · 10 ^ 400`, where halves and quarters of a unit and every power of ten that is needed
are whole. -/

namespace KubeEntities

/-- The value `digits · 10 ^ exponent`. -/
structure Decimal where
  digits : Nat
  exponent : Int
deriving DecidableEq

/-- Which neighbour is written when a magnitude lies half way between two shortest numerals. -/
inductive Tie
  | upward
  | even
deriving DecidableEq

namespace Number

/-- The number nearest to a decimal. Exponents far outside the range are answered without a power
of ten: `d < 2 ^ (log2 d + 1)` bounds the digits. -/
def ofDecimal (negative : Bool) (d : Decimal) : Number :=
  if d.digits = 0 then .zero negative
  else if 400 < d.exponent then .infinite negative
  else if d.exponent < -(400 + d.digits.log2 : Int) then .zero negative
  else if 0 ≤ d.exponent then ofRatio negative (d.digits * Nat.pow 10 d.exponent.toNat) 1
  else ofRatio negative d.digits (Nat.pow 10 (-d.exponent).toNat)

end Number

namespace Magnitude

def scaled (x : Magnitude) : Nat := 4 * x.units * Nat.pow 10 400

/-- Half the gap to the next magnitude, scaled. -/
def halfAbove (x : Magnitude) : Nat := 2 * Nat.pow 2 x.exponent * Nat.pow 10 400

/-- Half the gap to the magnitude before, scaled; it is narrower just above a power of two. -/
def halfBelow (x : Magnitude) : Nat :=
  (if x.mantissa = Nat.pow 2 52 ∧ x.exponent ≠ 0 then 1 else 2) *
    Nat.pow 2 x.exponent * Nat.pow 10 400

/-- Whether a scaled value reads as `x`. The ends of the interval do when the mantissa is even. -/
def rounds (x : Magnitude) (value : Nat) : Bool :=
  if x.mantissa % 2 = 0 then
    x.scaled ≤ value + x.halfBelow && value ≤ x.scaled + x.halfAbove
  else
    x.scaled < value + x.halfBelow && value < x.scaled + x.halfAbove

/-- The multiple of `10 ^ (place - 400)` that is nearest to `x` among those that read as `x`. -/
def onGrid? (tie : Tie) (x : Magnitude) (place : Nat) : Option Nat :=
  let step := Nat.pow 2 1076 * Nat.pow 10 place
  let low := x.scaled / step
  let high := low + 1
  match x.rounds (low * step), x.rounds (high * step) with
  | true, true =>
    let twice := 2 * x.scaled
    let middle := (low + high) * step
    let upward := middle < twice || (middle == twice && (tie == .upward || low % 2 == 1))
    some (if upward then high else low)
  | true, false => some low
  | false, true => some high
  | false, false => none

/-- All digits of `x`: a unit is `5 ^ 1074 · 10 ^ (-1074)`. -/
def exact (x : Magnitude) : Decimal := ⟨x.units * Nat.pow 5 1074, -1074⟩

/-- The coarsest grid with a multiple that reads as `x`. Seventeen digits always suffice. -/
def shortest (tie : Tie) (x : Magnitude) : Decimal :=
  let leading := (Nat.toDigits 10 (x.scaled / Nat.pow 2 1076)).length - 1
  let onDigits (n : Nat) : Option Decimal :=
    (x.onGrid? tie (leading - n)).map fun k => ⟨k, (leading - n : Nat) - (400 : Int)⟩
  ((List.range 17).findSome? onDigits).getD x.exact

end Magnitude
end KubeEntities
