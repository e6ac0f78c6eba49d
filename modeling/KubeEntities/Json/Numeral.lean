import KubeEntities.Json
import KubeEntities.Number.Text

/-! Numerals in JSON text. An integer that fits 64 bits is exact. Any other number is read in two
roundings: its leading digits, as many as fit 64 bits, are rounded to a number, and that is
multiplied or divided by the number nearest to the power of ten. A numeral with many digits or a
large exponent may so be read as a neighbour of the nearest number. -/

namespace KubeEntities

namespace Number

/-- The number nearest to a product of finite numbers; any other product is taken to be NaN. -/
def mul : Number → Number → Number
  | .finite s x, .finite t y => ofRatio (s != t) (x.units * y.units) (Nat.pow 2 2148)
  | _, _ => .nan

/-- The number nearest to a quotient of finite numbers, for a divisor other than zero; any other
quotient is taken to be NaN. -/
def div : Number → Number → Number
  | .finite s x, .finite t y => ofRatio (s != t) x.units y.units
  | _, _ => .nan

def powerOfTen (n : Nat) : Number := ofRatio false (Nat.pow 10 n) 1

/-- Scales a significand below `2 ^ 64` by a power of ten. No number is divided by more than
`10 ^ 308` at once, and two such divisions leave nothing. -/
def ofScaled (negative : Bool) (significand : Nat) (exponent : Int) : Number :=
  let x := ofRatio negative significand 1
  if significand = 0 then x
  else if 308 < exponent then .infinite negative
  else if 0 ≤ exponent then x.mul (powerOfTen exponent.toNat)
  else if -308 ≤ exponent then x.div (powerOfTen (-exponent).toNat)
  else if -616 ≤ exponent then (x.div (powerOfTen 308)).div (powerOfTen (-exponent - 308).toNat)
  else .zero negative

end Number

namespace Json

/-- Reads digits on while the value fits 64 bits, and gives back the digits left over. -/
def leadingDigits (value : Nat) : List Char → Nat × List Char
  | [] => (value, [])
  | c :: rest =>
    let next := 10 * value + (c.toNat - '0'.toNat)
    if next < Nat.pow 2 64 then leadingDigits next rest else (value, c :: rest)

/-- Whole digits left over count as zeros, those of a fraction not at all. -/
def real (negative : Bool) (whole fraction : List Char) (exponent : Int) : Scalar :=
  let (value, extra) := leadingDigits 0 whole
  let (value, unread) := leadingDigits value fraction
  .float (.ofScaled negative value
    (exponent + extra.length - (fraction.length - unread.length : Nat)))

/-- A numeral without leading zeros, with digits on both sides of a point. Without fraction and
exponent it is an integer if it fits 64 bits, signed when negative; minus zero does not. -/
def numeral? (chars : List Char) : Option Scalar :=
  let (negative, body) := match chars with
    | '-' :: rest => (true, rest)
    | rest => (false, rest)
  let whole := body.takeWhile Char.isDigit
  let tail := body.dropWhile Char.isDigit
  if whole.isEmpty || (whole.head? == some '0' && 1 < whole.length) then none
  else match tail with
    | [] =>
      let n := Number.natOfDigits whole
      if negative && 0 < n && n ≤ Nat.pow 2 63 then some (.int (-n))
      else if !negative && n < Nat.pow 2 64 then some (.int n)
      else some (real negative whole [] 0)
    | '.' :: rest =>
      let fraction := rest.takeWhile Char.isDigit
      if fraction.isEmpty then none
      else (Number.exponent? (rest.dropWhile Char.isDigit)).map (real negative whole fraction)
    | tail => (Number.exponent? tail).map (real negative whole [])

end Json
end KubeEntities
