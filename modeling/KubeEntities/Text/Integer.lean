import KubeEntities.Number.Text

/-! Whole numbers of fixed width in text: an optional sign, then ASCII digits to the end, within the
range. An unsigned number takes `+` but not `-`. -/

namespace KubeEntities.Text

/-- `none` for an empty run, as for any other character. -/
def natural? (digits : List Char) : Option Nat :=
  if digits.isEmpty || !digits.all Char.isDigit then none else some (Number.natOfDigits digits)

def signed64? (chars : List Char) : Option Int :=
  let (negative, digits) := Number.splitSign chars
  (natural? digits).bind fun n =>
    if negative then if n ≤ Nat.pow 2 63 then some (-n) else none
    else if n < Nat.pow 2 63 then some n else none

def unsigned64? (chars : List Char) : Option Nat :=
  let digits := match chars with
    | '+' :: rest => rest
    | rest => rest
  (natural? digits).bind fun n => if n < Nat.pow 2 64 then some n else none

end KubeEntities.Text
