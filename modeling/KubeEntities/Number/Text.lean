import KubeEntities.Number.Decimal

/-! The written forms of numbers. Plain text never has an exponent and marks no whole number with a
fraction; JSON text is plain for leading exponents from -5 to 15, there with at least one fraction
digit, and scientific elsewhere. Reading takes an optional sign, digits with an optional point and
an optional exponent, or a name of infinity or NaN in any case. -/

namespace KubeEntities.Number

/-- Significant digits without trailing zeros, and the power of ten of the last one. -/
def significant (d : Decimal) : List Char × Int :=
  let all := Nat.toDigits 10 d.digits
  let kept := (all.reverse.dropWhile (· == '0')).reverse
  (kept, d.exponent + (all.length - kept.length : Nat))

def positional (digits : List Char) (exponent : Int) : List Char :=
  if 0 ≤ exponent then digits ++ List.replicate exponent.toNat '0'
  else
    let places := (-exponent).toNat
    if places < digits.length then
      digits.take (digits.length - places) ++ '.' :: digits.drop (digits.length - places)
    else
      '0' :: '.' :: List.replicate (places - digits.length) '0' ++ digits

def signed (negative : Bool) (text : List Char) : List Char :=
  if negative then '-' :: text else text

def plainMagnitude (x : Magnitude) : List Char :=
  if x.mantissa = 0 then ['0']
  else
    let (digits, exponent) := significant (x.shortest .upward)
    positional digits exponent

/-- The text of a sample value. -/
def text : Number → String
  | .nan => "NaN"
  | .infinite negative => if negative then "-Inf" else "+Inf"
  | .finite negative x => String.ofList (signed negative (plainMagnitude x))

/-- The text of a number given as a setting; only the infinities differ from `text`. -/
def settingText : Number → String
  | .infinite negative => if negative then "-inf" else "inf"
  | x => x.text

def scientific (digits : List Char) (leading : Int) : List Char :=
  let mark := if leading < 0 then '-' else '+'
  let mantissa := match digits with
    | first :: second :: rest => first :: '.' :: second :: rest
    | short => short
  mantissa ++ 'e' :: mark :: Nat.toDigits 10 leading.natAbs

/-- The digits of a finite number in JSON. -/
def jsonMagnitude (x : Magnitude) : List Char :=
  if x.mantissa = 0 then ['0', '.', '0']
  else
    let (digits, exponent) := significant (x.shortest .even)
    let leading := exponent + digits.length - 1
    if -5 ≤ leading ∧ leading < 16 then
      positional digits exponent ++ (if 0 ≤ exponent then ['.', '0'] else [])
    else scientific digits leading

/-- JSON has no text for NaN and the infinities. -/
def jsonChars? : Number → Option (List Char)
  | .finite negative x => some (signed negative (jsonMagnitude x))
  | _ => none

/-- Splits a leading sign off; true for `-`. -/
def splitSign : List Char → Bool × List Char
  | '-' :: rest => (true, rest)
  | '+' :: rest => (false, rest)
  | rest => (false, rest)

def natOfDigits (digits : List Char) : Nat := Nat.ofDigitChars 10 digits 0

/-- An exponent part: nothing, or `e` and a signed run of digits up to the end. -/
def exponent? : List Char → Option Int
  | [] => some 0
  | c :: rest =>
    if c = 'e' ∨ c = 'E' then
      let (negative, digits) := splitSign rest
      if digits.isEmpty || !digits.all Char.isDigit then none
      else some (if negative then -(natOfDigits digits) else natOfDigits digits)
    else none

/-- Digits with an optional point, at least one digit, and an optional exponent. -/
def decimal? (chars : List Char) : Option Decimal :=
  let whole := chars.takeWhile Char.isDigit
  let afterWhole := chars.dropWhile Char.isDigit
  let (fraction, tail) := match afterWhole with
    | '.' :: rest => (rest.takeWhile Char.isDigit, rest.dropWhile Char.isDigit)
    | rest => ([], rest)
  if whole.isEmpty && fraction.isEmpty then none
  else (exponent? tail).map fun e => ⟨natOfDigits (whole ++ fraction), e - fraction.length⟩

/-- A number as a person or a metrics endpoint writes it. -/
def ofChars? (chars : List Char) : Option Number :=
  let (negative, body) := splitSign chars
  match body.map Char.toLower with
  | ['n', 'a', 'n'] => some .nan
  | ['i', 'n', 'f'] => some (.infinite negative)
  | ['i', 'n', 'f', 'i', 'n', 'i', 't', 'y'] => some (.infinite negative)
  | _ => (decimal? body).map (ofDecimal negative)

def ofText? (s : String) : Option Number := ofChars? s.toList

end KubeEntities.Number
