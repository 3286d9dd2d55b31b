import ExecUnit.Encoding

/-!
Decimal numerals of floats with six significant digits. The value is rounded to
nearest, ties to even. It is written in positional notation when its decimal
exponent lies from -4 to 5 and in scientific notation otherwise, and trailing
zeros of the fraction are left out. Floats are given by their 32 bits.
-/

namespace ExecUnit.Numeral

/-- Every finite float is a whole number of units of `10 ^ -unitExponent`. -/
def unitExponent : Nat := 149

def significantDigits : Nat := 6

/-- The nearest whole number to `number / divisor`, a tie going to the even
neighbour. -/
def roundHalfEven (number divisor : Nat) : Nat :=
  let quotient := number / divisor
  let rest := number % divisor
  if divisor < 2 * rest ∨ (2 * rest = divisor ∧ quotient % 2 = 1) then quotient + 1
  else quotient

def isNegative (bits : Word) : Bool :=
  bits.getLsbD 31

def exponentField (bits : Word) : Nat :=
  (bits.extractLsb' 23 8).toNat

def fractionField (bits : Word) : Nat :=
  (bits.extractLsb' 0 23).toNat

/-- The magnitude of a finite float in units. Numbers without an exponent have
no leading one. -/
def units (bits : Word) : Nat :=
  let exponent := exponentField bits
  let significand := (if exponent = 0 then 0 else 0x800000) + fractionField bits
  (significand <<< (exponent - 1)) * Nat.pow 5 unitExponent

def decimalLength (number : Nat) : Nat :=
  (Nat.toDigits 10 number).length

/-- The value `digits * 10 ^ (exponent - 5)`. -/
structure Rounded where
  digits : Nat
  exponent : Int
  deriving DecidableEq, Repr

-- Rounding up to the next power of ten moves the exponent.
def roundUnits (units : Nat) : Rounded :=
  let length := decimalLength units
  let digits := roundHalfEven units (Nat.pow 10 (length - significantDigits))
  let exponent : Int := length - 1 - unitExponent
  if digits = Nat.pow 10 significantDigits then
    ⟨Nat.pow 10 (significantDigits - 1), exponent + 1⟩
  else ⟨digits, exponent⟩

def trimZeros (digits : List Char) : List Char :=
  (digits.reverse.dropWhile (· == '0')).reverse

-- A fraction of zeros is left out together with its point.
def withFraction (whole fraction : List Char) : List Char :=
  match trimZeros fraction with
  | [] => whole
  | kept => whole ++ '.' :: kept

/-- At least two digits, with a sign. -/
def exponentPart (exponent : Int) : List Char :=
  let digits := Nat.toDigits 10 exponent.natAbs
  'e' :: (if exponent < 0 then '-' else '+') ::
    (List.replicate (2 - digits.length) '0' ++ digits)

def scientific (rounded : Rounded) : List Char :=
  let digits := Nat.toDigits 10 rounded.digits
  withFraction (digits.take 1) (digits.drop 1) ++ exponentPart rounded.exponent

def positional (rounded : Rounded) : List Char :=
  let digits := Nat.toDigits 10 rounded.digits
  if rounded.exponent < 0 then
    withFraction ['0'] (.replicate (rounded.exponent.natAbs - 1) '0' ++ digits)
  else
    let whole := rounded.exponent.toNat + 1
    withFraction (digits.take whole) (digits.drop whole)

def magnitude (units : Nat) : List Char :=
  if units = 0 then ['0']
  else
    let rounded := roundUnits units
    if -4 ≤ rounded.exponent ∧ rounded.exponent < significantDigits then positional rounded
    else scientific rounded

def unsignedFloat (bits : Word) : List Char :=
  if exponentField bits = 255 then
    if fractionField bits = 0 then ['i', 'n', 'f'] else ['n', 'a', 'n']
  else magnitude (units bits)

def float (bits : Word) : String :=
  .ofList ((if isNegative bits then ['-'] else []) ++ unsignedFloat bits)

end ExecUnit.Numeral
