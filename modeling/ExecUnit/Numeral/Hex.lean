/-!
Hexadecimal numerals with lower-case digits.
-/

namespace ExecUnit.Numeral

def hexDigits (number : Nat) : List Char :=
  Nat.toDigits 16 number

def hex (number : Nat) : String :=
  .ofList (hexDigits number)

/-- At least `width` digits, with zeros in front. -/
def hexPadded (width number : Nat) : String :=
  let digits := hexDigits number
  .ofList (.replicate (width - digits.length) '0' ++ digits)

end ExecUnit.Numeral
