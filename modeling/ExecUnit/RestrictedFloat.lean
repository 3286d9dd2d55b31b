import ExecUnit.Encoding

/-!
Restricted floats: eight bits with a sign, a three-bit exponent biased by 3
and a four-bit mantissa. Floats are given by their 32 bits.
-/

namespace ExecUnit.RestrictedFloat

/-- The float that a byte stands for. A byte with neither exponent nor mantissa
is a zero. -/
def toFloat (byte : BitVec 8) : Word :=
  let sign := byte.extractLsb' 7 1
  let exponent := byte.extractLsb' 4 3
  let mantissa := byte.extractLsb' 0 4
  if byte.extractLsb' 0 7 = 0 then
    sign ++ 0#31
  else
    sign ++ (exponent.setWidth 8 + 124#8) ++ mantissa ++ 0#19

def ofFloat? (bits : Word) : Option (BitVec 8) :=
  let sign := bits.extractLsb' 31 1
  let exponent := bits.extractLsb' 23 8
  if bits.extractLsb' 0 31 = 0 then
    some (sign ++ 0#7)
  else if 124#8 ≤ exponent ∧ exponent ≤ 131#8 ∧ bits.extractLsb' 0 19 = 0 then
    some (sign ++ (exponent - 124#8).setWidth 3 ++ bits.extractLsb' 19 4)
  else none

/-- Four bytes in one word, the first in the low bits. -/
def pack4 (first second third fourth : BitVec 8) : Word :=
  fourth ++ third ++ second ++ first

def unpack4 (word : Word) : List (BitVec 8) :=
  [word.extractLsb' 0 8, word.extractLsb' 8 8, word.extractLsb' 16 8, word.extractLsb' 24 8]

def packFloats? (first second third fourth : Word) : Option Word := do
  pure (pack4 (← ofFloat? first) (← ofFloat? second) (← ofFloat? third) (← ofFloat? fourth))

end ExecUnit.RestrictedFloat
