import ExecUnit.Encoding

/-!
Bit ranges of an instruction. A range lies inside one word. Reading gives its
value right-justified; writing keeps the low bits of the value that fit and
touches nothing outside the range.

`getLsbD_set` says what a write does to every bit. The laws below it
(`get_set`, `get_set_of_disjoint`, `set_get`, `set_set`, `set_comm`) are
read off that one statement.
-/

namespace ExecUnit

inductive RangeFault where
  | inverted
  | outside
  | crossesWord
  deriving DecidableEq, Repr

def RangeFault.message (high low : Nat) : RangeFault → String
  | .inverted => s!"bit range {high}:{low} is inverted"
  | .outside => s!"bit range {high}:{low} lies outside of the instruction"
  | .crossesWord => s!"bit range {high}:{low} crosses a 32-bit word boundary"

structure BitRange where
  high : Nat
  low : Nat
  ordered : low ≤ high
  inside : high < 128
  one_word : high / 32 = low / 32
  deriving DecidableEq, Repr

namespace BitRange

def isValid (high low : Nat) : Bool :=
  low ≤ high ∧ high < 128 ∧ high / 32 = low / 32

def span (high low : Nat) (valid : isValid high low = true := by exact Eq.refl true) :
    BitRange where
  high := high
  low := low
  ordered := (of_decide_eq_true valid).1
  inside := (of_decide_eq_true valid).2.1
  one_word := (of_decide_eq_true valid).2.2

-- The faults are told apart in this order when bounds have several.
def ofBounds (high low : Nat) : Except RangeFault BitRange :=
  if ordered : low ≤ high then
    if inside : high < 128 then
      if one_word : high / 32 = low / 32 then
        .ok ⟨high, low, ordered, inside, one_word⟩
      else .error .crossesWord
    else .error .outside
  else .error .inverted

def width (range : BitRange) : Nat :=
  range.high - range.low + 1

def capacity (range : BitRange) : Nat :=
  1 <<< range.width

def maxValue (range : BitRange) : Nat :=
  range.capacity - 1

def get (range : BitRange) (bits : Encoding) : Nat :=
  (bits.extractLsb' range.low range.width).toNat

/-- A value placed at the range, with zeros elsewhere. -/
def place (range : BitRange) (value : BitVec range.width) : Encoding :=
  value.setWidth 128 <<< range.low

def set (range : BitRange) (value : Nat) (bits : Encoding) : Encoding :=
  bits &&& ~~~range.place (.allOnes range.width) ||| range.place (.ofNat range.width value)

/-- The value as two's complement. -/
def getSigned (range : BitRange) (bits : Encoding) : Int :=
  (bits.extractLsb' range.low range.width).toInt

def setSigned (range : BitRange) (value : Int) (bits : Encoding) : Encoding :=
  range.set (BitVec.ofInt range.width value).toNat bits

def Disjoint (left right : BitRange) : Prop :=
  left.high < right.low ∨ right.high < left.low

instance (left right : BitRange) : Decidable (left.Disjoint right) :=
  inferInstanceAs (Decidable (_ ∨ _))

theorem Disjoint.swap {left right : BitRange} (apart : left.Disjoint right) :
    right.Disjoint left := Or.symm apart

theorem getLsbD_place (range : BitRange) (value : BitVec range.width) (index : Nat) :
    (range.place value).getLsbD index =
      (decide (range.low ≤ index ∧ index ≤ range.high) && value.getLsbD (index - range.low)) := by
  have inside := range.inside
  have ordered := range.ordered
  simp only [place, BitVec.getLsbD_shiftLeft, BitVec.getLsbD_setWidth]
  by_cases low : range.low ≤ index
  · by_cases high : index ≤ range.high
    · simp [low, high, show index < 128 by omega, show index - range.low < 128 by omega]
    · have past : value.getLsbD (index - range.low) = false :=
        BitVec.getLsbD_of_ge _ _ (by simp only [width]; omega)
      simp [past]
  · simp [low, show index < range.low by omega]

theorem getLsbD_set (range : BitRange) (value : Nat) (bits : Encoding) (index : Nat) :
    (range.set value bits).getLsbD index =
      if range.low ≤ index ∧ index ≤ range.high then value.testBit (index - range.low)
      else bits.getLsbD index := by
  have inside := range.inside
  simp only [set, BitVec.getLsbD_or, BitVec.getLsbD_and, BitVec.getLsbD_not, getLsbD_place]
  by_cases covered : range.low ≤ index ∧ index ≤ range.high
  · have fits : index - range.low < range.width := by simp only [width]; omega
    simp [covered, BitVec.getLsbD_ofNat, BitVec.getLsbD_allOnes, fits, -BitVec.getLsbD_eq_getElem]
  · by_cases past : index < 128
    · simp [covered, past, -BitVec.getLsbD_eq_getElem]
    · simp [covered, past, BitVec.getLsbD_of_ge bits index (by omega)]

theorem testBit_get (range : BitRange) (bits : Encoding) (index : Nat) :
    (range.get bits).testBit index =
      (decide (index < range.width) && bits.getLsbD (range.low + index)) := by
  rw [get, BitVec.testBit_toNat, BitVec.getLsbD_extractLsb']

theorem capacity_eq (range : BitRange) : range.capacity = Nat.pow 2 range.width := by
  rw [capacity, Nat.one_shiftLeft, Nat.pow_eq]

theorem get_lt (range : BitRange) (bits : Encoding) : range.get bits < range.capacity := by
  rw [capacity_eq]
  exact BitVec.isLt _

theorem extract_set (range : BitRange) (value : Nat) (bits : Encoding) :
    (range.set value bits).extractLsb' range.low range.width =
      BitVec.ofNat range.width value := by
  apply BitVec.eq_of_getLsbD_eq
  intro index fits
  rw [BitVec.getLsbD_extractLsb', getLsbD_set, BitVec.getLsbD_ofNat]
  have ordered := range.ordered
  have covered : range.low ≤ range.low + index ∧ range.low + index ≤ range.high := by
    simp only [width] at fits
    omega
  rw [if_pos covered, Nat.add_sub_cancel_left]

/-- Values that do not fit lose their high bits. -/
theorem get_set (range : BitRange) (value : Nat) (bits : Encoding) :
    range.get (range.set value bits) = value % range.capacity := by
  rw [get, extract_set, BitVec.toNat_ofNat, capacity_eq, Nat.pow_eq]

theorem getSigned_setSigned (range : BitRange) (value : Int) (bits : Encoding) :
    range.getSigned (range.setSigned value bits) = value.bmod range.capacity := by
  rw [getSigned, setSigned, extract_set, BitVec.ofNat_toNat, BitVec.setWidth_eq,
    BitVec.toInt_ofInt, capacity_eq, Nat.pow_eq]

theorem get_set_of_disjoint {left right : BitRange} (apart : left.Disjoint right) (value : Nat)
    (bits : Encoding) : left.get (right.set value bits) = left.get bits := by
  apply Nat.eq_of_testBit_eq
  intro index
  have ordered := left.ordered
  have ordered' := right.ordered
  rw [testBit_get, testBit_get, getLsbD_set]
  by_cases fits : index < left.width
  · have missed : ¬(right.low ≤ left.low + index ∧ left.low + index ≤ right.high) := by
      simp only [width] at fits
      simp only [Disjoint] at apart
      omega
    rw [if_neg missed]
  · simp [fits]

theorem set_get (range : BitRange) (bits : Encoding) : range.set (range.get bits) bits = bits := by
  apply BitVec.eq_of_getLsbD_eq
  intro index _
  rw [getLsbD_set, testBit_get]
  split
  · next covered =>
    have fits : index - range.low < range.width := by simp only [width]; omega
    simp [fits, show range.low + (index - range.low) = index by omega]
  · rfl

theorem set_set (range : BitRange) (first last : Nat) (bits : Encoding) :
    range.set last (range.set first bits) = range.set last bits := by
  apply BitVec.eq_of_getLsbD_eq
  intro index _
  simp only [getLsbD_set]
  split <;> rfl

theorem set_comm {left right : BitRange} (apart : left.Disjoint right) (first second : Nat)
    (bits : Encoding) :
    left.set first (right.set second bits) = right.set second (left.set first bits) := by
  apply BitVec.eq_of_getLsbD_eq
  intro index _
  have ordered := left.ordered
  have ordered' := right.ordered
  simp only [getLsbD_set]
  simp only [Disjoint] at apart
  by_cases inLeft : left.low ≤ index ∧ index ≤ left.high
  · have outRight : ¬(right.low ≤ index ∧ index ≤ right.high) := by omega
    simp only [inLeft, outRight, and_self, ↓reduceIte]
  · simp only [inLeft, ↓reduceIte]

theorem set_mod (range : BitRange) (value : Nat) (bits : Encoding) :
    range.set (value % range.capacity) bits = range.set value bits := by
  simp only [set]
  congr 2
  exact BitVec.eq_of_toNat_eq (by simp [capacity_eq])

end BitRange

end ExecUnit
