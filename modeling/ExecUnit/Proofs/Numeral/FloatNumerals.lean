import ExecUnit.Proofs.Numeral.DecimalNumerals
import ExecUnit.Proofs.Numeral.Rounding
import Mathlib.Data.List.DropRight
import Mathlib.Data.Sign.Basic

/-!
The numerals of floats: `float_printed` says that the text of a float is a decimal numeral,
that its value is the float's to six digits, and how it looks.

All notations show the same six digits. They differ in the zeros in front of them, in the
place of the point and in the exponent, so most is proved once, of `Rounded.laidOut`.
-/

namespace ExecUnit.Numeral

/-- How a number with the decimal exponent `leading` is written in six digits: in positional
notation from -4 to 5, with just the digits that it takes to reach the point, and otherwise
with a single digit in front of the point and an exponent of two digits or more. Zeros at the
end of the fraction are left out. -/
structure DecimalNumeral.Styled (numeral : DecimalNumeral) (leading : ℤ) : Prop where
  wellFormed : numeral.WellFormed
  significant : numeral.significant.length ≤ 6
  trimmed : numeral.fraction.getLast? ≠ some '0'
  positional : numeral.exponent? = none ↔ -4 ≤ leading ∧ leading < 6
  point : numeral.whole.length = if numeral.exponent? = none then leading.toNat + 1 else 1
  scientific : ∀ exponent, numeral.exponent? = some exponent →
    exponent.value = leading ∧ 2 ≤ exponent.digits.length

section Trimming

theorem exists_trimmed (digits : List Char) :
    ∃ zeros, digits = trimZeros digits ++ List.replicate zeros '0' := by
  have parts : digits.reverse.takeWhile (· == '0') ++ digits.reverse.dropWhile (· == '0') =
      digits.reverse := List.takeWhile_append_dropWhile
  have zeros : digits.reverse.takeWhile (· == '0') =
      List.replicate (digits.reverse.takeWhile (· == '0')).length '0' := by
    apply List.eq_replicate_of_mem
    intro char member
    have isZero := List.mem_takeWhile_imp member
    exact eq_of_beq isZero
  refine ⟨(digits.reverse.takeWhile (· == '0')).length, ?_⟩
  calc digits
      = (digits.reverse.takeWhile (· == '0') ++ digits.reverse.dropWhile (· == '0')).reverse := by
        rw [parts, List.reverse_reverse]
    _ = _ := by rw [List.reverse_append, zeros, List.reverse_replicate, List.length_replicate]; rfl

theorem getLast?_trimZeros (digits : List Char) : (trimZeros digits).getLast? ≠ some '0' := by
  rw [trimZeros, List.getLast?_reverse]
  intro last
  have kept := List.head?_dropWhile_not (· == '0') digits.reverse
  rw [last] at kept
  exact absurd kept (by decide)

theorem withFraction_eq (whole fraction : List Char) :
    withFraction whole fraction =
      whole ++ if trimZeros fraction = [] then [] else '.' :: trimZeros fraction := by
  unfold withFraction
  split
  · next empty => rw [if_pos empty, List.append_nil]
  · next kept => rw [if_neg kept]

end Trimming

section Digits

theorem length_toDigits_of_nearest {rounded : Rounded} {value : ℚ}
    (nearest : rounded.Nearest value) : (Nat.toDigits 10 rounded.digits).length = 6 := by
  have atMost : decimalLength rounded.digits ≤ 6 :=
    (decimalLength_le_iff (by decide)).mpr nearest.fits
  have atLeast : ¬decimalLength rounded.digits ≤ 5 :=
    (decimalLength_le_iff (by decide)).not.mpr (Nat.not_lt.mpr nearest.leading)
  unfold decimalLength at atMost atLeast
  omega

theorem isDigit_of_mem_padded {zeros number : Nat} {char : Char}
    (member : char ∈ List.replicate zeros '0' ++ Nat.toDigits 10 number) : char.isDigit := by
  rcases List.mem_append.mp member with inZeros | inDigits
  · rw [List.eq_of_mem_replicate inZeros]
    rfl
  · exact Nat.isDigit_of_mem_toDigits (by decide) (by decide) inDigits

theorem ofDigitChars_padded (zeros number : Nat) :
    Nat.ofDigitChars 10 (List.replicate zeros '0' ++ Nat.toDigits 10 number) 0 = number := by
  rw [Nat.ofDigitChars_append, Nat.ofDigitChars_replicate_zero, Nat.mul_zero,
    Nat.ofDigitChars_ten_toDigits]

theorem length_dropWhile_of_front {shown digits : List Char} {zeros : Nat}
    (front : shown <+: List.replicate zeros '0' ++ digits) :
    (shown.dropWhile (· == '0')).length ≤ digits.length := by
  induction zeros generalizing shown with
  | zero => exact (List.length_dropWhile_le _ _).trans front.length_le
  | succ zeros ih =>
      rcases shown with _ | ⟨char, rest⟩
      · exact Nat.zero_le _
      · rw [List.replicate_succ, List.cons_append, List.cons_prefix_cons] at front
        obtain ⟨rfl, inRest⟩ := front
        rw [List.dropWhile_cons_of_pos rfl]
        exact ih inRest

end Digits

/-- Six digits behind some zeros, with the point after the first `places` of them. -/
def Rounded.laidOut (zeros places : Nat) (negative : Bool) (exponent? : Option DecimalExponent)
    (rounded : Rounded) : DecimalNumeral :=
  let padded := List.replicate zeros '0' ++ Nat.toDigits 10 rounded.digits
  ⟨negative, padded.take places, trimZeros (padded.drop places), exponent?⟩

section LaidOut

variable (zeros places : Nat) (negative : Bool) (exponent? : Option DecimalExponent)
  (rounded : Rounded)

theorem unsignedText_laidOut :
    (rounded.laidOut zeros places negative exponent?).unsignedText =
      withFraction ((List.replicate zeros '0' ++ Nat.toDigits 10 rounded.digits).take places)
        ((List.replicate zeros '0' ++ Nat.toDigits 10 rounded.digits).drop places) ++
          exponent?.elim [] DecimalExponent.text := by
  rw [withFraction_eq]
  rfl

theorem laidOut_begins_padded :
    (rounded.laidOut zeros places negative exponent?).whole ++
        (rounded.laidOut zeros places negative exponent?).fraction <+:
      List.replicate zeros '0' ++ Nat.toDigits 10 rounded.digits := by
  generalize padded : List.replicate zeros '0' ++ Nat.toDigits 10 rounded.digits = digits
  obtain ⟨trailing, whole⟩ := exists_trimmed (digits.drop places)
  refine ⟨List.replicate trailing '0', ?_⟩
  simp only [Rounded.laidOut, padded]
  rw [List.append_assoc, ← whole, List.take_append_drop]

theorem isDigit_of_mem_laidOut :
    ∀ char ∈ (rounded.laidOut zeros places negative exponent?).whole ++
      (rounded.laidOut zeros places negative exponent?).fraction, char.isDigit :=
  fun _ member => isDigit_of_mem_padded ((laidOut_begins_padded _ _ _ _ _).subset member)

variable {value : ℚ} (nearest : rounded.Nearest value)
include nearest

theorem significant_laidOut :
    (rounded.laidOut zeros places negative exponent?).significant.length ≤ 6 := by
  rw [← length_toDigits_of_nearest nearest]
  exact length_dropWhile_of_front (laidOut_begins_padded _ _ _ _ _)

theorem length_whole_laidOut (inside : places ≤ zeros + 6) :
    (rounded.laidOut zeros places negative exponent?).whole.length = places := by
  simp only [Rounded.laidOut, List.length_take, List.length_append, List.length_replicate,
    length_toDigits_of_nearest nearest]
  omega

-- Leaving out zeros at the end of the fraction does not change what a numeral says.
theorem magnitude_laidOut (inside : places ≤ zeros + 6)
    (scale : exponent?.elim 0 DecimalExponent.value - (zeros + 6 - places : ℤ) =
      rounded.exponent - 5) :
    (rounded.laidOut zeros places negative exponent?).magnitude = rounded.value := by
  have six := length_toDigits_of_nearest nearest
  have worth := ofDigitChars_padded zeros rounded.digits
  have length : (List.replicate zeros '0' ++ Nat.toDigits 10 rounded.digits).length =
      zeros + 6 := by
    rw [List.length_append, List.length_replicate, six]
  rw [Rounded.value, ← scale]
  simp only [DecimalNumeral.magnitude, DecimalNumeral.scale, Rounded.laidOut]
  generalize List.replicate zeros '0' ++ Nat.toDigits 10 rounded.digits = padded at worth length
  obtain ⟨trailing, whole⟩ := exists_trimmed (padded.drop places)
  generalize trimZeros (padded.drop places) = kept at whole
  have digits : padded.take places ++ kept ++ List.replicate trailing '0' = padded := by
    rw [List.append_assoc, ← whole, List.take_append_drop]
  have shift : 10 ^ trailing * Nat.ofDigitChars 10 (padded.take places ++ kept) 0 =
      rounded.digits := by
    rw [← worth, ← Nat.ofDigitChars_replicate_zero, ← Nat.ofDigitChars_append, digits]
  have places_eq : (kept.length : ℤ) + trailing = zeros + 6 - places := by
    have lengths := congrArg List.length whole
    rw [List.length_drop, length, List.length_append, List.length_replicate] at lengths
    omega
  rw [← shift, ← places_eq]
  have power : (10 : ℚ) ^ (exponent?.elim 0 DecimalExponent.value - (kept.length : ℤ)) =
      10 ^ trailing *
        10 ^ (exponent?.elim 0 DecimalExponent.value - ((kept.length : ℤ) + trailing)) := by
    rw [← zpow_natCast, ← zpow_add₀ (by norm_num)]
    congr 1
    ring
  rw [power]
  push_cast
  ring

end LaidOut

/-- The exponent as `exponentPart` writes it. -/
def DecimalExponent.padded (exponent : ℤ) : DecimalExponent :=
  let digits := Nat.toDigits 10 exponent.natAbs
  ⟨exponent < 0, List.replicate (2 - digits.length) '0' ++ digits⟩

namespace DecimalExponent

theorem text_padded (exponent : ℤ) : (padded exponent).text = exponentPart exponent := by
  simp only [text, padded, exponentPart, decide_eq_true_eq]

theorem value_padded (exponent : ℤ) : (padded exponent).value = exponent := by
  simp only [value, padded, ofDigitChars_padded, decide_eq_true_eq]
  split <;> omega

theorem length_padded (exponent : ℤ) : 2 ≤ (padded exponent).digits.length := by
  simp only [padded, List.length_append, List.length_replicate]
  omega

theorem isDigit_of_mem_exponent (exponent : ℤ) :
    ∀ char ∈ (padded exponent).digits, char.isDigit :=
  fun _ member => isDigit_of_mem_padded member

end DecimalExponent

section Printed

variable {rounded : Rounded} {value : ℚ} (nearest : rounded.Nearest value) (negative : Bool)
include nearest

theorem styled_laidOut {zeros places : Nat} {exponent? : Option DecimalExponent}
    (inside : places ≤ zeros + 6)
    (positional : exponent? = none ↔ -4 ≤ rounded.exponent ∧ rounded.exponent < 6)
    (point : places = if exponent? = none then rounded.exponent.toNat + 1 else 1)
    (scientific : ∀ exponent, exponent? = some exponent →
      exponent = .padded rounded.exponent) :
    (rounded.laidOut zeros places negative exponent?).Styled rounded.exponent := by
  have length := length_whole_laidOut zeros places negative exponent? rounded nearest inside
  have present : 0 < places := by
    rw [point]
    split <;> omega
  constructor
  case wellFormed =>
    refine ⟨isDigit_of_mem_laidOut _ _ _ _ _, ?_, ?_⟩
    · exact List.ne_nil_of_length_pos (length.symm ▸ present)
    · intro exponent isExponent
      obtain rfl := scientific exponent isExponent
      have long := DecimalExponent.length_padded rounded.exponent
      exact ⟨List.ne_nil_of_length_pos (by omega),
        DecimalExponent.isDigit_of_mem_exponent rounded.exponent⟩
  case significant => exact significant_laidOut _ _ _ _ _ nearest
  case trimmed => exact getLast?_trimZeros _
  case positional => exact positional
  case point => exact length.trans point
  case scientific =>
    intro exponent isExponent
    obtain rfl := scientific exponent isExponent
    exact ⟨DecimalExponent.value_padded _, DecimalExponent.length_padded _⟩

theorem exists_numeral :
    ∃ numeral : DecimalNumeral, numeral.negative = negative ∧
      numeral.unsignedText =
        (if -4 ≤ rounded.exponent ∧ rounded.exponent < significantDigits then positional rounded
          else scientific rounded) ∧
      numeral.magnitude = rounded.value ∧ numeral.Styled rounded.exponent := by
  by_cases inRange : -4 ≤ rounded.exponent ∧ rounded.exponent < significantDigits
  · have inRange' : -4 ≤ rounded.exponent ∧ rounded.exponent < 6 := inRange
    rw [if_pos inRange, positional]
    by_cases small : rounded.exponent < 0
    · -- A zero in front of the point, and more of them up to the first digit.
      obtain ⟨zeros, isZeros⟩ : ∃ zeros, rounded.exponent.natAbs = zeros + 1 :=
        Nat.exists_eq_succ_of_ne_zero (by omega)
      refine ⟨rounded.laidOut (zeros + 1) 1 negative none, rfl, ?_, ?_, ?_⟩
      · rw [unsignedText_laidOut, if_pos small, isZeros]
        exact List.append_nil _
      · apply magnitude_laidOut _ _ _ _ _ nearest (by omega)
        simp only [Option.elim_none]
        omega
      · apply styled_laidOut nearest negative (by omega) (iff_of_true rfl inRange')
        · simp only [↓reduceIte]
          omega
        · intro exponent isExponent
          cases isExponent
    · refine ⟨rounded.laidOut 0 (rounded.exponent.toNat + 1) negative none, rfl, ?_, ?_, ?_⟩
      · rw [unsignedText_laidOut, if_neg small]
        exact List.append_nil _
      · apply magnitude_laidOut _ _ _ _ _ nearest (by omega)
        simp only [Option.elim_none]
        omega
      · apply styled_laidOut nearest negative (by omega) (iff_of_true rfl inRange')
        · rfl
        · intro exponent isExponent
          cases isExponent
  · have outOfRange : ¬(-4 ≤ rounded.exponent ∧ rounded.exponent < 6) := inRange
    rw [if_neg inRange, scientific]
    let exponent := DecimalExponent.padded rounded.exponent
    refine ⟨rounded.laidOut 0 1 negative (some exponent), rfl, ?_, ?_, ?_⟩
    · rw [unsignedText_laidOut, ← DecimalExponent.text_padded]
      rfl
    · apply magnitude_laidOut _ _ _ _ _ nearest (by omega)
      simp only [Option.elim_some, exponent, DecimalExponent.value_padded]
      omega
    · apply styled_laidOut nearest negative (by omega)
        (iff_of_false (Option.some_ne_none _) outOfRange)
      · rfl
      · intro found isFound
        exact (Option.some.inj isFound).symm

end Printed

theorem units_large {bits : Word} (nonzero : floatValue bits ≠ 0) : 10 ^ 5 ≤ units bits := by
  have present : units bits ≠ 0 := by
    intro nothing
    apply nonzero
    rw [floatValue, floatMagnitude_eq_units, nothing]
    simp
  have fives : 10 ^ 5 ≤ Nat.pow 5 unitExponent := by norm_num [unitExponent]
  unfold units at present ⊢
  have significand := Nat.pos_of_ne_zero (Nat.ne_zero_of_mul_ne_zero_left present)
  exact fives.trans (Nat.le_mul_of_pos_left _ significand)

/-- A finite float other than zero is printed as a numeral of its sign whose value is the
float's to six significant digits, in the style of its decimal exponent. Its text can be read
as no other numeral. -/
theorem float_printed (bits : Word) (finite : exponentField bits ≠ 255)
    (nonzero : floatValue bits ≠ 0) :
    ∃ (numeral : DecimalNumeral) (leading : ℤ), float bits = .ofList numeral.text ∧
      (∀ reading : DecimalNumeral, reading.WellFormed → float bits = .ofList reading.text →
        reading = numeral) ∧
      numeral.Styled leading ∧
      SignType.sign numeral.value = SignType.sign (floatValue bits) ∧
      10 ^ leading ≤ |numeral.value| ∧ |numeral.value| < 10 ^ (leading + 1) ∧
      |numeral.value - floatValue bits| ≤ 10 ^ (leading - 5) / 2 := by
  have large := units_large nonzero
  have nearest := nearest_roundUnits large
  obtain ⟨lower, upper⟩ := nearest.bounds
  rw [← floatMagnitude_eq_units] at nearest
  obtain ⟨numeral, negative, shown, magnitude, styled⟩ :=
    exists_numeral nearest (isNegative bits)
  have present : units bits ≠ 0 := by omega
  have text : float bits = .ofList numeral.text := by
    rw [float, unsignedFloat, if_neg finite, Numeral.magnitude, if_neg present,
      DecimalNumeral.text, negative, shown]
  have exact : 0 < floatMagnitude bits := by
    rw [floatMagnitude_eq_units]
    positivity
  have printed : 0 < numeral.magnitude := by
    rw [magnitude]
    exact lt_of_lt_of_le (by positivity) lower
  have near := nearest.near
  rw [← magnitude] at near lower upper
  have unique : ∀ reading : DecimalNumeral, reading.WellFormed →
      float bits = .ofList reading.text → reading = numeral := fun reading wellFormed read =>
    DecimalNumeral.text_inj wellFormed styled.wellFormed
      (String.ofList_inj.mp (read.symm.trans text))
  refine ⟨numeral, (roundUnits (units bits)).exponent, text, unique, styled, ?_⟩
  rw [DecimalNumeral.value, floatValue, negative]
  cases isNegative bits with
  | false =>
      rw [if_neg Bool.false_ne_true, if_neg Bool.false_ne_true, abs_of_pos printed,
        sign_pos printed, sign_pos exact]
      exact ⟨rfl, lower, upper, near⟩
  | true =>
      rw [if_pos rfl, if_pos rfl, abs_neg, abs_of_pos printed, Left.sign_neg, Left.sign_neg,
        sign_pos printed, sign_pos exact, ← neg_sub', abs_neg]
      exact ⟨rfl, lower, upper, near⟩

/-- Rounding 999999.5 carries, and the numeral changes its notation. -/
theorem float_printed_carry : floatValue 0x497423f8 = 999999.5 ∧
    ∃ (numeral : DecimalNumeral) (leading : ℤ), "1e+06" = String.ofList numeral.text ∧
      numeral.Styled leading ∧ |numeral.value - 999999.5| ≤ 10 ^ (leading - 5) / 2 := by
  have sign : isNegative 0x497423f8 = false := by decide
  have exponent : exponentField 0x497423f8 = 146 := by decide
  have fraction : fractionField 0x497423f8 = 7611384 := by decide
  have value : floatValue 0x497423f8 = 999999.5 := by
    rw [floatValue, floatMagnitude, sign, exponent, fraction]
    norm_num
  have printed : float 0x497423f8 = "1e+06" := by
    set_option maxRecDepth 4000 in decide
  obtain ⟨numeral, leading, text, -, styled, -, -, -, near⟩ :=
    float_printed 0x497423f8 (by rw [exponent]; decide) (by rw [value]; norm_num)
  rw [value] at near
  exact ⟨value, numeral, leading, printed.symm.trans text, styled, near⟩

end ExecUnit.Numeral
