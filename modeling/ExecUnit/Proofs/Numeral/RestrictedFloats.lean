import ExecUnit.Register.Basic

/-!
Restricted floats and the floats that they stand for: `floats_kept_but_eighths`. Each byte
stands for one float and is the byte for it. The other way one number is lost on each side
of zero: the smallest exponent and an empty mantissa, which would be an eighth, are taken
for a zero.
-/

namespace ExecUnit.RestrictedFloat

/-- An eighth, of either sign. -/
def IsEighth (bits : Word) : Prop :=
  bits = 0x3e000000#32 ∨ bits = 0xbe000000#32

instance (bits : Word) : Decidable (IsEighth bits) :=
  inferInstanceAs (Decidable (_ ∨ _))

section Parts

theorem append_inj {high low : Nat} {left left' : BitVec high} {right right' : BitVec low} :
    left ++ right = left' ++ right' ↔ left = left' ∧ right = right' := by
  constructor
  · intro same
    have atLeft := congrArg (·.extractLsb' low high) same
    have atRight := congrArg (·.extractLsb' 0 low) same
    simp only [BitVec.extractLsb'_append_eq_left] at atLeft
    simp only [BitVec.extractLsb'_append_eq_right] at atRight
    exact ⟨atLeft, atRight⟩
  · rintro ⟨rfl, rfl⟩
    rfl

theorem exists_byte_parts (byte : BitVec 8) :
    ∃ (sign : BitVec 1) (exponent : BitVec 3) (mantissa : BitVec 4),
      byte = sign ++ exponent ++ mantissa := by
  have upper : byte.extractLsb' 7 1 ++ byte.extractLsb' 4 3 = byte.extractLsb' 4 4 :=
    BitVec.extractLsb'_append_extractLsb'_eq_extractLsb' rfl
  have whole : byte.extractLsb' 4 4 ++ byte.extractLsb' 0 4 = byte :=
    (BitVec.extractLsb'_append_extractLsb'_eq_extractLsb' rfl).trans BitVec.extractLsb'_eq_self
  refine ⟨byte.extractLsb' 7 1, byte.extractLsb' 4 3, byte.extractLsb' 0 4, ?_⟩
  rw [upper, whole]

theorem exists_float_parts (bits : Word) :
    ∃ (sign : BitVec 1) (exponent : BitVec 8) (mantissa : BitVec 4) (rest : BitVec 19),
      bits = sign ++ exponent ++ mantissa ++ rest := by
  -- The last 19 bits of the mantissa have no room in a byte.
  have head : bits.extractLsb' 31 1 ++ bits.extractLsb' 23 8 = bits.extractLsb' 23 9 :=
    BitVec.extractLsb'_append_extractLsb'_eq_extractLsb' rfl
  have upper : bits.extractLsb' 23 9 ++ bits.extractLsb' 19 4 = bits.extractLsb' 19 13 :=
    BitVec.extractLsb'_append_extractLsb'_eq_extractLsb' rfl
  have whole : bits.extractLsb' 19 13 ++ bits.extractLsb' 0 19 = bits :=
    (BitVec.extractLsb'_append_extractLsb'_eq_extractLsb' rfl).trans BitVec.extractLsb'_eq_self
  refine ⟨bits.extractLsb' 31 1, bits.extractLsb' 23 8, bits.extractLsb' 19 4,
    bits.extractLsb' 0 19, ?_⟩
  rw [head, upper, whole]

theorem zero_byte_parts (sign : BitVec 1) : sign ++ 0#7 = sign ++ 0#3 ++ 0#4 := by
  rcases BitVec.eq_zero_or_eq_one sign with rfl | rfl
  · rfl
  · rfl

theorem zero_float_parts (sign : BitVec 1) : sign ++ 0#31 = sign ++ 0#8 ++ 0#4 ++ 0#19 := by
  rcases BitVec.eq_zero_or_eq_one sign with rfl | rfl
  · rfl
  · rfl

theorem toFloat_parts (sign : BitVec 1) (exponent : BitVec 3) (mantissa : BitVec 4) :
    toFloat (sign ++ exponent ++ mantissa) =
      if exponent = 0#3 ∧ mantissa = 0#4 then sign ++ 0#8 ++ 0#4 ++ 0#19
      else sign ++ (exponent.setWidth 8 + 124#8) ++ mantissa ++ 0#19 := by
  have atSign : (sign ++ exponent ++ mantissa).extractLsb' 7 1 = sign :=
    (BitVec.extractLsb'_append_eq_of_le (by decide)).trans BitVec.extractLsb'_append_eq_left
  have atExponent : (sign ++ exponent ++ mantissa).extractLsb' 4 3 = exponent :=
    (BitVec.extractLsb'_append_eq_of_le (by decide)).trans BitVec.extractLsb'_append_eq_right
  have atMantissa : (sign ++ exponent ++ mantissa).extractLsb' 0 4 = mantissa :=
    BitVec.extractLsb'_append_eq_right
  have magnitude : (sign ++ exponent ++ mantissa).extractLsb' 0 7 = exponent ++ mantissa :=
    (BitVec.extractLsb'_append_extractLsb'_eq_extractLsb' rfl).symm.trans
      (congr (congrArg _ atExponent) atMantissa)
  have zero : exponent ++ mantissa = 0 ↔ exponent = 0#3 ∧ mantissa = 0#4 := by
    change _ = 0#3 ++ 0#4 ↔ _
    rw [append_inj]
  simp only [toFloat, atSign, atExponent, atMantissa, magnitude, zero, zero_float_parts]

theorem ofFloat?_parts (sign : BitVec 1) (exponent : BitVec 8) (mantissa : BitVec 4)
    (rest : BitVec 19) :
    ofFloat? (sign ++ exponent ++ mantissa ++ rest) =
      if exponent = 0#8 ∧ mantissa = 0#4 ∧ rest = 0#19 then some (sign ++ 0#3 ++ 0#4)
      else if 124#8 ≤ exponent ∧ exponent ≤ 131#8 ∧ rest = 0#19 then
        some (sign ++ (exponent - 124#8).setWidth 3 ++ mantissa)
      else none := by
  have atSign : (sign ++ exponent ++ mantissa ++ rest).extractLsb' 31 1 = sign := by
    rw [BitVec.extractLsb'_append_eq_of_le (by decide),
      BitVec.extractLsb'_append_eq_of_le (by decide)]
    exact BitVec.extractLsb'_append_eq_left
  have atExponent : (sign ++ exponent ++ mantissa ++ rest).extractLsb' 23 8 = exponent := by
    rw [BitVec.extractLsb'_append_eq_of_le (by decide),
      BitVec.extractLsb'_append_eq_of_le (by decide)]
    exact BitVec.extractLsb'_append_eq_right
  have atMantissa : (sign ++ exponent ++ mantissa ++ rest).extractLsb' 19 4 = mantissa :=
    (BitVec.extractLsb'_append_eq_of_le (by decide)).trans BitVec.extractLsb'_append_eq_right
  have atRest : (sign ++ exponent ++ mantissa ++ rest).extractLsb' 0 19 = rest :=
    BitVec.extractLsb'_append_eq_right
  have magnitude : (sign ++ exponent ++ mantissa ++ rest).extractLsb' 0 31 =
      exponent ++ mantissa ++ rest := by
    have joined : (sign ++ exponent ++ mantissa ++ rest).extractLsb' 19 12 =
        exponent ++ mantissa :=
      (BitVec.extractLsb'_append_extractLsb'_eq_extractLsb' rfl).symm.trans
        (congr (congrArg _ atExponent) atMantissa)
    exact (BitVec.extractLsb'_append_extractLsb'_eq_extractLsb' rfl).symm.trans
      (congr (congrArg _ joined) atRest)
  have zero : exponent ++ mantissa ++ rest = 0#31 ↔
      exponent = 0#8 ∧ mantissa = 0#4 ∧ rest = 0#19 := by
    change _ = 0#8 ++ 0#4 ++ 0#19 ↔ _
    rw [append_inj, append_inj, and_assoc]
  simp only [ofFloat?, atSign, atExponent, atMantissa, atRest, magnitude, zero, zero_byte_parts,
    BitVec.ofNat_eq_ofNat]

theorem isEighth_parts (sign : BitVec 1) (exponent : BitVec 8) (mantissa : BitVec 4)
    (rest : BitVec 19) :
    IsEighth (sign ++ exponent ++ mantissa ++ rest) ↔
      exponent = 124#8 ∧ mantissa = 0#4 ∧ rest = 0#19 := by
  have eighth : ∀ sign' : BitVec 1,
      sign ++ exponent ++ mantissa ++ rest = sign' ++ 124#8 ++ 0#4 ++ 0#19 ↔
        sign = sign' ∧ exponent = 124#8 ∧ mantissa = 0#4 ∧ rest = 0#19 := by
    intro sign'
    simp only [append_inj, and_assoc]
  have positive := eighth 0#1
  have negative := eighth 1#1
  rcases BitVec.eq_zero_or_eq_one sign with rfl | rfl
  · simpa [IsEighth] using or_congr positive negative
  · simpa [IsEighth] using or_congr positive negative

end Parts

/-- What is left of a float: an eighth becomes a zero of its sign. -/
def kept (bits : Word) : Word :=
  if IsEighth bits then bits &&& 0x80000000#32 else bits

theorem kept_parts (sign : BitVec 1) (exponent : BitVec 8) (mantissa : BitVec 4)
    (rest : BitVec 19) :
    kept (sign ++ exponent ++ mantissa ++ rest) =
      if exponent = 124#8 ∧ mantissa = 0#4 ∧ rest = 0#19 then sign ++ 0#8 ++ 0#4 ++ 0#19
      else sign ++ exponent ++ mantissa ++ rest := by
  simp only [kept, isEighth_parts]
  split
  · next eighth =>
    obtain ⟨rfl, rfl, rfl⟩ := eighth
    rcases BitVec.eq_zero_or_eq_one sign with rfl | rfl
    · decide
    · decide
  · rfl

theorem rebias {exponent : BitVec 8} (above : 124#8 ≤ exponent) (below : exponent ≤ 131#8) :
    ((exponent - 124#8).setWidth 3).setWidth 8 + 124#8 = exponent := by
  bv_omega

theorem toFloat_of_ofFloat? {bits : Word} {byte : BitVec 8} (found : ofFloat? bits = some byte) :
    toFloat byte = kept bits := by
  obtain ⟨sign, exponent, mantissa, rest, rfl⟩ := exists_float_parts bits
  rw [ofFloat?_parts] at found
  rw [kept_parts]
  by_cases zero : exponent = 0#8 ∧ mantissa = 0#4 ∧ rest = 0#19
  · rw [if_pos zero, Option.some.injEq] at found
    obtain ⟨rfl, rfl, rfl⟩ := zero
    rw [← found, toFloat_parts, if_pos ⟨rfl, rfl⟩, if_neg (by decide)]
  · rw [if_neg zero] at found
    by_cases fits : 124#8 ≤ exponent ∧ exponent ≤ 131#8 ∧ rest = 0#19
    · rw [if_pos fits, Option.some.injEq] at found
      obtain ⟨above, below, rfl⟩ := fits
      -- The byte is that of a zero exactly where the exponent is the smallest that fits.
      have smallest : (exponent - 124#8).setWidth 3 = 0#3 ↔ exponent = 124#8 := by bv_omega
      rw [← found, toFloat_parts, rebias above below]
      simp only [smallest, and_true]
    · rw [if_neg fits] at found
      cases found

theorem ofFloat?_toFloat (byte : BitVec 8) : ofFloat? (toFloat byte) = some byte := by
  obtain ⟨sign, exponent, mantissa, rfl⟩ := exists_byte_parts byte
  rw [toFloat_parts]
  by_cases zero : exponent = 0#3 ∧ mantissa = 0#4
  · rw [if_pos zero, ofFloat?_parts, if_pos ⟨rfl, rfl, rfl⟩, zero.1, zero.2]
  · rw [if_neg zero, ofFloat?_parts]
    have nonzero : ¬exponent.setWidth 8 + 124#8 = 0#8 := by bv_omega
    have above : 124#8 ≤ exponent.setWidth 8 + 124#8 := by bv_omega
    have below : exponent.setWidth 8 + 124#8 ≤ 131#8 := by bv_omega
    have unbiased : (exponent.setWidth 8 + 124#8 - 124#8).setWidth 3 = exponent := by bv_omega
    simp only [nonzero, above, below, unbiased, false_and, if_false, and_self, if_true]

-- The floats that have a byte are those that `ofFloat?` finds one for, without the eighths.
theorem exists_toFloat_iff (bits : Word) :
    (∃ byte, toFloat byte = bits) ↔ (ofFloat? bits).isSome = true ∧ ¬IsEighth bits := by
  constructor
  · rintro ⟨byte, rfl⟩
    have found := ofFloat?_toFloat byte
    refine ⟨by rw [found]; rfl, fun eighth => ?_⟩
    have same := toFloat_of_ofFloat? found
    rw [kept, if_pos eighth] at same
    rcases eighth with eighth | eighth
    · rw [eighth] at same
      exact absurd same (by decide)
    · rw [eighth] at same
      exact absurd same (by decide)
  · rintro ⟨isSome, other⟩
    obtain ⟨byte, found⟩ := Option.isSome_iff_exists.mp isSome
    refine ⟨byte, (toFloat_of_ofFloat? found).trans ?_⟩
    rw [kept, if_neg other]

theorem unpack4_pack4 (first second third fourth : BitVec 8) :
    unpack4 (pack4 first second third fourth) = [first, second, third, fourth] := by
  simp only [unpack4, pack4, List.cons.injEq, and_true]
  refine ⟨BitVec.extractLsb'_append_eq_right, ?_, ?_, ?_⟩
  · rw [BitVec.extractLsb'_append_eq_of_le (by decide)]
    exact BitVec.extractLsb'_append_eq_right
  · rw [BitVec.extractLsb'_append_eq_of_le (by decide),
      BitVec.extractLsb'_append_eq_of_le (by decide)]
    exact BitVec.extractLsb'_append_eq_right
  · rw [BitVec.extractLsb'_append_eq_of_le (by decide),
      BitVec.extractLsb'_append_eq_of_le (by decide)]
    exact BitVec.extractLsb'_append_eq_left

theorem unpack4_of_packFloats? {first second third fourth word : Word}
    (packed : packFloats? first second third fourth = some word) :
    (unpack4 word).map toFloat = [first, second, third, fourth].map kept := by
  simp only [packFloats?, Option.bind_eq_bind, Option.bind_eq_some_iff, Option.pure_def,
    Option.some.injEq] at packed
  obtain ⟨byte₁, found₁, byte₂, found₂, byte₃, found₃, byte₄, found₄, rfl⟩ := packed
  simp only [unpack4_pack4, List.map_cons, List.map_nil, toFloat_of_ofFloat? found₁,
    toFloat_of_ofFloat? found₂, toFloat_of_ofFloat? found₃, toFloat_of_ofFloat? found₄]

/-- The byte of a float stands for that float, unless the float is an eighth, which gets the
byte of a zero. A float that no byte stands for gets none, again unless it is an eighth. So
four floats packed in a register come back as they were, with zeros in the place of eighths. -/
theorem floats_kept_but_eighths (bits : Word) :
    (∀ byte, ofFloat? bits = some byte →
      toFloat byte = if IsEighth bits then bits &&& 0x80000000#32 else bits) ∧
    ((∃ byte, toFloat byte = bits) ↔ (ofFloat? bits).isSome = true ∧ ¬IsEighth bits) ∧
    ∀ second third fourth register, Register.immVF4? bits second third fourth = some register →
      register.file = .immediate ∧ register.type = .vf ∧
        (unpack4 register.immediate).map toFloat = [bits, second, third, fourth].map
          fun float => if IsEighth float then float &&& 0x80000000#32 else float := by
  refine ⟨fun _ => toFloat_of_ofFloat?, exists_toFloat_iff bits, ?_⟩
  intro second third fourth register packed
  obtain ⟨word, found, rfl⟩ := Option.map_eq_some_iff.mp packed
  exact ⟨rfl, rfl, unpack4_of_packFloats? found⟩

/-- One, minus a half and zero come back from one register, and an eighth does not. -/
theorem floats_kept_but_eighths_mixed :
    ∃ register,
      Register.immVF4? 0x3f800000#32 0xbf000000#32 0#32 0xbe000000#32 = some register ∧
      (unpack4 register.immediate).map toFloat =
        [0x3f800000#32, 0xbf000000#32, 0#32, 0x80000000#32] := by
  obtain ⟨register, packed⟩ : ∃ register,
      Register.immVF4? 0x3f800000#32 0xbf000000#32 0#32 0xbe000000#32 = some register := ⟨_, rfl⟩
  obtain ⟨-, -, read⟩ := (floats_kept_but_eighths 0x3f800000#32).2.2 _ _ _ register packed
  exact ⟨register, packed, read⟩

/-- Not every float that gets a byte has one. -/
theorem eighth_gets_byte_of_zero :
    ¬∀ (bits : Word) (byte : BitVec 8), ofFloat? bits = some byte → toFloat byte = bits := by
  intro claim
  exact absurd (claim 0x3e000000#32 0#8 rfl) (by decide)

end ExecUnit.RestrictedFloat
