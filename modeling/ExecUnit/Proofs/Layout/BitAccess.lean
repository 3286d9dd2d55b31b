import ExecUnit.Instruction.Basic
import ExecUnit.Proofs.Layout.Words

/-!
Reading and writing bits by their bounds. `ofBounds_eq_ok_iff` says which bounds are those
of a range, `get_eq_word` and `word_set` how a range is read and written by shifting and
masking its word, and `bits_lawful` collects the laws of the two accessors.
-/

namespace ExecUnit

/-- What is wrong with the bounds, once the earlier restrictions are met. -/
def RangeFault.Concerns (high low : Nat) : RangeFault → Prop
  | .inverted => high < low
  | .outside => low ≤ high ∧ 128 ≤ high
  | .crossesWord => low ≤ high ∧ high < 128 ∧ high / 32 ≠ low / 32

namespace BitRange

theorem ofBounds_eq_ok_iff (high low : Nat) (range : BitRange) :
    ofBounds high low = .ok range ↔ range.high = high ∧ range.low = low := by
  unfold ofBounds
  constructor
  · intro found
    split at found
    · split at found
      · split at found
        · obtain rfl := Except.ok.inj found
          exact ⟨rfl, rfl⟩
        · cases found
      · cases found
    · cases found
  · rintro ⟨rfl, rfl⟩
    rw [dif_pos range.ordered, dif_pos range.inside, dif_pos range.one_word]

theorem ofBounds_eq_error_iff (high low : Nat) (fault : RangeFault) :
    ofBounds high low = .error fault ↔ fault.Concerns high low := by
  unfold ofBounds
  by_cases ordered : low ≤ high
  · by_cases inside : high < 128
    · by_cases one_word : high / 32 = low / 32
      · cases fault <;> simp [RangeFault.Concerns, ordered, inside, one_word]
      · cases fault <;> simp [RangeFault.Concerns, ordered, inside, one_word]
    · cases fault <;> simp [RangeFault.Concerns, ordered, inside, Nat.le_of_not_lt]
  · cases fault <;> simp [RangeFault.Concerns, ordered, Nat.lt_of_not_le]

theorem exists_fault_iff (high low : Nat) :
    (∃ fault : RangeFault, fault.Concerns high low) ↔
      high < low ∨ 128 ≤ high ∨ high / 32 ≠ low / 32 := by
  constructor
  · rintro ⟨fault, concerns⟩
    cases fault with
    | inverted => exact Or.inl concerns
    | outside => exact Or.inr (Or.inl concerns.2)
    | crossesWord => exact Or.inr (Or.inr concerns.2.2)
  · intro broken
    by_cases ordered : low ≤ high
    · by_cases inside : high < 128
      · exact ⟨.crossesWord, ordered, inside, by omega⟩
      · exact ⟨.outside, ordered, Nat.le_of_not_lt inside⟩
    · exact ⟨.inverted, Nat.lt_of_not_le ordered⟩

section Words

def lowOnes (count : Nat) : Word :=
  BitVec.allOnes 32 >>> (32 - count)

def mask (range : BitRange) : Word :=
  lowOnes range.width <<< (range.low % 32)

theorem getLsbD_lowOnes {count : Nat} (fits : count ≤ 32) (index : Nat) :
    (lowOnes count).getLsbD index = decide (index < count) := by
  rw [lowOnes, BitVec.getLsbD_ushiftRight, BitVec.getLsbD_allOnes, decide_eq_decide]
  omega

theorem width_le (range : BitRange) : range.width ≤ 32 := by
  have one_word := range.one_word
  simp only [width]
  omega

theorem getLsbD_mask (range : BitRange) {place index : Nat} (here : place = range.high / 32)
    (inside : index < 32) :
    range.mask.getLsbD index =
      decide (range.low ≤ 32 * place + index ∧ 32 * place + index ≤ range.high) := by
  have ordered := range.ordered
  have one_word := range.one_word
  rw [mask, BitVec.getLsbD_shiftLeft, getLsbD_lowOnes range.width_le, Bool.eq_iff_iff]
  simp only [inside, decide_true, Bool.true_and, Bool.and_eq_true, Bool.not_eq_true',
    decide_eq_false_iff_not, decide_eq_true_eq]
  simp only [width]
  omega

/-- The word is shifted down and its low bits are kept. A range of a whole word keeps them
all. -/
theorem get_eq_word (range : BitRange) (bits : Encoding) :
    range.get bits =
      (bits.word (range.high / 32) >>> (range.low % 32) &&& lowOnes range.width).toNat := by
  have ordered := range.ordered
  have one_word := range.one_word
  apply Nat.eq_of_testBit_eq
  intro index
  rw [testBit_get, BitVec.testBit_toNat, BitVec.getLsbD_and, getLsbD_lowOnes range.width_le,
    BitVec.getLsbD_ushiftRight, Encoding.word, BitVec.getLsbD_extractLsb', Bool.and_comm]
  by_cases fits : index < range.width
  · have inWord : range.low % 32 + index < 32 := by
      simp only [width] at fits
      omega
    have place : 32 * (range.high / 32) + (range.low % 32 + index) = range.low + index := by omega
    simp only [fits, inWord, place, decide_true, Bool.true_and, Bool.and_true]
  · simp only [fits, decide_false, Bool.and_false]

/-- One word changes: the value is shifted up, and the mask takes it and leaves the rest. -/
theorem word_set (range : BitRange) (value : Nat) (bits : Encoding) (place : Nat) :
    (range.set value bits).word place =
      if place = range.high / 32 then
        bits.word place &&& ~~~range.mask |||
          BitVec.ofNat 32 value <<< (range.low % 32) &&& range.mask
      else bits.word place := by
  have one_word := range.one_word
  apply BitVec.eq_of_getLsbD_eq
  intro index inside
  rw [Encoding.word, BitVec.getLsbD_extractLsb', getLsbD_set]
  by_cases here : place = range.high / 32
  · rw [if_pos here, BitVec.getLsbD_or, BitVec.getLsbD_and, BitVec.getLsbD_and,
      BitVec.getLsbD_not, getLsbD_mask range here inside, BitVec.getLsbD_shiftLeft,
      BitVec.getLsbD_ofNat]
    by_cases covered : range.low ≤ 32 * place + index ∧ 32 * place + index ≤ range.high
    · have above : ¬index < range.low % 32 := by omega
      have fits : index - range.low % 32 < 32 := by omega
      have shift : 32 * place + index - range.low = index - range.low % 32 := by omega
      simp [covered, inside, above, fits, shift]
    · simp [covered, inside, Encoding.word]
  · have missed : ¬(range.low ≤ 32 * place + index ∧ 32 * place + index ≤ range.high) := by omega
    rw [if_neg here, if_neg missed, Encoding.word, BitVec.getLsbD_extractLsb']

end Words

end BitRange

namespace Instruction

theorem getBits_eq_ok_iff (high low : Nat) (instr : Instruction) (value : Nat) :
    instr.getBits high low = .ok value ↔
      ∃ range : BitRange, (range.high = high ∧ range.low = low) ∧
        value = range.get instr.bits := by
  simp only [← BitRange.ofBounds_eq_ok_iff]
  unfold getBits
  cases BitRange.ofBounds high low <;> simp [eq_comm]

theorem setBits_eq_ok_iff (high low value : Nat) (instr written : Instruction) :
    instr.setBits high low value = .ok written ↔
      ∃ range : BitRange, (range.high = high ∧ range.low = low) ∧
        written = { instr with bits := range.set value instr.bits } := by
  simp only [← BitRange.ofBounds_eq_ok_iff]
  unfold setBits
  cases BitRange.ofBounds high low <;> simp [eq_comm]

theorem getBits_eq_error_iff (high low : Nat) (instr : Instruction) (refusal : Refusal) :
    instr.getBits high low = .error refusal ↔
      ∃ fault : RangeFault, fault.Concerns high low ∧ refusal = .badRange high low fault := by
  simp only [← BitRange.ofBounds_eq_error_iff]
  unfold getBits
  cases BitRange.ofBounds high low <;> simp [eq_comm]

theorem setBits_eq_error_iff (high low value : Nat) (instr : Instruction) (refusal : Refusal) :
    instr.setBits high low value = .error refusal ↔
      ∃ fault : RangeFault, fault.Concerns high low ∧ refusal = .badRange high low fault := by
  simp only [← BitRange.ofBounds_eq_error_iff]
  unfold setBits
  cases BitRange.ofBounds high low <;> simp [eq_comm]

theorem getBits_fails_iff (high low : Nat) (instr : Instruction) :
    (∃ refusal, instr.getBits high low = .error refusal) ↔
      high < low ∨ 128 ≤ high ∨ high / 32 ≠ low / 32 := by
  rw [← BitRange.exists_fault_iff]
  simp only [getBits_eq_error_iff]
  constructor
  · rintro ⟨_, fault, concerns, -⟩
    exact ⟨fault, concerns⟩
  · rintro ⟨fault, concerns⟩
    exact ⟨_, fault, concerns, rfl⟩

-- A write fails where a read does, whatever the value and the bits.
theorem setBits_fails_iff (high low value : Nat) (instr : Instruction) :
    (∃ refusal, instr.setBits high low value = .error refusal) ↔
      high < low ∨ 128 ≤ high ∨ high / 32 ≠ low / 32 := by
  rw [← getBits_fails_iff high low instr]
  simp only [getBits_eq_error_iff, setBits_eq_error_iff]

section Write

variable {high low value : Nat} {instr written : Instruction}

-- Bounds that do not meet those of a write read the same after it, or fail the same.
theorem getBits_setBits_of_apart (accepted : instr.setBits high low value = .ok written)
    {high' low' : Nat} (apart : high < low' ∨ high' < low) :
    written.getBits high' low' = instr.getBits high' low' := by
  obtain ⟨range, ⟨rfl, rfl⟩, rfl⟩ := (setBits_eq_ok_iff _ _ _ _ _).mp accepted
  unfold getBits
  cases found : BitRange.ofBounds high' low' with
  | error fault => rfl
  | ok other =>
      obtain ⟨rfl, rfl⟩ := (BitRange.ofBounds_eq_ok_iff _ _ _).mp found
      exact congrArg Except.ok (BitRange.get_set_of_disjoint apart.symm value instr.bits)

theorem setBits_setBits (accepted : instr.setBits high low value = .ok written) (later : Nat) :
    written.setBits high low later = instr.setBits high low later := by
  obtain ⟨range, bounds, rfl⟩ := (setBits_eq_ok_iff _ _ _ _ _).mp accepted
  unfold setBits
  rw [(BitRange.ofBounds_eq_ok_iff _ _ _).mpr bounds]
  exact congrArg (fun bits => Except.ok { instr with bits })
    (BitRange.set_set range value later instr.bits)

theorem setBits_comm_of_apart (accepted : instr.setBits high low value = .ok written)
    {high' low' : Nat} (apart : high < low' ∨ high' < low) (value' : Nat) :
    written.setBits high' low' value' =
      (instr.setBits high' low' value').bind (setBits high low value) := by
  obtain ⟨range, bounds, rfl⟩ := (setBits_eq_ok_iff _ _ _ _ _).mp accepted
  have own := (BitRange.ofBounds_eq_ok_iff _ _ _).mpr bounds
  obtain ⟨rfl, rfl⟩ := bounds
  unfold setBits
  cases found : BitRange.ofBounds high' low' with
  | error fault => rfl
  | ok other =>
      obtain ⟨rfl, rfl⟩ := (BitRange.ofBounds_eq_ok_iff _ _ _).mp found
      simp only [Except.bind, own]
      exact congrArg (fun bits => Except.ok { instr with bits })
        (BitRange.set_comm apart.symm value' value instr.bits)

theorem setBits_getBits {held : Nat} (read : instr.getBits high low = .ok held) :
    instr.setBits high low held = .ok instr := by
  obtain ⟨range, bounds, rfl⟩ := (getBits_eq_ok_iff _ _ _ _).mp read
  refine (setBits_eq_ok_iff _ _ _ _ _).mpr ⟨range, bounds, ?_⟩
  rw [BitRange.set_get]

/-- The two accessors refuse the same bounds. A write that is accepted holds what fits of its
value, changes no bit outside of its bounds, is undone by writing back what was read and by
any other write there, and can change places with a write elsewhere. -/
theorem bits_lawful (high low : Nat) (instr : Instruction) :
    ((∃ refusal, instr.getBits high low = .error refusal) ↔
      high < low ∨ 128 ≤ high ∨ high / 32 ≠ low / 32) ∧
    (∀ value, (∃ refusal, instr.setBits high low value = .error refusal) ↔
      high < low ∨ 128 ≤ high ∨ high / 32 ≠ low / 32) ∧
    (∀ held, instr.getBits high low = .ok held → instr.setBits high low held = .ok instr) ∧
    ∀ value written, instr.setBits high low value = .ok written →
      written.gen = instr.gen ∧
      written.getBits high low = .ok (value % Nat.pow 2 (high - low + 1)) ∧
      (∀ index, index < low ∨ high < index →
        written.bits.getLsbD index = instr.bits.getLsbD index) ∧
      (∀ high' low', high < low' ∨ high' < low →
        written.getBits high' low' = instr.getBits high' low') ∧
      (∀ later, written.setBits high low later = instr.setBits high low later) ∧
      ∀ high' low' value', high < low' ∨ high' < low →
        written.setBits high' low' value' =
          (instr.setBits high' low' value').bind (setBits high low value) := by
  refine ⟨getBits_fails_iff high low instr, fun value => setBits_fails_iff high low value instr,
    fun _ => setBits_getBits, fun value written accepted => ?_⟩
  have apartReads : ∀ high' low', high < low' ∨ high' < low →
      written.getBits high' low' = instr.getBits high' low' :=
    fun _ _ => getBits_setBits_of_apart accepted
  have apartWrites : ∀ high' low' value', high < low' ∨ high' < low →
      written.setBits high' low' value' =
        (instr.setBits high' low' value').bind (setBits high low value) :=
    fun _ _ value' apart => setBits_comm_of_apart accepted apart value'
  have again := setBits_setBits accepted
  obtain ⟨range, ⟨rfl, rfl⟩, rfl⟩ := (setBits_eq_ok_iff _ _ _ _ _).mp accepted
  refine ⟨rfl, ?_, ?_, apartReads, again, apartWrites⟩
  · refine (getBits_eq_ok_iff _ _ _ _).mpr ⟨range, ⟨rfl, rfl⟩, ?_⟩
    rw [BitRange.get_set, BitRange.capacity_eq, BitRange.width]
  · intro index outside
    exact (BitRange.getLsbD_set _ _ _ _).trans (if_neg (by omega))

/-- A range of 32 bits takes what fits of a longer value and leaves the next word alone. -/
theorem bits_lawful_whole_word :
    ∃ written, (⟨.gen6, .allOnes 128⟩ : Instruction).setBits 63 32 0x123456789 = .ok written ∧
      written.getBits 63 32 = .ok 0x23456789 ∧ written.getBits 64 64 = .ok 1 := by
  obtain ⟨written, accepted⟩ : ∃ written,
      (⟨.gen6, .allOnes 128⟩ : Instruction).setBits 63 32 0x123456789 = .ok written := ⟨_, rfl⟩
  obtain ⟨-, held, -, apart, -⟩ := (bits_lawful 63 32 _).2.2.2 _ written accepted
  exact ⟨written, accepted, held, (apart 64 64 (Or.inl (by decide))).trans rfl⟩

end Write

end Instruction

end ExecUnit
