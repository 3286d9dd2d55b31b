import ExecUnit.Program.Basic

/-!
Instructions as lists of units: an instruction is the number that four words or sixteen bytes
denote, the lowest first. A reader of either kind puts it together again (`ofUnits_units`),
and what it has read gives the units back (`flatMap_units_ofUnits`).
-/

namespace ExecUnit

def lowDigits (base : Nat) : Nat → Nat → List Nat
  | 0, _ => []
  | count + 1, number => number % base :: lowDigits base count (number / base)

section Numbers

variable {base : Nat}

@[simp]
theorem length_lowDigits (count number : Nat) : (lowDigits base count number).length = count := by
  induction count generalizing number with
  | zero => rfl
  | succ count ih => exact congrArg (· + 1) (ih (number / base))

theorem littleEndian_lowDigits {count number : Nat} (fits : number < Nat.pow base count) :
    littleEndian base (lowDigits base count number) = number := by
  induction count generalizing number with
  | zero => exact (Nat.lt_one_iff.mp fits).symm
  | succ count ih =>
      have split : number < base * Nat.pow base count :=
        Nat.lt_of_lt_of_eq fits (Nat.mul_comm _ _)
      rw [lowDigits, littleEndian, ih (Nat.div_lt_of_lt_mul split)]
      exact Nat.mod_add_div number base

theorem lowDigits_littleEndian {digits : List Nat} (small : ∀ digit ∈ digits, digit < base) :
    lowDigits base digits.length (littleEndian base digits) = digits := by
  induction digits with
  | nil => rfl
  | cons digit rest ih =>
      rw [List.forall_mem_cons] at small
      have positive : 0 < base := Nat.lt_of_le_of_lt (Nat.zero_le digit) small.1
      rw [littleEndian, List.length_cons, lowDigits, Nat.add_mul_mod_self_left,
        Nat.mod_eq_of_lt small.1, Nat.add_mul_div_left _ _ positive, Nat.div_eq_of_lt small.1,
        Nat.zero_add, ih small.2]

theorem littleEndian_lt {digits : List Nat} (small : ∀ digit ∈ digits, digit < base) :
    littleEndian base digits < Nat.pow base digits.length := by
  induction digits with
  | nil => exact Nat.one_pos
  | cons digit rest ih =>
      rw [List.forall_mem_cons] at small
      have room := Nat.mul_le_mul_left base (Nat.succ_le_of_lt (ih small.2))
      rw [Nat.mul_succ] at room
      have power : Nat.pow base (rest.length + 1) = base * Nat.pow base rest.length :=
        Nat.mul_comm _ _
      rw [littleEndian, List.length_cons, power]
      omega

-- Fields of one width side by side are the digits of the whole.
theorem map_shiftRight_range (width : Nat) (power : base = Nat.pow 2 width) (count number : Nat) :
    ((List.range count).map fun index => number >>> (width * index) % base) =
      lowDigits base count number := by
  induction count generalizing number with
  | zero => rfl
  | succ count ih =>
      have next : number / base = number >>> width := by
        rw [power, Nat.shiftRight_eq_div_pow]
        rfl
      rw [List.range_succ_eq_map, List.map_cons, List.map_map, lowDigits, ← ih, next]
      simp only [Nat.mul_zero, Nat.shiftRight_zero, List.cons.injEq, true_and]
      apply List.map_congr_left
      intro index _
      simp only [Function.comp_apply, Nat.succ_eq_add_one, Nat.mul_add, Nat.mul_one]
      rw [Nat.add_comm, Nat.shiftRight_add]

end Numbers

section Chunks

variable {α β : Type} {size : Nat}

theorem chunks_flatMap_append {parts : α → List β} (elements : List α)
    (whole : ∀ element ∈ elements, (parts element).length = size) (extra : List β) :
    chunks size elements.length (elements.flatMap parts ++ extra) = elements.map parts := by
  induction elements with
  | nil => rfl
  | cons first rest ih =>
      rw [List.forall_mem_cons] at whole
      rw [List.length_cons, chunks, List.flatMap_cons, List.append_assoc, List.map_cons,
        List.take_left' whole.1, List.drop_left' whole.1, ih whole.2]

theorem flatten_chunks (count : Nat) (elements : List α) :
    (chunks size count elements).flatten = elements.take (size * count) := by
  induction count generalizing elements with
  | zero => simp [chunks]
  | succ count ih =>
      rw [chunks, List.flatten_cons, ih, Nat.mul_succ, Nat.add_comm, List.take_add]

theorem length_of_mem_chunks {count : Nat} {elements : List α}
    (enough : size * count ≤ elements.length) {chunk : List α}
    (member : chunk ∈ chunks size count elements) : chunk.length = size := by
  induction count generalizing elements with
  | zero => cases member
  | succ count ih =>
      rw [Nat.mul_succ] at enough
      rcases List.mem_cons.mp member with rfl | later
      · rw [List.length_take]
        omega
      · refine ih ?_ later
        rw [List.length_drop]
        omega

theorem subset_of_mem_chunks {count : Nat} {elements chunk : List α}
    (member : chunk ∈ chunks size count elements) : chunk ⊆ elements := by
  induction count generalizing elements with
  | zero => cases member
  | succ count ih =>
      rcases List.mem_cons.mp member with rfl | later
      · exact List.take_subset size elements
      · exact List.Subset.trans (ih later) (List.drop_subset size elements)

end Chunks

namespace InputUnit

def units (unit : InputUnit) (bits : Encoding) : List Nat :=
  lowDigits unit.base unit.perInstruction bits.toNat

variable (unit : InputUnit)

@[simp]
theorem length_units (bits : Encoding) : (unit.units bits).length = unit.perInstruction :=
  length_lowDigits _ _

theorem perInstruction_pos : 0 < unit.perInstruction := by
  cases unit <;> decide

theorem pow_base_eq : Nat.pow unit.base unit.perInstruction = Nat.pow 2 128 := by
  cases unit <;> rfl

theorem ofNat_littleEndian_units (bits : Encoding) :
    BitVec.ofNat 128 (littleEndian unit.base (unit.units bits)) = bits := by
  have fits : bits.toNat < Nat.pow unit.base unit.perInstruction :=
    unit.pow_base_eq ▸ bits.isLt
  rw [units, littleEndian_lowDigits fits, BitVec.ofNat_toNat, BitVec.setWidth_eq]

theorem units_ofNat_littleEndian {digits : List Nat} (small : ∀ digit ∈ digits, digit < unit.base)
    (whole : digits.length = unit.perInstruction) :
    unit.units (.ofNat 128 (littleEndian unit.base digits)) = digits := by
  have fits : littleEndian unit.base digits < Nat.pow 2 128 := by
    rw [← unit.pow_base_eq, ← whole]
    exact littleEndian_lt small
  have exact_value : (BitVec.ofNat 128 (littleEndian unit.base digits)).toNat =
      littleEndian unit.base digits := Nat.mod_eq_of_lt fits
  rw [units, exact_value, ← whole, lowDigits_littleEndian small]

end InputUnit

namespace Encoding

theorem units_word (bits : Encoding) : InputUnit.word.units bits = bits.words.map BitVec.toNat := by
  have fields : ∀ index, (bits.word index).toNat = bits.toNat >>> (32 * index) % 0x100000000 :=
    fun index => BitVec.extractLsb'_toNat _ _ _
  have power : InputUnit.word.base = Nat.pow 2 32 := rfl
  rw [InputUnit.units, ← map_shiftRight_range 32 power]
  simp only [words, List.map_cons, List.map_nil, fields]
  rfl

theorem units_byte (bits : Encoding) :
    InputUnit.byte.units bits = (Program.encodingBytes bits).map UInt8.toNat := by
  have power : InputUnit.byte.base = Nat.pow 2 8 := rfl
  rw [InputUnit.units, ← map_shiftRight_range 8 power, Program.encodingBytes, List.map_map]
  apply List.map_congr_left
  intro index _
  exact (BitVec.extractLsb'_toNat (8 * index) 8 bits).symm

end Encoding

namespace Loaded

-- A reader finds the instructions whose units it is given; what does not fill one more is left
-- over.
theorem ofUnits_units (unit : InputUnit) (program : Program) {extra : List Nat}
    (short : extra.length < unit.perInstruction) :
    ofUnits unit (program.instructions.flatMap unit.units ++ extra) =
      ⟨program, unit, extra.length⟩ := by
  have whole : ∀ bits ∈ program.instructions, (unit.units bits).length = unit.perInstruction :=
    fun bits _ => unit.length_units bits
  have length : (program.instructions.flatMap unit.units ++ extra).length =
      extra.length + unit.perInstruction * program.instructions.length := by
    rw [List.length_append, List.length_flatMap, List.map_congr_left whole, List.map_const',
      List.sum_replicate_nat, Nat.add_comm, Nat.mul_comm]
  have count : (program.instructions.flatMap unit.units ++ extra).length / unit.perInstruction =
      program.instructions.length := by
    rw [length, Nat.add_mul_div_left _ _ unit.perInstruction_pos, Nat.div_eq_of_lt short,
      Nat.zero_add]
  have trailing : (program.instructions.flatMap unit.units ++ extra).length % unit.perInstruction =
      extra.length := by
    rw [length, Nat.add_mul_mod_self_left, Nat.mod_eq_of_lt short]
  rw [ofUnits, trailing, count, chunks_flatMap_append _ whole, List.map_map]
  simp only [Function.comp_def, unit.ofNat_littleEndian_units, List.map_id']

theorem ofUnits_exactly (unit : InputUnit) (program : Program) :
    ofUnits unit (program.instructions.flatMap unit.units) = ⟨program, unit, 0⟩ := by
  have nothing : ([] : List Nat).length < unit.perInstruction := unit.perInstruction_pos
  have read := ofUnits_units unit program nothing
  rwa [List.append_nil] at read

theorem flatMap_units_ofUnits (unit : InputUnit) {values : List Nat}
    (small : ∀ value ∈ values, value < unit.base) :
    (ofUnits unit values).program.instructions.flatMap unit.units =
      values.take (unit.perInstruction * (values.length / unit.perInstruction)) := by
  rw [← flatten_chunks, ofUnits, List.flatMap_map, List.flatMap_def]
  congr 1
  refine Eq.trans (List.map_congr_left ?_) (List.map_id _)
  intro digits member
  exact unit.units_ofNat_littleEndian
    (fun digit inside => small digit (subset_of_mem_chunks member inside))
    (length_of_mem_chunks (Nat.mul_div_le _ _) member)

end Loaded

end ExecUnit
