import ExecUnit.Proofs.Operand.TripleOrder

/-!
The operands of a three-source instruction are read back once all of them and the
flag register are set, in whatever order: `triple_after_calls`.
-/

namespace ExecUnit

def Register.keptTripleDestination (register : Register) : Register :=
  { plain .general register.number (register.offset % 32) register.type ⟨.s4, .w4, .s1⟩ with
    writeMask := register.writeMask }

/-- What a three-source source keeps of a register: of its region, whether it repeats
one element. -/
def Register.keptTripleSource (register : Register) : Register :=
  let region : Region :=
    if register.region.vstride = .s0 then ⟨.s0, .w1, .s0⟩ else ⟨.s4, .w4, .s1⟩
  { plain .general register.number (register.offset % 32) register.type region with
    swizzle := register.swizzle
    negate := register.negate
    abs := register.abs }

/-- Registers whose components fit the fields of three-source operands. -/
structure Register.FitsTriple (gen : Generation) (register : Register) : Prop where
  number : register.number < 256
  aligned : register.offset % 4 = 0
  typed : gen.HasTripleType register.type

theorem Register.FitsTriple.dword_offset {gen : Generation} {register : Register}
    (fits : register.FitsTriple gen) : 4 * (register.offset / 4 % 8) = register.offset % 32 := by
  -- Sub-registers are stored in dwords.
  have aligned := fits.aligned
  omega

namespace Instruction

section Acceptance

variable {register : Register} {instr written : Instruction}

theorem fitsTriple_of_checked {placed : Register}
    (isPlaced : register.placed instr.gen = .ok placed)
    (checked : instr.checkTriple placed = .ok ()) (typed : instr.gen.HasTripleType placed.type) :
    register.placed instr.gen = .ok (register.withoutMessageFile instr.gen) ∧
      (register.withoutMessageFile instr.gen).FitsTriple instr.gen := by
  obtain ⟨rfl, inFile⟩ := (Register.placed_eq_ok_iff _ _ _).mp isPlaced
  obtain ⟨-, -, general, -, aligned⟩ := (checkTriple_eq_ok_iff _ _).mp checked
  -- Only general registers are accepted, and there are 128 of them.
  have number : (register.withoutMessageFile instr.gen).number <
      Generation.generalRegisterCount := by
    simpa [Register.checkNumber, general, demand_eq_ok_iff] using inFile
  exact ⟨isPlaced, Nat.lt_trans number (by decide), aligned, typed⟩

theorem fitsTriple_of_destination (accepted : instr.setTripleDestination register = .ok written) :
    register.placed instr.gen = .ok (register.withoutMessageFile instr.gen) ∧
      (register.withoutMessageFile instr.gen).FitsTriple instr.gen := by
  obtain ⟨_, isPlaced, checked, typed, -⟩ := (setTripleDestination_eq_ok_iff _ _ _).mp accepted
  exact fitsTriple_of_checked isPlaced checked typed

theorem fitsTriple_of_source {index : Fin 3}
    (accepted : instr.setTripleSource index register = .ok written) :
    register.placed instr.gen = .ok (register.withoutMessageFile instr.gen) ∧
      (register.withoutMessageFile instr.gen).FitsTriple instr.gen := by
  obtain ⟨_, isPlaced, checked, typed, -⟩ := (setTripleSource_eq_ok_iff _ _ _ _).mp accepted
  exact fitsTriple_of_checked isPlaced checked typed

end Acceptance

section Readers

variable {gen : Generation} {placed : Register} {instr : Instruction}

theorem tripleType_of_stores {field : Field} {type : DataType}
    (room : 4 ≤ field.capacity) (typed : gen.HasTripleType type) {bits : Encoding}
    (stored : bits.Stores (gen.typeAssignments field type)) :
    tripleType field ⟨gen, bits⟩ = .ok type := by
  unfold Generation.HasTripleType at typed
  unfold Generation.typeAssignments at stored
  unfold tripleType
  cases has : gen.hasThreeSourceTypes with
  | true =>
      simp only [has, ↓reduceIte] at typed stored
      obtain ⟨number, found⟩ := typed
      simp only [found, Encoding.stores_cons] at stored
      have fits : number < field.capacity :=
        Nat.lt_of_lt_of_le (DataType.threeSourceCode?_lt found) room
      have atType : field.get bits = number := stored.1.trans (Nat.mod_eq_of_lt fits)
      have decoded := (DataType.ofThreeSourceCode?_eq_some_iff number type).mpr found
      simp only [get, atType, decoded, ↓reduceIte]
      rfl
  | false =>
      simp only [has, Bool.false_eq_true, ↓reduceIte] at typed ⊢
      rw [typed]

theorem tripleDestination_of_stores (fits : placed.FitsTriple gen) {bits : Encoding}
    (operand : bits.Stores
      (gen.layout.triple.destinationAssignments placed.tripleDestinationCodes))
    (type : bits.Stores (gen.typeAssignments gen.layout.triple.type placed.type)) :
    tripleDestination ⟨gen, bits⟩ = .ok placed.keptTripleDestination := by
  have sized : gen.layout.triple.Sized := gen.layoutKind.triple_sized
  have codes := TripleFields.readDestination_of_stores sized operand
  have typed := tripleType_of_stores sized.type fits.typed type
  simp only [tripleDestination, layout, typed, codes, TripleFields.DestinationCodes.decode,
    Register.tripleDestinationCodes, Nat.mod_eq_of_lt fits.number, fits.dword_offset]
  rfl

theorem tripleSource_of_stores (fits : placed.FitsTriple gen) (index : Fin 3) {bits : Encoding}
    (operand : bits.Stores
      ((gen.layout.triple.source index).assignments placed.tripleSourceCodes))
    (type : bits.Stores (gen.typeAssignments gen.layout.triple.sourceType placed.type)) :
    tripleSource index ⟨gen, bits⟩ = .ok placed.keptTripleSource := by
  have sized : gen.layout.triple.Sized := gen.layoutKind.triple_sized
  have codes := TripleSourceFields.read_of_stores (sized.source index) operand
  have typed := tripleType_of_stores sized.sourceType fits.typed type
  simp only [tripleSource, tripleSourceCodes, layout, typed, codes, TripleSourceCodes.decode,
    Register.tripleSourceCodes, Nat.mod_eq_of_lt fits.number, fits.dword_offset,
    decide_eq_true_eq]
  rfl

theorem flagRegister_of_stores (threeSource : instr.isThreeSource = true)
    (operands : TripleOperands) (number : operands.flagNumber ≤ 1)
    (subreg : operands.flagSubreg ≤ 1)
    (stored : instr.bits.Stores (operands.flagAssignments instr.gen)) :
    instr.flagRegister = (operands.flagNumber, operands.flagSubreg) := by
  have sized : instr.layout.triple.Sized := instr.gen.layoutKind.triple_sized
  simp only [TripleOperands.flagAssignments, Encoding.stores_cons] at stored
  obtain ⟨atNumber, atSubreg, -⟩ := stored
  have atNumber' : instr.get instr.layout.triple.flag.number = operands.flagNumber :=
    (sized.flagNumber ▸ atNumber).trans (Nat.mod_eq_of_lt (Nat.lt_succ_of_le number))
  have atSubreg' : instr.get instr.layout.triple.flag.subreg = operands.flagSubreg :=
    (sized.flagSubreg ▸ atSubreg).trans (Nat.mod_eq_of_lt (Nat.lt_succ_of_le subreg))
  rw [flagRegister, flagFields_of_threeSource threeSource, atNumber', atSubreg']

end Readers

/-- A three-source instruction that accepts a destination, three sources of one type and a
flag register ends in the same bits whichever order they are set in, and all five are
read back. -/
theorem triple_after_calls (operands : TripleOperands) (type : DataType) (instr : Instruction)
    (threeSource : instr.isThreeSource = true)
    (shared : ∀ index, (operands.source index).type = type)
    (accepted : ∀ call, ∃ written, instr.callTriple operands call = .ok written) :
    ∃ written,
      (∀ order : List TripleCall, order.Perm TripleCall.all →
        instr.callTriples operands order = .ok written) ∧
      (∃ placed, operands.dst.placed instr.gen = .ok placed ∧
        written.tripleDestination = .ok placed.keptTripleDestination) ∧
      (∀ index, ∃ placed, (operands.source index).placed instr.gen = .ok placed ∧
        written.tripleSource index = .ok placed.keptTripleSource) ∧
      written.flagRegister = (operands.flagNumber, operands.flagSubreg) := by
  obtain ⟨gen, base⟩ := instr
  have stored := stores_allAssignments gen shared base
  simp only [TripleOperands.allAssignments, Encoding.stores_append] at stored
  obtain ⟨⟨⟨⟨inFlag, inDst⟩, dstType⟩, sourceType⟩, inSources⟩ := stored
  refine ⟨_, fun order perm => callTriples_perm shared threeSource accepted perm, ?_, ?_, ?_⟩
  · obtain ⟨_, isWritten⟩ := accepted .dst
    obtain ⟨isPlaced, fits⟩ := fitsTriple_of_destination isWritten
    exact ⟨_, isPlaced, tripleDestination_of_stores fits inDst dstType⟩
  · intro index
    obtain ⟨_, isWritten⟩ := accepted (.source index)
    obtain ⟨isPlaced, fits⟩ := fitsTriple_of_source isWritten
    have inSource := inSources.mono fun write member =>
      List.mem_flatMap.mpr ⟨index, List.mem_finRange index, member⟩
    -- Every source stores the one type that they share.
    rw [← operands.placedSource_type gen shared index] at sourceType
    exact ⟨_, isPlaced, tripleSource_of_stores fits index inSource sourceType⟩
  · obtain ⟨_, isWritten⟩ := accepted .flag
    obtain ⟨⟨number, subreg⟩, -, -⟩ := (setFlagRegister_eq_ok_iff _ _ _ _).mp isWritten
    have opcode := operands.form_agree gen
      (fun write => (operands.mem_assignments_iff gen shared write).mp) base _
      List.mem_cons_self
    have threeSource' := (isThreeSource_of_agree opcode).trans threeSource
    exact flagRegister_of_stores threeSource' operands number subreg inFlag

def fullMad : Instruction :=
  (⟨.gen8, BitVec.allOnes 128⟩ : Instruction)
    |> set Layout.gen8.header.opcode (code Opcode.mad)
    |> setAccessMode .align16

def madOperands : TripleOperands where
  dst := (Register.general 100 36).withType .ud
  source
    | 0 => Register.general 5 0 |>.withType .df |>.withRegion .scalar
    | 1 => Register.general 6 44 |>.withType .df |>.withSwizzle ⟨.w, .z, .y, .x⟩
    | 2 => (Register.message 1 0).withType .df |>.negated
  flagNumber := 1
  flagSubreg := 0

/-- Sub-register 44 is reduced to 12, whose dword number is split between two words. -/
theorem triple_after_calls_mad :
    ∃ written,
      fullMad.callTriples madOperands TripleCall.all = .ok written ∧
      fullMad.callTriples madOperands [.flag, .source 2, .source 1, .dst, .source 0] =
        .ok written ∧
      written.tripleSource 1 = .ok (Register.general 6 12 |>.withType .df
        |>.withSwizzle ⟨.w, .z, .y, .x⟩ |>.withRegion (.contiguous .w4)) ∧
      written.flagRegister = (1, 0) := by
  have accepted : ∀ call, ∃ written, fullMad.callTriple madOperands call = .ok written := by
    intro call
    match call with
    | .dst | .source 0 | .source 1 | .source 2 | .flag => exact ⟨_, rfl⟩
  have shared : ∀ index, (madOperands.source index).type = .df := by decide
  obtain ⟨written, same, -, sources, flag⟩ :=
    triple_after_calls madOperands .df fullMad (by decide) shared accepted
  obtain ⟨placed, isPlaced, source⟩ := sources 1
  obtain rfl := Except.ok.inj isPlaced
  exact ⟨written, same _ (List.Perm.refl _), same _ (by decide), source, flag⟩

end Instruction

end ExecUnit
