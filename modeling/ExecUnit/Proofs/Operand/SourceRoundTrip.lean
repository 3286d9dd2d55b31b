import ExecUnit.Proofs.Operand.Acceptance
import ExecUnit.Proofs.Operand.Frame

/-!
A source that was set is read back, on every generation, in either slot and over
any bits: `source_after_set`. What comes back is not always the register that
was asked for, but it depends on that register and on the header alone.
-/

namespace ExecUnit

/-- What a source slot keeps of a register that was `placed` on a generation with
`registers` address subregisters. Components that no field holds are those of a
plain register. -/
def Register.keptSource (registers : Nat) (mode : AccessMode) (oneChannel : Bool)
    (register : Register) : Register :=
  let region : Region :=
    if register.region.width = .w1 ∧ oneChannel then ⟨.s0, .w1, .s0⟩ else register.region
  let signed := { plain register.file 0 0 register.type region with
    negate := register.negate
    abs := register.abs }
  if register.file = .immediate then
    { plain .immediate 0 0 register.type (immediateRegion register.type) with
      immediate := register.immediate }
  else match register.addressing, mode with
    | .indirect address, _ => { signed with addressing := .indirect (address.kept registers) }
    | .direct, .align1 =>
        { signed with
          number := register.number % 256
          offset := register.offset % 32 }
    | .direct, .align16 =>
        let vstride := if register.region.vstride = .s8 then .s4 else register.region.vstride
        { signed with
          number := register.number % 256
          offset := register.offset
          region := ⟨vstride, .w4, .s1⟩
          swizzle := register.swizzle }

theorem Register.sourceRegion_eq (oneChannel : Bool) (register : Register) :
    register.sourceRegion oneChannel =
      if register.region.width = .w1 ∧ oneChannel then ⟨.s0, .w1, .s0⟩ else register.region :=
  rfl

theorem Register.align16Stride_eq (vstride : VerticalStride) :
    align16Stride vstride = if vstride = .s8 then .s4 else vstride := by
  cases vstride <;> rfl

namespace SourceFields

theorem decode_kept (fields : SourceFields) (registers : Nat) {register : Register}
    {mode : AccessMode} {oneChannel : Bool} {type : Nat} {place : SourcePlace}
    (notImmediate : register.isImmediate = false)
    (typed : register.type.codeIn? register.file = some type)
    (formed : register.sourcePlace mode oneChannel = .ok place) :
    fields.decode (SourceCodes.kept registers
        ⟨code register.file, type, register.negate, register.abs, place⟩) =
      .ok (register.keptSource registers mode oneChannel) := by
  have file : ¬register.file = .immediate := by simpa [Register.isImmediate] using notImmediate
  simp only [decode, SourceCodes.kept, decodeFileType_eq_ok typed, Register.keptSource, if_neg file]
  rcases (Register.sourcePlace_eq_ok_iff _ _ _ _).mp formed with ⟨immediate, -⟩ |
    ⟨-, rfl, address, addressing, rfl⟩ | ⟨-, rfl, addressing, rfl⟩ |
    ⟨-, rfl, addressing, aligned, rfl⟩
  · simp [notImmediate] at immediate
  · simp only [SourcePlace.kept, decodeRegion_codes, addressing, Register.sourceRegion_eq]
    rfl
  · simp only [SourcePlace.kept, decodeRegion_codes, addressing, Register.sourceRegion_eq]
    rfl
  · -- Aligned sub-registers are 0 or 16, so one bit holds them.
    have half : 16 * (register.offset / 16 % 2) = register.offset := by omega
    simp only [SourcePlace.kept, decodeCode_code, addressing, half, Register.align16Stride_eq]
    rfl

variable {fields : SourceFields} {registers : Nat}

theorem decode_read_write_register (separated : fields.Separated)
    (sized : fields.Sized registers) {register : Register} {mode : AccessMode}
    {oneChannel : Bool} {codes : SourceCodes} (notImmediate : register.isImmediate = false)
    (typed : register.type.codeIn? register.file = some codes.type)
    (formed : register.sourcePlace mode oneChannel = .ok codes.place)
    (isCodes : codes =
      ⟨code register.file, codes.type, register.negate, register.abs, codes.place⟩)
    (bits : Encoding) :
    fields.decode (fields.read mode (fields.write codes bits)) =
      .ok (register.keptSource registers mode oneChannel) := by
  have fits := register.sourcePlace_ofRegister notImmediate formed
  have file : codes.file < code RegisterFile.immediate := by
    rw [isCodes]
    exact RegisterFile.code_lt_immediate (by simpa [Register.isImmediate] using notImmediate)
  rw [read_write separated sized fits file (DataType.codeIn?_lt typed), isCodes]
  exact decode_kept fields registers notImmediate typed formed

theorem decode_read_write_immediate (separated : fields.Separated)
    (sized : fields.Sized registers) {register : Register} (mode : AccessMode)
    (oneChannel : Bool) {codes : SourceCodes} (immediate : register.isImmediate = true)
    (typed : register.type.codeIn? register.file = some codes.type)
    (file : codes.file = code register.file) (place : codes.place = .immediate register.immediate)
    (bits : Encoding) :
    fields.decode (fields.read mode (fields.write codes bits)) =
      .ok (register.keptSource registers mode oneChannel) := by
  have isImmediate : register.file = .immediate := by
    simpa [Register.isImmediate] using immediate
  rw [isImmediate] at typed file
  obtain ⟨atFile, atType, atPlace⟩ :=
    read_write_immediate separated sized mode place file (DataType.codeIn?_lt typed) bits
  rw [decode, atFile, atType, atPlace, file, decodeFileType_eq_ok typed]
  simp only [Register.keptSource, if_pos isImmediate]
  rfl

theorem decode_read_write (separated : fields.Separated) (sized : fields.Sized registers)
    {register : Register} {mode : AccessMode} {oneChannel : Bool} {type : Nat}
    {place : SourcePlace} (typed : register.type.codeIn? register.file = some type)
    (formed : register.sourcePlace mode oneChannel = .ok place) (bits : Encoding) :
    fields.decode (fields.read mode (fields.write
        ⟨code register.file, type, register.negate, register.abs, place⟩ bits)) =
      .ok (register.keptSource registers mode oneChannel) := by
  cases immediate : register.isImmediate with
  | false => exact decode_read_write_register separated sized immediate typed formed rfl bits
  | true =>
      have value : place = .immediate register.immediate := by
        simpa [Register.sourcePlace, immediate, eq_comm] using formed
      exact decode_read_write_immediate separated sized mode oneChannel immediate typed rfl value
        bits

end SourceFields

namespace Instruction

theorem accessMode_writeSource (slot : SourceSlot) (codes : SourceCodes) (instr : Instruction) :
    (instr.writeSource slot codes).accessMode = instr.accessMode := by
  rw [writeSource_eq]
  apply accessMode_of_agree
  exact instr.gen.layoutKind.header_agree_source slot codes instr.bits _
    instr.layout.header.accessMode_mem_ranges

theorem sourceCodes_writeSource (slot : SourceSlot) (codes : SourceCodes) (instr : Instruction) :
    (instr.writeSource slot codes).sourceCodes slot =
      (instr.layout.source slot).read instr.accessMode
        ((instr.layout.source slot).write codes instr.bits) := by
  -- The type that an immediate src0 gives to src1 is nothing that src0 reads.
  rw [sourceCodes, accessMode_writeSource, writeSource_eq, Layout.sourceAssignments,
    Encoding.assign_append, ← SourceFields.write_eq_assign]
  have agree := instr.gen.layoutKind.source_agree_align slot codes
    ((instr.layout.source slot).write codes instr.bits)
  obtain ⟨fields, value⟩ := (Encoding.Agree.append_iff _ _ _ _).mp agree
  exact SourceFields.read_of_agree _ _ fields fun _ => value _ List.mem_cons_self

theorem source_writeSource (slot : SourceSlot) (codes : SourceCodes) (instr : Instruction) :
    (instr.writeSource slot codes).source slot =
      (instr.layout.source slot).decode ((instr.layout.source slot).read instr.accessMode
        ((instr.layout.source slot).write codes instr.bits)) := by
  have layout_eq : (instr.writeSource slot codes).layout = instr.layout := by
    rw [writeSource_eq]
    rfl
  rw [source, sourceCodes_writeSource, layout_eq]

theorem source_of_judged {slot : SourceSlot} {register : Register} {instr : Instruction}
    {codes : SourceCodes} (judged : instr.judgeSource slot register = .ok codes) :
    ∃ placed, register.placed instr.gen = .ok placed ∧
      (instr.writeSource slot codes).source slot =
        .ok (placed.keptSource instr.gen.layoutKind.addressRegisters instr.accessMode
          instr.executesOneChannel) := by
  obtain ⟨placed, type, place, isPlaced, -, typed, -, formed, rfl⟩ :=
    (judgeSource_eq_ok_iff _ _ _ _).mp judged
  have hasCode := (Register.typeNumber_eq_ok_iff _ _).mp typed
  refine ⟨placed, isPlaced, ?_⟩
  rw [source_writeSource]
  exact SourceFields.decode_read_write (instr.gen.layoutKind.source_separated slot)
    (instr.gen.layoutKind.source_sized slot) hasCode formed _

/-- Whatever the bits were, the source that a setter accepted is the source that is read
afterwards, up to what the slot keeps of it. -/
theorem source_after_set (slot : SourceSlot) (register : Register) (instr written : Instruction)
    (accepted : instr.setSource slot register = .ok written) :
    ∃ placed, register.placed instr.gen = .ok placed ∧
      written.source slot = .ok (placed.keptSource instr.gen.layoutKind.addressRegisters
        instr.accessMode instr.executesOneChannel) := by
  obtain ⟨codes, judged, rfl⟩ := (setSource_eq_ok_iff _ _ _ _).mp accepted
  obtain ⟨placed, type, place, isPlaced, -, typed, -, formed, rfl⟩ :=
    (judgeSource_eq_ok_iff _ _ _ _).mp judged
  refine ⟨placed, isPlaced, ?_⟩
  rw [source_writeSource]
  have separated := instr.gen.layoutKind.source_separated slot
  have sized := instr.gen.layoutKind.source_sized slot
  have hasCode := (Register.typeNumber_eq_ok_iff _ _).mp typed
  cases immediate : placed.isImmediate with
  | false =>
      exact SourceFields.decode_read_write_register separated sized immediate hasCode formed rfl _
  | true =>
      have value : place = .immediate placed.immediate := by
        simpa [Register.sourcePlace, immediate, eq_comm] using formed
      exact SourceFields.decode_read_write_immediate separated sized _ _ immediate hasCode rfl
        value _

/-- Any stale bit that could show is set here. -/
def staleAlign1 : Instruction :=
  (⟨.gen8, BitVec.allOnes 128⟩ : Instruction)
    |> set Layout.gen8.src0.file (code RegisterFile.general)
    |> setExecSize .e8
    |> setAccessMode .align1

/-- An offset of -700 does not fit, and its bits are split between two words. -/
theorem source_after_set_stale :
    ∃ written,
      staleAlign1.setSource .src1 ((Register.general 0 0).indirect ⟨3, -700⟩).negated =
        .ok written ∧
      written.source .src1 = .ok ((Register.general 0 0).indirect ⟨3, 324⟩).negated := by
  obtain ⟨written, accepted⟩ : ∃ written, staleAlign1.setSource .src1
      ((Register.general 0 0).indirect ⟨3, -700⟩).negated = .ok written := ⟨_, rfl⟩
  obtain ⟨placed, isPlaced, kept⟩ := source_after_set _ _ _ _ accepted
  obtain rfl := Except.ok.inj isPlaced
  exact ⟨written, accepted, kept⟩

end Instruction

end ExecUnit
