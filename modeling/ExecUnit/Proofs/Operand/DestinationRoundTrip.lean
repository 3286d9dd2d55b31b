import ExecUnit.Proofs.Operand.Acceptance
import ExecUnit.Proofs.Operand.Frame

/-!
A destination that was set is read back, on every generation and over any bits:
`destination_after_set`. Destinations cannot be strided by zero, and of their
region only the horizontal stride is kept.
-/

namespace ExecUnit

/-- What a destination slot keeps of a register that was `placed` on a generation
with `registers` address subregisters. -/
def Register.keptDestination (registers : Nat) (mode : AccessMode) (register : Register) :
    Register :=
  let hstride := if register.region.hstride = .s0 then .s1 else register.region.hstride
  match register.addressing, mode with
  | .indirect address, _ =>
      { plain register.file 0 0 register.type ⟨.s0, .w1, hstride⟩ with
        addressing := .indirect (address.kept registers) }
  | .direct, .align1 =>
      plain register.file (register.number % 256) (register.offset % 32) register.type
        ⟨.s0, .w1, hstride⟩
  | .direct, .align16 =>
      { plain register.file (register.number % 256) register.offset register.type
          ⟨.s0, .w1, .s1⟩ with
        writeMask := register.writeMask }

theorem Register.destinationStride_eq (register : Register) :
    register.destinationStride =
      if register.region.hstride = .s0 then .s1 else register.region.hstride := by
  unfold destinationStride
  cases register.region.hstride <;> rfl

theorem DestinationFields.decode_kept (fields : DestinationFields) (registers : Nat)
    {register : Register} {mode : AccessMode} {type : Nat} {place : DestinationPlace}
    (typed : register.type.codeIn? register.file = some type)
    (formed : register.destinationPlace mode = .ok place) :
    fields.decode (DestinationCodes.kept registers ⟨code register.file, type, place⟩) =
      .ok (register.keptDestination registers mode) := by
  simp only [decode, DestinationCodes.kept, decodeFileType_eq_ok typed, Register.keptDestination,
    ← Register.destinationStride_eq]
  rcases (Register.destinationPlace_eq_ok_iff _ _ _).mp formed with
    ⟨rfl, address, addressing, rfl⟩ | ⟨rfl, addressing, rfl⟩ | ⟨rfl, addressing, aligned, rfl⟩
  · simp only [DestinationPlace.kept, decodeCode_code, addressing]
    rfl
  · simp only [DestinationPlace.kept, decodeCode_code, addressing]
    rfl
  · have half : 16 * (register.offset / 16 % 2) = register.offset := by omega
    simp only [DestinationPlace.kept, addressing, half]
    rfl

theorem DestinationFields.decode_read_write {fields : DestinationFields} {registers : Nat}
    (separated : fields.Separated) (sized : fields.Sized registers) {register : Register}
    {mode : AccessMode} {codes : DestinationCodes}
    (coded : register.destinationCodes mode = .ok codes) (bits : Encoding) :
    fields.decode (fields.read mode (fields.write codes bits)) =
      .ok (register.keptDestination registers mode) := by
  obtain ⟨type, place, typed, formed, rfl⟩ :=
    (Register.destinationCodes_eq_ok_iff _ _ _).mp coded
  have hasCode := (Register.typeNumber_eq_ok_iff _ _).mp typed
  have fits := Register.destinationPlace_inMode formed
  have stored := Encoding.stores_assign
    (consistent_assignments separated ⟨code register.file, type, place⟩) bits
  rw [write_eq_assign, read_of_stores sized fits (RegisterFile.code_lt _)
    (DataType.codeIn?_lt hasCode) stored]
  exact fields.decode_kept registers hasCode formed

namespace Instruction

theorem accessMode_written (codes : DestinationCodes) (width : Width) (instr : Instruction) :
    ((instr.writeDestination codes).fitExecSize width).accessMode = instr.accessMode := by
  rw [writeDestination_fitExecSize_eq]
  apply accessMode_of_agree
  exact instr.gen.layoutKind.header_agree_destination codes width instr.bits _
    instr.layout.header.accessMode_mem_steeringRanges

theorem destination_written (codes : DestinationCodes) (width : Width) (instr : Instruction) :
    ((instr.writeDestination codes).fitExecSize width).destination =
      instr.layout.dst.decode (instr.layout.dst.read instr.accessMode
        (instr.layout.dst.write codes instr.bits)) := by
  -- The execution size that a narrow destination sets is nothing that destinations read.
  rw [destination, destinationCodes, accessMode_written, writeDestination_fitExecSize_eq,
    Layout.destinationAssignments, Encoding.assign_append, ← DestinationFields.write_eq_assign]
  have agree := instr.gen.layoutKind.dst_agree_size width
    (instr.layout.dst.write codes instr.bits)
  exact congrArg instr.layout.dst.decode (DestinationFields.read_of_agree _ _ agree)

theorem destination_of_coded {placed : Register} {codes : DestinationCodes} (instr : Instruction)
    (coded : placed.destinationCodes instr.accessMode = .ok codes) (width : Width) :
    ((instr.writeDestination codes).fitExecSize width).destination =
      .ok (placed.keptDestination instr.gen.layoutKind.addressRegisters instr.accessMode) := by
  rw [destination_written]
  exact DestinationFields.decode_read_write instr.gen.layoutKind.dst_separated
    instr.gen.layoutKind.dst_sized coded instr.bits

/-- Whatever the bits were, the destination that the setter accepted is the destination
that is read afterwards, up to what the slot keeps of it. -/
theorem destination_after_set (register : Register) (instr written : Instruction)
    (accepted : instr.setDestination register = .ok written) :
    ∃ placed, register.placed instr.gen = .ok placed ∧
      written.destination = .ok (placed.keptDestination instr.gen.layoutKind.addressRegisters
        instr.accessMode) := by
  obtain ⟨placed, codes, isPlaced, coded, rfl⟩ := (setDestination_eq_ok_iff _ _ _).mp accepted
  refine ⟨placed, isPlaced, ?_⟩
  rw [destination_written]
  exact DestinationFields.decode_read_write instr.gen.layoutKind.dst_separated
    instr.gen.layoutKind.dst_sized coded instr.bits

/-- Over set bits, with a stride of zero and an offset of 1000. -/
theorem destination_after_set_indirect :
    ∃ written,
      ((⟨.gen8, BitVec.allOnes 128⟩ : Instruction).setAccessMode .align1).setDestination
        ((Register.general 0 0).indirect ⟨9, 1000⟩ |>.withRegion .scalar) = .ok written ∧
      written.destination =
        .ok ((Register.general 0 0).indirect ⟨9, -24⟩ |>.withRegion ⟨.s0, .w1, .s1⟩) := by
  obtain ⟨written, accepted⟩ : ∃ written,
      ((⟨.gen8, BitVec.allOnes 128⟩ : Instruction).setAccessMode .align1).setDestination
        ((Register.general 0 0).indirect ⟨9, 1000⟩ |>.withRegion .scalar) = .ok written :=
    ⟨_, rfl⟩
  obtain ⟨placed, isPlaced, kept⟩ := destination_after_set _ _ _ accepted
  obtain rfl := Except.ok.inj isPlaced
  exact ⟨written, accepted, kept⟩

end Instruction

end ExecUnit
