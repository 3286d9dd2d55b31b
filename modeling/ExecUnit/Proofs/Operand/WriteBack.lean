import ExecUnit.Proofs.Operand.KeptRegisters
import ExecUnit.Proofs.Operand.LegalRegions
import ExecUnit.Proofs.Operand.WriteRead

/-!
Writing a decoded operand back into its slot. What was decoded is accepted again, and it is
held by the numbers that are in the slot already. So a source changes nothing
(`source_written_back`), unless it is an immediate src0, whose sign bits are lost. A
destination is decoded with a width of one, which makes the setter reduce the execution
size to one channel (`destination_written_back`).
-/

namespace ExecUnit

open Encoding (Agree)

namespace Instruction

section Destinations

theorem setExecSize_eq_self_iff (size : ExecSize) (instr : Instruction) :
    instr.setExecSize size = instr ↔ instr.execSize = .ok size := by
  rw [execSize, decodeCode_eq_ok_iff]
  constructor
  · intro same
    have held := congrArg (·.get instr.layout.header.execSize) same
    have fits : code size < instr.layout.header.execSize.capacity := by
      rw [show instr.layout.header.execSize.capacity = 8 from
        instr.gen.layoutKind.execSize_capacity]
      cases size <;> decide
    exact (Nat.mod_eq_of_lt fits).symm.trans ((BitRange.get_set _ _ _).symm.trans held)
  · intro held
    rw [setExecSize, held]
    exact congrArg (Instruction.mk instr.gen) (BitRange.set_get _ _)

theorem fitExecSize_w1 (instr : Instruction) : instr.fitExecSize .w1 = instr.setExecSize .e1 :=
  rfl

/-- A destination that is read and could be set in its own place is set without any change
but that of the execution size. -/
theorem setDestination_of_decoded {read : Register} {instr : Instruction}
    (decoded : instr.destination = .ok read) (isPlaced : read.placed instr.gen = .ok read)
    (coded : read.destinationCodes instr.accessMode =
      .ok (read.heldDestination instr.accessMode)) :
    instr.setDestination read = .ok (instr.fitExecSize read.region.width) := by
  have held := DestinationFields.held_of_decode
    (DestinationFields.readPlace_inMode instr.gen.layoutKind.dst_sized _ _) decoded
  refine (setDestination_eq_ok_iff _ _ _).mpr ⟨read, _, isPlaced, coded, ?_⟩
  have unchanged : instr.writeDestination (read.heldDestination instr.accessMode) = instr := by
    rw [held]
    exact congrArg (Instruction.mk instr.gen) (DestinationFields.write_read
      instr.gen.layoutKind.dst_sized instr.gen.layoutKind.dst_addressMode_capacity _ _)
  rw [unchanged]

/-- The destination that a setter accepted can be read, and setting what was read changes the
execution size to one channel and nothing else. Nothing changes at all only where it was
one channel. -/
theorem destination_written_back (register : Register) (instr written : Instruction)
    (accepted : instr.setDestination register = .ok written) :
    ∃ read, written.destination = .ok read ∧
      written.setDestination read = .ok (written.setExecSize .e1) ∧
      (written.setDestination read = .ok written ↔ written.execSize = .ok .e1) := by
  obtain ⟨placed, codes, isPlaced, coded, rfl⟩ := (setDestination_eq_ok_iff _ _ _).mp accepted
  have decoded := destination_of_coded instr coded placed.region.width
  have mode := accessMode_written codes placed.region.width instr
  obtain ⟨after, isWritten⟩ : ∃ after,
      (instr.writeDestination codes).fitExecSize placed.region.width = ⟨instr.gen, after⟩ :=
    ⟨_, writeDestination_fitExecSize_eq _ _ _⟩
  rw [isWritten] at decoded mode ⊢
  have again := setDestination_of_decoded decoded (Register.keptDestination_placed isPlaced)
    (mode.symm ▸ Register.destinationCodes_kept coded)
  rw [Register.keptDestination_outline.2.2.1, fitExecSize_w1] at again
  refine ⟨_, decoded, again, ?_⟩
  rw [again, Except.ok.injEq]
  exact setExecSize_eq_self_iff _ _

/-- A move of eight channels is one of a single channel after the second call. -/
theorem destination_written_back_shrunk :
    ∃ written read, moveEight.setDestination (.general 1 0) = .ok written ∧
      written.execSize = .ok .e8 ∧ written.destination = .ok read ∧
      written.setDestination read = .ok (written.setExecSize .e1) := by
  obtain ⟨written, accepted⟩ : ∃ written,
      moveEight.setDestination (.general 1 0) = .ok written := ⟨_, rfl⟩
  obtain ⟨read, decoded, again, -⟩ := destination_written_back _ _ _ accepted
  obtain rfl := Except.ok.inj accepted
  exact ⟨_, read, rfl, rfl, decoded, again⟩

/-- Not every destination can be written back without a change. -/
theorem destination_not_fixed :
    ¬∀ (gen : Generation) (bits : Encoding) (mode : AccessMode) (size : ExecSize)
      (register : Register) (written : Instruction), register.isImmediate = false →
      (((⟨gen, bits⟩ : Instruction).setAccessMode mode).setExecSize size).setDestination register =
        .ok written →
      ∃ read, written.destination = .ok read ∧ written.setDestination read = .ok written := by
  intro claim
  obtain ⟨read, decoded, same⟩ := claim .gen6 0 .align1 .e8 (.general 1 0) _ rfl rfl
  obtain rfl := Except.ok.inj decoded
  have single := congrArg (·.map execSize) same
  cases single

end Destinations

end Instruction

theorem Region.fault?_align16 (vstride : VerticalStride) {size : ExecSize}
    (wide : 8 ≤ size.channels) : Region.fault? size ⟨vstride, .w4, .s1⟩ = none := by
  -- Rows of four leave room to spare in eight channels or more.
  have room : Width.w4.elements < size.channels := Nat.lt_of_lt_of_le (by decide) wide
  refine (fault?_eq_none_iff _ _).mpr ⟨Nat.le_of_lt room, ?_, ?_, ?_, ?_⟩
  · exact (misfitStride?_eq_none_iff _ _).mpr fun row => absurd row (Nat.ne_of_gt room)
  · exact fun (one : 4 = 1) => absurd one (by decide)
  · exact fun _ (one : 4 = 1) => absurd one (by decide)
  · exact fun _ (none : 1 = 0) => absurd none (by decide)

namespace Instruction

section Sources

theorem knownExecSize_eq_ok_iff (instr : Instruction) (size : ExecSize) :
    instr.knownExecSize = .ok size ↔ instr.execSize = .ok size := by
  rw [knownExecSize, orRefuse_eq_ok_iff, execSize, decodeCode, orFault_eq_ok_iff]

theorem checkRegion_eq_ok_iff (register : Register) (instr : Instruction) :
    instr.checkRegion register = .ok () ↔
      (register.file = .general ∨ register.file = .message →
        ∃ size, instr.execSize = .ok size ∧ register.region.fault? size = none) := by
  unfold checkRegion
  cases register.file with
  | general | message =>
      simp only [reduceCtorEq, true_or, or_true, true_implies, bind_eq_ok_iff,
        knownExecSize_eq_ok_iff]
      refine exists_congr fun size => and_congr Iff.rfl ?_
      cases register.region.fault? size <;> simp [pure, Except.pure]
  | architecture | immediate => simp only [reduceCtorEq, or_self, false_implies]

variable {slot : SourceSlot} {register : Register} {instr : Instruction} {codes : SourceCodes}

theorem checkRegion_keptSource {placed : Register} {place : SourcePlace} {written : Instruction}
    (registers : Nat) (sized : written.execSize = instr.execSize)
    (wide : instr.accessMode = .align16 → ∃ size, instr.execSize = .ok size ∧ 8 ≤ size.channels)
    (formed : placed.sourcePlace instr.accessMode instr.executesOneChannel = .ok place)
    (checked : instr.checkRegion placed = .ok ()) :
    written.checkRegion
      (placed.keptSource registers instr.accessMode instr.executesOneChannel) = .ok () := by
  rw [checkRegion_eq_ok_iff] at checked ⊢
  intro inFile
  rw [Register.keptSource_file] at inFile
  have notImmediate : placed.file ≠ .immediate := by
    rintro immediate
    simp [immediate] at inFile
  obtain ⟨size, isSize, legal⟩ := checked inFile
  refine ⟨size, sized.trans isSize, ?_⟩
  cases mode : instr.accessMode with
  | align1 =>
      rw [Register.keptSource_align1_region notImmediate, Register.sourceRegion]
      split
      · next single =>
        obtain rfl := size_of_executesOneChannel isSize single.2
        rfl
      · exact legal
  | align16 =>
      obtain ⟨size', isSize', atLeast⟩ := wide mode
      obtain rfl := Except.ok.inj (isSize.symm.trans isSize')
      rw [mode] at formed
      have direct := Register.direct_of_align16 notImmediate formed
      rw [(Register.keptSource_align16 notImmediate direct).2.2]
      exact Region.fault?_align16 _ atLeast

theorem gen_writeSource : (instr.writeSource slot codes).gen = instr.gen := by
  rw [writeSource_eq]

theorem execSize_writeSource : (instr.writeSource slot codes).execSize = instr.execSize := by
  rw [writeSource_eq]
  exact execSize_of_agree (instr.gen.layoutKind.header_agree_source slot codes instr.bits _
    instr.layout.header.execSize_mem_ranges)

theorem executesOneChannel_writeSource :
    (instr.writeSource slot codes).executesOneChannel = instr.executesOneChannel := by
  rw [writeSource_eq]
  exact executesOneChannel_of_agree (instr.gen.layoutKind.header_agree_source slot codes
    instr.bits _ instr.layout.header.execSize_mem_ranges)

theorem checkSlot_writeSource (free : instr.checkSlot slot = .ok ()) :
    (instr.writeSource slot codes).checkSlot slot = .ok () := by
  -- Src1 does not decide what file src0 is in.
  cases slot with
  | src0 => rfl
  | src1 =>
      have agree := Encoding.agree_assign (instr.gen.layoutKind.src0_apart_src1.mono
        (List.Subset.refl _) (instr.layout.src1Assignments_subset codes)) instr.bits
      have file := agree _ instr.layout.src0.file_mem_ranges
      rw [checkSlot_src1_eq_ok_iff] at free ⊢
      rw [writeSource_eq]
      exact fun immediate => free (file.symm.trans immediate)

theorem judgeSource_held {type : Nat} (isPlaced : register.placed instr.gen = .ok register)
    (checked : instr.checkRegion register = .ok ())
    (typed : register.typeNumber = .ok type) (free : instr.checkSlot slot = .ok ())
    (formed : register.sourcePlace instr.accessMode instr.executesOneChannel =
      .ok (register.heldSource instr.accessMode).place) :
    instr.judgeSource slot register = .ok (register.heldSource instr.accessMode) := by
  have hasCode := (Register.typeNumber_eq_ok_iff _ _).mp typed
  refine (judgeSource_eq_ok_iff _ _ _ _).mpr
    ⟨register, type, _, isPlaced, checked, typed, free, formed, ?_⟩
  simp only [Register.heldSource, hasCode, Option.getD_some]

theorem judgeSource_written
    (wide : instr.accessMode = .align16 → ∃ size, instr.execSize = .ok size ∧ 8 ≤ size.channels)
    (judged : instr.judgeSource slot register = .ok codes) :
    ∃ read, (instr.writeSource slot codes).source slot = .ok read ∧
      read.isImmediate = register.isImmediate ∧
      (instr.writeSource slot codes).judgeSource slot read =
        .ok (read.heldSource (instr.writeSource slot codes).accessMode) := by
  obtain ⟨placed, isPlaced, decoded⟩ := source_of_judged judged
  obtain ⟨placed', type, place, isPlaced', checked, typed, free, formed, -⟩ :=
    (judgeSource_eq_ok_iff _ _ _ _).mp judged
  obtain rfl := Except.ok.inj (isPlaced.symm.trans isPlaced')
  have keptPlaced : (placed.keptSource instr.gen.layoutKind.addressRegisters instr.accessMode
      instr.executesOneChannel).placed (instr.writeSource slot codes).gen = .ok _ :=
    gen_writeSource ▸ Register.keptSource_placed isPlaced
  refine ⟨_, decoded, ?_, judgeSource_held keptPlaced
    (checkRegion_keptSource _ execSize_writeSource wide formed checked)
    (Register.keptSource_typeNumber.trans typed) (checkSlot_writeSource free) ?_⟩
  · obtain ⟨rfl, -⟩ := (Register.placed_eq_ok_iff _ _ _).mp isPlaced
    rw [Register.isImmediate, Register.keptSource_file]
    exact register.withoutMessageFile_isImmediate instr.gen
  · rw [accessMode_writeSource, executesOneChannel_writeSource]
    exact Register.sourcePlace_keptSource formed

/-- A source that is read and would be accepted in its own place is written by the numbers
that the slot holds and uses. -/
theorem setSource_of_decoded {read : Register} (decoded : instr.source slot = .ok read)
    (judged : instr.judgeSource slot read = .ok (read.heldSource instr.accessMode)) :
    instr.setSource slot read = .ok (instr.writeSource slot (instr.sourceCodes slot).used) := by
  have held : read.heldSource instr.accessMode = (instr.sourceCodes slot).used :=
    SourceFields.held_of_decode (instr.gen.layoutKind.source_sized slot) decoded
  exact (setSource_eq_ok_iff _ _ _ _).mpr ⟨_, judged, by rw [held]⟩

def clearSrc0Signs (instr : Instruction) : Instruction :=
  instr |> set instr.layout.src0.abs 0 |> set instr.layout.src0.negate 0

theorem writeSource_used_src1 (instr : Instruction) :
    instr.writeSource .src1 (instr.sourceCodes .src1).used = instr := by
  have unchanged : instr.layout.src1.write (instr.sourceCodes .src1).used instr.bits =
      instr.bits := by
    by_cases immediate : instr.layout.src1.file.get instr.bits = code RegisterFile.immediate
    · obtain ⟨abs, negate⟩ : immediateRange.low ≤ instr.layout.src1.abs.low ∧
          immediateRange.low ≤ instr.layout.src1.negate.low :=
        instr.gen.layoutKind.src1_signs_inside
      have last : ∀ range : BitRange, range.high ≤ immediateRange.high :=
        fun range => Nat.le_of_lt_succ range.inside
      -- The value is written last, over the sign bits that were cleared.
      refine (SourceFields.write_used_of_immediate _ instr.accessMode immediate).trans ?_
      rw [BitRange.set_set_of_inside negate (last _), BitRange.set_set_of_inside abs (last _),
        BitRange.set_get]
    · exact SourceFields.write_used_of_register (instr.gen.layoutKind.source_sized .src1)
        (instr.gen.layoutKind.source_singleBits .src1) _ _ immediate
  exact congrArg (Instruction.mk instr.gen) unchanged

theorem writeSource_used_src0_register
    (register : instr.layout.src0.file.get instr.bits ≠ code RegisterFile.immediate) :
    instr.writeSource .src0 (instr.sourceCodes .src0).used = instr := by
  have sized := instr.gen.layoutKind.source_sized .src0
  have unchanged : instr.layout.src0.write (instr.sourceCodes .src0).used instr.bits =
      instr.bits :=
    SourceFields.write_used_of_register sized (instr.gen.layoutKind.source_singleBits .src0) _ _
      register
  have ofRegister : (instr.sourceCodes .src0).place.OfRegister instr.accessMode := by
    rcases SourceFields.readPlace_cases sized instr.accessMode instr.bits with
      ⟨immediate, -⟩ | ⟨-, ofRegister⟩
    · exact absurd immediate register
    · exact ofRegister
  rw [← SourceCodes.used_place] at ofRegister
  rw [writeSource_eq, Layout.sourceAssignments,
    Layout.alignAssignments_of_register _ _ ofRegister, List.append_nil,
    ← SourceFields.write_eq_assign]
  exact congrArg (Instruction.mk instr.gen) unchanged

theorem writeSource_used_src0_immediate
    (immediate : instr.layout.src0.file.get instr.bits = code RegisterFile.immediate)
    (src1 : instr.bits.Stores (instr.layout.src1.typeAssignments
      (code RegisterFile.architecture) (instr.layout.src0.type.get instr.bits))) :
    instr.writeSource .src0 (instr.sourceCodes .src0).used = instr.clearSrc0Signs := by
  -- Nothing besides the sign bits changes, neither the value nor what src1 holds.
  have agree : Agree (instr.layout.src1.ranges ++ [immediateRange]) instr.clearSrc0Signs.bits
      instr.bits :=
    Encoding.agree_assign (instr.gen.layoutKind.src0_apart_src1.symm.mono (List.Subset.refl _)
      (instr.layout.src0.signAssignments_subset false false)) instr.bits
  obtain ⟨inSrc1, value⟩ := (Agree.append_iff _ _ _ _).mp agree
  have own : instr.layout.src0.write (instr.sourceCodes .src0).used instr.bits =
      instr.clearSrc0Signs.bits := by
    refine (SourceFields.write_used_of_immediate _ instr.accessMode immediate).trans ?_
    rw [← value _ List.mem_cons_self]
    exact BitRange.set_get _ _
  have typed := src1.of_agree inSrc1 (instr.layout.src1.typeAssignments_subset _ _)
  have aligned : instr.layout.alignAssignments .src0 (instr.sourceCodes .src0).used =
      instr.layout.src1.typeAssignments (code RegisterFile.architecture)
        (instr.layout.src0.type.get instr.bits) := by
    have place : (instr.sourceCodes .src0).used.place =
        .immediate (BitVec.ofNat 32 (immediateRange.get instr.bits)) :=
      (SourceCodes.used_place _).trans (if_pos immediate)
    simp only [Layout.alignAssignments, place, SourceCodes.used_type]
    rfl
  rw [writeSource_eq, Layout.sourceAssignments, aligned, Encoding.assign_append,
    ← SourceFields.write_eq_assign]
  exact congrArg (Instruction.mk instr.gen)
    ((congrArg _ own).trans (Encoding.assign_of_stores typed))

theorem consistent_immediate_src0 (layoutKind : LayoutKind) (codes : SourceCodes) {value : Word}
    (place : codes.place = .immediate value) :
    Consistent (layoutKind.layout.sourceAssignments .src0 codes) := by
  apply consistent_of_separate
  simp only [Layout.sourceAssignments, Layout.alignAssignments, SourceFields.assignments, place]
  exact layoutKind.immediate_src0_separate

theorem clearSrc0Signs_eq_self_iff (instr : Instruction) :
    instr.clearSrc0Signs = instr ↔
      instr.bits.Stores (instr.layout.src0.signAssignments false false) := by
  have consistent : Consistent (instr.layout.src0.signAssignments false false) :=
    SourceFields.consistent_signs (instr.gen.layoutKind.source_separated .src0) false false
  rw [← Encoding.assign_eq_self_iff consistent]
  constructor
  · exact congrArg Instruction.bits
  · exact congrArg (Instruction.mk instr.gen)

theorem stores_immediate_src0 {value : Word} {written : Instruction}
    (place : codes.place = .immediate value) (isWritten : instr.writeSource .src0 codes = written) :
    written.bits.Stores (written.layout.src0.commonAssignments codes) ∧
      written.bits.Stores
        (written.layout.src1.typeAssignments (code RegisterFile.architecture) codes.type) := by
  have stored := Encoding.stores_assign
    (consistent_immediate_src0 instr.gen.layoutKind codes place) instr.bits
  rw [writeSource_eq] at isWritten
  simp only [Layout.sourceAssignments, Layout.alignAssignments, SourceFields.assignments, place,
    Encoding.stores_append] at stored isWritten
  obtain rfl := isWritten
  exact ⟨stored.1.1, stored.2⟩

theorem writeSource_used_of_stores (immediate : codes.file = code RegisterFile.immediate)
    (type : codes.type < 8)
    (common : instr.bits.Stores (instr.layout.src0.commonAssignments codes))
    (src1 : instr.bits.Stores
      (instr.layout.src1.typeAssignments (code RegisterFile.architecture) codes.type)) :
    instr.writeSource .src0 (instr.sourceCodes .src0).used = instr.clearSrc0Signs ∧
      (instr.clearSrc0Signs = instr ↔ codes.abs = false ∧ codes.negate = false) := by
  obtain ⟨fileType, signs⟩ := (Encoding.stores_append _ _ _).mp common
  obtain ⟨atFile, atType⟩ := SourceFields.fileType_of_stores
    (instr.gen.layoutKind.source_sized .src0) (immediate ▸ RegisterFile.code_lt _) type fileType
  rw [clearSrc0Signs_eq_self_iff]
  exact ⟨writeSource_used_src0_immediate (atFile.trans immediate) (atType.symm ▸ src1),
    SourceFields.stores_clear_signs_iff signs⟩

theorem codes_of_immediate (immediate : register.isImmediate = true)
    (judged : instr.judgeSource slot register = .ok codes) :
    codes.file = code RegisterFile.immediate ∧ codes.type < 8 ∧
      codes.negate = register.negate ∧ codes.abs = register.abs ∧
      codes.place = .immediate register.immediate := by
  have file : register.file = .immediate := of_decide_eq_true immediate
  obtain ⟨placed, type, place, isPlaced, -, typed, -, formed, rfl⟩ :=
    (judgeSource_eq_ok_iff _ _ _ _).mp judged
  obtain ⟨moved, -⟩ := (Register.placed_eq_ok_iff _ _ _).mp isPlaced
  obtain rfl : placed = register := moved.trans (if_neg fun both => by simp [file] at both)
  have value : place = .immediate placed.immediate := by
    simpa [Register.sourcePlace, immediate, eq_comm] using formed
  exact ⟨congrArg code file, DataType.codeIn?_lt ((Register.typeNumber_eq_ok_iff _ _).mp typed),
    rfl, rfl, value⟩

/-- The source that a setter accepted can be read, and setting what was read in the same slot
changes nothing, unless the source is an immediate src0, whose sign bits are cleared then. -/
theorem source_written_back (slot : SourceSlot) (register : Register)
    (instr written : Instruction)
    (wide : instr.accessMode = .align16 → ∃ size, instr.execSize = .ok size ∧ 8 ≤ size.channels)
    (accepted : instr.setSource slot register = .ok written) :
    ∃ read, written.source slot = .ok read ∧
      written.setSource slot read =
        .ok (if slot = .src0 ∧ register.isImmediate = true then written.clearSrc0Signs
          else written) ∧
      (written.setSource slot read = .ok written ↔
        ¬(slot = .src0 ∧ register.isImmediate = true ∧
          (register.negate = true ∨ register.abs = true))) := by
  obtain ⟨codes, judged, rfl⟩ := (setSource_eq_ok_iff _ _ _ _).mp accepted
  obtain ⟨read, decoded, sameFile, judged'⟩ := judgeSource_written wide judged
  have again := setSource_of_decoded decoded judged'
  refine ⟨read, decoded, ?_⟩
  -- Only an immediate src0 has sign bits that neither its reader nor its value takes.
  by_cases special : slot = .src0 ∧ register.isImmediate = true
  · obtain ⟨rfl, immediate⟩ := special
    obtain ⟨file, type, negate, abs, place⟩ := codes_of_immediate immediate judged
    obtain ⟨common, src1⟩ := stores_immediate_src0 place rfl
    obtain ⟨cleared, same⟩ := writeSource_used_of_stores file type common src1
    rw [cleared] at again
    rw [abs, negate] at same
    rw [if_pos ⟨rfl, immediate⟩]
    refine ⟨again, ?_⟩
    rw [again, Except.ok.injEq, same]
    simp [immediate, and_comm]
  · have unchanged : (instr.writeSource slot codes).writeSource slot
        ((instr.writeSource slot codes).sourceCodes slot).used = instr.writeSource slot codes := by
      cases slot with
      | src1 => exact writeSource_used_src1 _
      | src0 =>
          have held := SourceFields.file_of_decode
            ((instr.writeSource .src0 codes).gen.layoutKind.source_sized .src0) decoded
          have isRegister : read.file ≠ .immediate := by
            intro file
            exact special ⟨rfl, sameFile.symm.trans (decide_eq_true file)⟩
          apply writeSource_used_src0_register
          exact fun same => isRegister (Coded.code_injective (held.symm.trans same))
    rw [unchanged] at again
    rw [if_neg special]
    exact ⟨again, iff_of_true again fun lost => special ⟨lost.1, lost.2.1⟩⟩

/-- An Align16 operand of two rows of four is a fixed point, negation included. -/
theorem source_written_back_rows :
    ∃ written read,
      (moveEight.setAccessMode .align16).setSource .src1 (Register.general 3 16).negated =
        .ok written ∧
      written.source .src1 = .ok read ∧ read.region = ⟨.s4, .w4, .s1⟩ ∧
      written.setSource .src1 read = .ok written := by
  obtain ⟨written, accepted⟩ : ∃ written, (moveEight.setAccessMode .align16).setSource .src1
      (Register.general 3 16).negated = .ok written := ⟨_, rfl⟩
  obtain ⟨read, decoded, -, same⟩ := source_written_back .src1 _ _ _
    (fun _ => ⟨.e8, rfl, Nat.le_refl 8⟩) accepted
  have again := same.mpr fun lost => nomatch lost.1
  obtain rfl := Except.ok.inj accepted
  have region : read.region = ⟨.s4, .w4, .s1⟩ := congrArg Register.region
    (Except.ok.inj decoded).symm
  exact ⟨_, read, rfl, decoded, region, again⟩

/-- Not every source can be written back without a change: the sign of an immediate in the
first slot is lost. -/
theorem source_not_fixed :
    ¬∀ (gen : Generation) (bits : Encoding) (slot : SourceSlot) (register : Register)
      (written : Instruction), (⟨gen, bits⟩ : Instruction).accessMode = .align1 →
      (⟨gen, bits⟩ : Instruction).setSource slot register = .ok written →
      ∃ read, written.source slot = .ok read ∧ written.setSource slot read = .ok written := by
  intro claim
  obtain ⟨read, decoded, same⟩ := claim .gen6 moveEight.bits .src0
    (Register.immF 0x3f800000#32).negated _ rfl rfl
  obtain rfl := Except.ok.inj decoded
  have sign := congrArg (·.map (get Layout.gen4.src0.negate)) same
  cases sign

end Sources

end Instruction

end ExecUnit
