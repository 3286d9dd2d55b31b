import ExecUnit.Proofs.Operand.Acceptance
import ExecUnit.Proofs.Operand.Frame

/-!
The operand setters with their checks among the writes, where each check looks at what has
been written so far. They accept the same operands and leave the same bits as the setters
that judge first (`setSourceInTurn_eq`, `setDestinationInTurn_eq`), because no field that
is checked is one that was written before.
-/

namespace ExecUnit.Instruction

section Sources

def placeDirectInTurn (slot : SourceSlot) (placed : Register) (region : Region)
    (instr : Instruction) : Except Refusal Instruction :=
  let fields := instr.layout.source slot
  match instr.accessMode with
  | .align16 => do
      demand (placed.offset = 0 ∨ placed.offset = 16) (.misalignedSource placed.offset)
      pure (instr
        |> set fields.halfOffset (placed.offset / 16)
        |> set fields.swizzleX (code placed.swizzle.x)
        |> set fields.swizzleY (code placed.swizzle.y)
        |> set fields.swizzleZ (code placed.swizzle.z)
        |> set fields.swizzleW (code placed.swizzle.w)
        |> set fields.vstride (code (Register.align16Stride placed.region.vstride)))
  | .align1 =>
      pure (instr
        |> set fields.byteOffset placed.offset
        |> set fields.hstride (code region.hstride)
        |> set fields.vstride (code region.vstride)
        |> set fields.width (code region.width))

def placeSourceInTurn (slot : SourceSlot) (type : Nat) (placed : Register)
    (instr : Instruction) : Except Refusal Instruction :=
  let fields := instr.layout.source slot
  if placed.isImmediate then
    pure (alignSrc1 slot ⟨code placed.file, type, placed.negate, placed.abs,
      .immediate placed.immediate⟩
      { instr with bits := immediateRange.set placed.immediate.toNat instr.bits })
  else
    let region := placed.sourceRegion instr.executesOneChannel
    match placed.addressing with
    | .direct =>
        instr
          |> set fields.addressMode 0
          |> set fields.number placed.number
          |> placeDirectInTurn slot placed region
    | .indirect address => do
        demand (instr.accessMode = .align1) .indirectSource
        pure (instr
          |> set fields.hstride (code region.hstride)
          |> set fields.vstride (code region.vstride)
          |> set fields.width (code region.width)
          |> set fields.addressMode 1
          |> setAddress (.source slot) address)

def setSourceInTurn (slot : SourceSlot) (register : Register) (instr : Instruction) :
    Except Refusal Instruction := do
  let fields := instr.layout.source slot
  let placed ← register.placed instr.gen
  instr.checkRegion placed
  let instr := instr.set fields.file (code placed.file)
  let type ← placed.typeNumber
  let instr := instr
    |> set fields.type type
    |> set fields.abs placed.abs.toNat
    |> set fields.negate placed.negate.toNat
  instr.checkSlot slot
  instr.placeSourceInTurn slot type placed

variable {slot : SourceSlot} {codes : SourceCodes} {writes : List Assignment}

theorem checked_of_source_writes (instr : Instruction)
    (within : writes.map (·.range) ⊆ (instr.layout.source slot).ranges) :
    accessMode ⟨instr.gen, instr.bits.assign writes⟩ = instr.accessMode ∧
      executesOneChannel ⟨instr.gen, instr.bits.assign writes⟩ = instr.executesOneChannel ∧
      checkSlot slot ⟨instr.gen, instr.bits.assign writes⟩ = instr.checkSlot slot := by
  -- The fields of a source are none of those that its checks look at.
  have inOperands := List.Subset.trans within (List.Subset.trans (List.subset_append_left _ _)
    (instr.layout.source_ranges_subset slot))
  have header := Encoding.agree_assign
    (instr.gen.layoutKind.header_apart_operands.mono (List.Subset.refl _) inOperands) instr.bits
  refine ⟨accessMode_of_agree (header _ instr.layout.header.accessMode_mem_ranges),
    executesOneChannel_of_agree (header _ instr.layout.header.execSize_mem_ranges), ?_⟩
  cases slot with
  | src0 => rfl
  | src1 =>
      -- src1 looks at the file of src0, which is none of its own fields.
      have inSrc1 := List.Subset.trans within (List.subset_append_left _ [immediateRange])
      have file := Encoding.agree_assign
        (instr.gen.layoutKind.src0_apart_src1.mono (List.Subset.refl _) inSrc1) instr.bits _
        instr.layout.src0.file_mem_ranges
      have same : hasImmediateSrc0 ⟨instr.gen, instr.bits.assign writes⟩ =
          instr.hasImmediateSrc0 :=
        congrArg (fun number => decide (number = code RegisterFile.immediate)) file
      rw [checkSlot, checkSlot, same]

def placeWrites (fields : SourceFields) : SourcePlace → List Assignment
  | .immediate value => [⟨immediateRange, value.toNat⟩]
  | .indirect address region =>
      [⟨fields.hstride.toBitRange, region.hstride⟩, ⟨fields.vstride.toBitRange, region.vstride⟩,
        ⟨fields.width.toBitRange, region.width⟩, ⟨fields.addressMode.toBitRange, 1⟩] ++
        fields.address.assignments address
  | .align1 number offset region =>
      [⟨fields.addressMode.toBitRange, 0⟩, ⟨fields.number.toBitRange, number⟩,
        ⟨fields.byteOffset.toBitRange, offset⟩, ⟨fields.hstride.toBitRange, region.hstride⟩,
        ⟨fields.vstride.toBitRange, region.vstride⟩, ⟨fields.width.toBitRange, region.width⟩]
  | .align16 number half vstride swizzle =>
      [⟨fields.addressMode.toBitRange, 0⟩, ⟨fields.number.toBitRange, number⟩,
        ⟨fields.halfOffset.toBitRange, half⟩, ⟨fields.swizzleX.toBitRange, code swizzle.x⟩,
        ⟨fields.swizzleY.toBitRange, code swizzle.y⟩,
        ⟨fields.swizzleZ.toBitRange, code swizzle.z⟩,
        ⟨fields.swizzleW.toBitRange, code swizzle.w⟩, ⟨fields.vstride.toBitRange, vstride⟩]

theorem placeWrites_perm (fields : SourceFields) (place : SourcePlace) :
    (placeWrites fields place).Perm (fields.placeAssignments place) := by
  cases place with
  | immediate value => exact List.Perm.refl _
  | indirect address region =>
      -- The address mode moves to the front, and the horizontal stride behind the width.
      apply List.Perm.append_right
      apply (List.perm_append_singleton _ [_, _, _]).trans
      exact (List.perm_append_singleton _ [_, _]).symm.cons _
  | align1 number offset region =>
      apply List.Perm.append_left [_, _, _]
      exact (List.perm_append_singleton _ [_, _]).symm
  | align16 number half vstride swizzle =>
      apply List.Perm.append_left [_, _, _]
      exact List.perm_append_singleton _ [_, _, _, _]

theorem writeSource_eq_placeWrites {mode : AccessMode} (slot : SourceSlot) (instr : Instruction)
    (register : codes.place.OfRegister mode) :
    instr.writeSource slot codes = ⟨instr.gen,
      (instr.bits.assign ((instr.layout.source slot).commonAssignments codes)).assign
        (placeWrites (instr.layout.source slot) codes.place)⟩ := by
  -- The fields of a place can be written in any order.
  have consistent := SourceFields.consistent_assignments
    (instr.gen.layoutKind.source_separated slot) register
  have order := (placeWrites_perm (instr.layout.source slot) codes.place).symm.append_left
    ((instr.layout.source slot).commonAssignments codes)
  rw [writeSource_eq, Layout.sourceAssignments, Layout.alignAssignments_of_register _ _ register,
    List.append_nil, ← Encoding.assign_append]
  exact congrArg (Instruction.mk instr.gen) (Encoding.assign_perm order consistent instr.bits)

variable {type : Nat} {placed : Register}

/-- What the setters write of a source, with its place left open. -/
def codesAt (type : Nat) (placed : Register) (place : SourcePlace) : SourceCodes :=
  ⟨code placed.file, type, placed.negate, placed.abs, place⟩

def writeCommon (slot : SourceSlot) (type : Nat) (placed : Register) (instr : Instruction) :
    Instruction :=
  let fields := instr.layout.source slot
  instr
    |> set fields.file (code placed.file)
    |> set fields.type type
    |> set fields.abs placed.abs.toNat
    |> set fields.negate placed.negate.toNat

theorem layout_writeCommon (slot : SourceSlot) (type : Nat) (placed : Register)
    (instr : Instruction) : (instr.writeCommon slot type placed).layout = instr.layout :=
  rfl

theorem writeCommon_eq (slot : SourceSlot) (type : Nat) (placed : Register) (place : SourcePlace)
    (instr : Instruction) :
    instr.writeCommon slot type placed = ⟨instr.gen, instr.bits.assign
      ((instr.layout.source slot).commonAssignments (codesAt type placed place))⟩ :=
  rfl

theorem placeSourceInTurn_immediate (slot : SourceSlot) (type : Nat) (instr : Instruction)
    (immediate : placed.isImmediate = true) :
    placeSourceInTurn slot type placed (instr.writeCommon slot type placed) =
      .ok (instr.writeSource slot (codesAt type placed (.immediate placed.immediate))) := by
  unfold placeSourceInTurn
  rw [if_pos immediate]
  rfl

theorem checked_writeCommon (slot : SourceSlot) (type : Nat) (placed : Register)
    (instr : Instruction) :
    (instr.writeCommon slot type placed).accessMode = instr.accessMode ∧
      (instr.writeCommon slot type placed).executesOneChannel = instr.executesOneChannel ∧
      (instr.writeCommon slot type placed).checkSlot slot = instr.checkSlot slot := by
  rw [writeCommon_eq slot type placed (.immediate 0)]
  exact checked_of_source_writes instr ((instr.layout.source slot).commonAssignments_subset _)

-- Direct operands ask for the access mode when their number is already written.
theorem accessMode_writeCommon_number (slot : SourceSlot) (type : Nat) (placed : Register)
    (instr : Instruction) :
    (instr.writeCommon slot type placed
      |> set (instr.layout.source slot).addressMode 0
      |> set (instr.layout.source slot).number placed.number).accessMode = instr.accessMode := by
  let fields := instr.layout.source slot
  let writes : List Assignment := fields.commonAssignments (codesAt type placed (.immediate 0)) ++
    [⟨fields.addressMode.toBitRange, 0⟩, ⟨fields.number.toBitRange, placed.number⟩]
  have within : writes.map (·.range) ⊆ fields.ranges := by
    rw [List.map_append, List.append_subset]
    refine ⟨fields.commonAssignments_subset _, ?_⟩
    simp only [SourceFields.ranges, List.map_cons, List.map_nil, List.cons_subset,
      List.nil_subset, List.mem_append, List.mem_cons, true_or, or_true, and_true]
  exact (checked_of_source_writes instr within).1

theorem placeSourceInTurn_indirect (slot : SourceSlot) (type : Nat) (instr : Instruction)
    {address : Address} (notImmediate : ¬placed.isImmediate = true)
    (indirect : placed.addressing = .indirect address) :
    placeSourceInTurn slot type placed (instr.writeCommon slot type placed) =
      (do
        demand (instr.accessMode = .align1) .indirectSource
        pure (instr.writeSource slot (codesAt type placed
          (.indirect address (placed.sourceRegion instr.executesOneChannel).codes)))) := by
  obtain ⟨mode, channels, -⟩ := checked_writeCommon slot type placed instr
  have register : (codesAt type placed (.indirect address
      (placed.sourceRegion instr.executesOneChannel).codes)).place.OfRegister .align1 :=
    Region.codes_inRoom _
  have written := writeSource_eq_placeWrites slot instr register
  unfold placeSourceInTurn
  rw [if_neg notImmediate, indirect]
  dsimp only
  rw [mode, channels, written, codesAt, placeWrites, Encoding.assign_append,
    ← AddressFields.write_eq_assign]
  rfl

section Direct

variable {region : Region} {instr : Instruction}

theorem placeDirectInTurn_align1 (mode : instr.accessMode = .align1) :
    instr.placeDirectInTurn slot placed region =
      let fields := instr.layout.source slot
      .ok (instr
        |> set fields.byteOffset placed.offset
        |> set fields.hstride (code region.hstride)
        |> set fields.vstride (code region.vstride)
        |> set fields.width (code region.width)) := by
  rw [placeDirectInTurn, mode]
  rfl

theorem placeDirectInTurn_align16 (mode : instr.accessMode = .align16) :
    instr.placeDirectInTurn slot placed region =
      let fields := instr.layout.source slot
      (do
        demand (placed.offset = 0 ∨ placed.offset = 16) (.misalignedSource placed.offset)
        pure (instr
          |> set fields.halfOffset (placed.offset / 16)
          |> set fields.swizzleX (code placed.swizzle.x)
          |> set fields.swizzleY (code placed.swizzle.y)
          |> set fields.swizzleZ (code placed.swizzle.z)
          |> set fields.swizzleW (code placed.swizzle.w)
          |> set fields.vstride (code (Register.align16Stride placed.region.vstride)))) := by
  rw [placeDirectInTurn, mode]

end Direct

theorem placeSourceInTurn_align1 (slot : SourceSlot) (type : Nat) (instr : Instruction)
    (notImmediate : ¬placed.isImmediate = true) (direct : placed.addressing = .direct)
    (mode : instr.accessMode = .align1) :
    placeSourceInTurn slot type placed (instr.writeCommon slot type placed) =
      .ok (instr.writeSource slot (codesAt type placed (.align1 placed.number placed.offset
        (placed.sourceRegion instr.executesOneChannel).codes))) := by
  have channels := (checked_writeCommon slot type placed instr).2.1
  have turned := (accessMode_writeCommon_number slot type placed instr).trans mode
  have register : (codesAt type placed (.align1 placed.number placed.offset
      (placed.sourceRegion instr.executesOneChannel).codes)).place.OfRegister .align1 :=
    ⟨rfl, Region.codes_inRoom _⟩
  unfold placeSourceInTurn
  rw [if_neg notImmediate, direct]
  dsimp only
  rw [layout_writeCommon, placeDirectInTurn_align1 turned, channels,
    writeSource_eq_placeWrites slot instr register]
  rfl

theorem placeSourceInTurn_align16 (slot : SourceSlot) (type : Nat) (instr : Instruction)
    (notImmediate : ¬placed.isImmediate = true) (direct : placed.addressing = .direct)
    (mode : instr.accessMode = .align16) :
    placeSourceInTurn slot type placed (instr.writeCommon slot type placed) =
      (do
        demand (placed.offset = 0 ∨ placed.offset = 16) (.misalignedSource placed.offset)
        pure (instr.writeSource slot (codesAt type placed (.align16 placed.number
          (placed.offset / 16) (code (Register.align16Stride placed.region.vstride))
          placed.swizzle)))) := by
  have turned := (accessMode_writeCommon_number slot type placed instr).trans mode
  have register : (codesAt type placed (.align16 placed.number (placed.offset / 16)
      (code (Register.align16Stride placed.region.vstride)) placed.swizzle)).place.OfRegister
      .align16 :=
    ⟨rfl, VerticalStride.code_lt _⟩
  unfold placeSourceInTurn
  rw [if_neg notImmediate, direct]
  dsimp only
  rw [layout_writeCommon, placeDirectInTurn_align16 turned,
    writeSource_eq_placeWrites slot instr register]
  rfl

theorem placeSourceInTurn_eq (slot : SourceSlot) (type : Nat) (placed : Register)
    (instr : Instruction) :
    placeSourceInTurn slot type placed (instr.writeCommon slot type placed) =
      (do
        let place ← placed.sourcePlace instr.accessMode instr.executesOneChannel
        pure (instr.writeSource slot (codesAt type placed place))) := by
  unfold Register.sourcePlace
  by_cases immediate : placed.isImmediate = true
  · rw [placeSourceInTurn_immediate slot type instr immediate, if_pos immediate]
    rfl
  · rw [if_neg immediate]
    cases addressing : placed.addressing with
    | indirect address =>
        rw [placeSourceInTurn_indirect slot type instr immediate addressing]
        cases instr.accessMode <;> rfl
    | direct =>
        cases mode : instr.accessMode with
        | align1 =>
            rw [placeSourceInTurn_align1 slot type instr immediate addressing mode]
            rfl
        | align16 =>
            rw [placeSourceInTurn_align16 slot type instr immediate addressing mode]
            simp only [bind_assoc, pure_bind]

-- A source is judged the same among its writes as before them.
theorem setSourceInTurn_eq (slot : SourceSlot) (register : Register) (instr : Instruction) :
    instr.setSourceInTurn slot register = instr.setSource slot register := by
  simp only [setSourceInTurn, setSource, judgeSource, bind_assoc, pure_bind]
  apply bind_congr
  intro placed
  apply bind_congr
  intro _
  apply bind_congr
  intro type
  have checked := (checked_writeCommon slot type placed instr).2.2
  have rest := placeSourceInTurn_eq slot type placed instr
  rw [writeCommon] at checked rest
  rw [← checked]
  exact bind_congr fun _ => rest

end Sources

section Destinations

def placeDestinationInTurn (placed : Register) (instr : Instruction) :
    Except Refusal Instruction :=
  let fields := instr.layout.dst
  let hstride := code placed.destinationStride
  match placed.addressing with
  | .direct =>
      let instr := instr |> set fields.addressMode 0 |> set fields.number placed.number
      match instr.accessMode with
      | .align16 => do
          demand (placed.offset = 0 ∨ placed.offset = 16) (.misalignedDestination placed.offset)
          pure (instr
            |> set fields.halfOffset (placed.offset / 16)
            |> set fields.writeMask placed.writeMask.pack)
      | .align1 =>
          pure (instr |> set fields.byteOffset placed.offset |> set fields.hstride hstride)
  | .indirect address => do
      demand (instr.accessMode = .align1) .indirectDestination
      pure (instr
        |> set fields.addressMode 1
        |> set fields.hstride hstride
        |> setAddress .dst address)

def setDestinationInTurn (register : Register) (instr : Instruction) :
    Except Refusal Instruction := do
  let fields := instr.layout.dst
  let placed ← register.placed instr.gen
  let instr := instr.set fields.file (code placed.file)
  let type ← placed.typeNumber
  let instr ← (instr.set fields.type type).placeDestinationInTurn placed
  pure (instr.fitExecSize placed.region.width)

theorem accessMode_of_destination_writes (writes : List Assignment) (instr : Instruction)
    (within : writes.map (·.range) ⊆ instr.layout.dst.ranges) :
    accessMode ⟨instr.gen, instr.bits.assign writes⟩ = instr.accessMode := by
  have inOperands := List.Subset.trans within instr.layout.dst_ranges_subset
  apply accessMode_of_agree
  exact Encoding.agree_assign (instr.gen.layoutKind.header_apart_operands.mono
    (List.Subset.refl _) inOperands) instr.bits _ instr.layout.header.accessMode_mem_ranges

theorem placeDestinationInTurn_eq (type : Nat) (placed : Register) (instr : Instruction) :
    placeDestinationInTurn placed (instr
        |> set instr.layout.dst.file (code placed.file)
        |> set instr.layout.dst.type type) =
      (do
        let place ← placed.destinationPlace instr.accessMode
        pure (instr.writeDestination ⟨code placed.file, type, place⟩)) := by
  let fields := instr.layout.dst
  let writes : List Assignment :=
    [⟨fields.file.toBitRange, code placed.file⟩, ⟨fields.type.toBitRange, type⟩,
      ⟨fields.addressMode.toBitRange, 0⟩, ⟨fields.number.toBitRange, placed.number⟩]
  have within : writes.map (·.range) ⊆ fields.ranges := by
    simp only [writes, DestinationFields.ranges, List.map_cons, List.map_nil, List.cons_subset,
      List.nil_subset, List.mem_append, List.mem_cons, true_or, or_true, and_true]
  -- Indirect destinations ask for the access mode before their place is written, direct ones
  -- when the number is.
  have early : (instr |> set fields.file (code placed.file) |> set fields.type type).accessMode =
      instr.accessMode :=
    accessMode_of_destination_writes (writes.take 2) instr
      (List.Subset.trans (List.map_subset _ (List.take_subset 2 writes)) within)
  have late : (instr |> set fields.file (code placed.file) |> set fields.type type
      |> set fields.addressMode 0 |> set fields.number placed.number).accessMode =
      instr.accessMode :=
    accessMode_of_destination_writes writes instr within
  unfold placeDestinationInTurn Register.destinationPlace
  cases placed.addressing with
  | indirect address =>
      dsimp only
      rw [early]
      cases instr.accessMode <;> rfl
  | direct =>
      dsimp only
      split
      · next wide =>
        rw [late.symm.trans wide]
        simp only [bind_assoc, pure_bind]
        rfl
      · next narrow =>
        rw [late.symm.trans narrow]
        rfl

theorem setDestinationInTurn_eq (register : Register) (instr : Instruction) :
    instr.setDestinationInTurn register = instr.setDestination register := by
  simp only [setDestinationInTurn, setDestination, Register.destinationCodes, bind_assoc, pure_bind]
  apply bind_congr
  intro placed
  apply bind_congr
  intro type
  have rest := placeDestinationInTurn_eq type placed instr
  rw [rest, bind_assoc]
  rfl

end Destinations

end ExecUnit.Instruction
