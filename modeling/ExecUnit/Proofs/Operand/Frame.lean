import ExecUnit.Instruction.Messages
import ExecUnit.Proofs.Operand.DestinationCodes
import ExecUnit.Proofs.Operand.SourceCodes

/-!
What the readers of an instruction look at, and what its operand setters touch.
Two instructions of one generation that agree on the ranges of a reader are the
same to it.
-/

namespace ExecUnit

open Encoding (Agree)

namespace Encoding.Agree

theorem mono {ranges ranges' : List BitRange} {left right : Encoding}
    (agree : Agree ranges left right) (fewer : ranges' ⊆ ranges) : Agree ranges' left right :=
  fun range member => agree range (fewer member)

@[simp]
theorem cons_iff (range : BitRange) (rest : List BitRange) (left right : Encoding) :
    Agree (range :: rest) left right ↔ range.get left = range.get right ∧ Agree rest left right :=
  List.forall_mem_cons

@[simp]
theorem append_iff (first second : List BitRange) (left right : Encoding) :
    Agree (first ++ second) left right ↔ Agree first left right ∧ Agree second left right :=
  List.forall_mem_append

end Encoding.Agree

theorem BitRange.getSigned_of_get {range : BitRange} {left right : Encoding}
    (same : range.get left = range.get right) : range.getSigned left = range.getSigned right :=
  congrArg BitVec.toInt (BitVec.eq_of_toNat_eq same)

theorem SplitField.getParts_of_agree (parts : List Field) {left right : Encoding}
    (agree : Agree (parts.map (·.toBitRange)) left right) :
    getParts parts left = getParts parts right := by
  induction parts with
  | nil => rfl
  | cons part rest ih =>
      obtain ⟨head, tail⟩ := (Agree.cons_iff _ _ _ _).mp agree
      rw [getParts, getParts, head, ih tail]

theorem AddressFields.read_of_agree (fields : AddressFields) {left right : Encoding}
    (agree : Agree fields.ranges left right) : fields.read left = fields.read right := by
  obtain ⟨subreg, offset⟩ := (Agree.cons_iff _ _ _ _).mp agree
  have whole : fields.offset.get left = fields.offset.get right :=
    SplitField.getParts_of_agree fields.offset.parts offset
  rw [read, read, SplitField.getSigned, SplitField.getSigned, subreg, whole]

theorem SourceFields.read_of_agree (fields : SourceFields) (mode : AccessMode)
    {left right : Encoding} (agree : Agree fields.ranges left right)
    (value : fields.file.get right = code RegisterFile.immediate →
      immediateRange.get left = immediateRange.get right) :
    fields.read mode left = fields.read mode right := by
  simp only [ranges, Agree.append_iff, Agree.cons_iff] at agree
  obtain ⟨address, file, type, abs, negate, addressMode, number, byteOffset, halfOffset, vstride,
    width, hstride, swizzleX, swizzleY, swizzleZ, swizzleW, -⟩ := agree
  have place : fields.readPlace mode left = fields.readPlace mode right := by
    unfold readPlace readRegion readSwizzle
    rw [file, addressMode, number, byteOffset, halfOffset, vstride, width, hstride, swizzleX,
      swizzleY, swizzleZ, swizzleW, fields.address.read_of_agree address]
    -- The value is only read, and only has to agree, once the file is that of immediates.
    split
    · next immediate => rw [value immediate]
    · rfl
  rw [read, read, place, file, type, abs, negate]

theorem DestinationFields.read_of_agree (fields : DestinationFields) (mode : AccessMode)
    {left right : Encoding} (agree : Agree fields.ranges left right) :
    fields.read mode left = fields.read mode right := by
  simp only [ranges, Agree.append_iff, Agree.cons_iff] at agree
  obtain ⟨address, file, type, addressMode, number, byteOffset, halfOffset, hstride, writeMask,
    -⟩ := agree
  have place : fields.readPlace mode left = fields.readPlace mode right := by
    unfold readPlace
    rw [addressMode, number, byteOffset, halfOffset, hstride, writeMask,
      fields.address.read_of_agree address]
  rw [read, read, place, file, type]

section Writes

namespace Layout

-- An immediate src0 also types src1.
def alignAssignments (layout : Layout) (slot : SourceSlot) (codes : SourceCodes) :
    List Assignment :=
  match slot, codes.place with
  | .src0, .immediate _ =>
      layout.src1.typeAssignments (code RegisterFile.architecture) codes.type
  | _, _ => []

def sourceAssignments (layout : Layout) (slot : SourceSlot) (codes : SourceCodes) :
    List Assignment :=
  (layout.source slot).assignments codes ++ layout.alignAssignments slot codes

-- A narrow destination also sets the execution size.
def sizeAssignments (layout : Layout) (width : Width) : List Assignment :=
  if code width < code ExecSize.e8 then [⟨layout.header.execSize.toBitRange, code width⟩] else []

def destinationAssignments (layout : Layout) (codes : DestinationCodes) (width : Width) :
    List Assignment :=
  layout.dst.assignments codes ++ layout.sizeAssignments width

theorem alignAssignments_subset (layout : Layout) (slot : SourceSlot) (codes : SourceCodes) :
    (layout.alignAssignments slot codes).map (·.range) ⊆
      [layout.src1.file.toBitRange, layout.src1.type.toBitRange] := by
  unfold alignAssignments
  split
  · exact List.Subset.refl _
  · exact List.nil_subset _

theorem alignAssignments_of_register (layout : Layout) (slot : SourceSlot) {mode : AccessMode}
    {codes : SourceCodes} (register : codes.place.OfRegister mode) :
    layout.alignAssignments slot codes = [] := by
  unfold alignAssignments
  split
  · next place => exact (place ▸ register).elim
  · rfl

theorem alignAssignments_subset_src1 (layout : Layout) (slot : SourceSlot)
    (codes : SourceCodes) :
    (layout.alignAssignments slot codes).map (·.range) ⊆ layout.src1.ranges ++ [immediateRange] := by
  apply List.Subset.trans (layout.alignAssignments_subset slot codes)
  simp only [SourceFields.ranges, List.cons_subset, List.nil_subset, List.mem_append,
    List.mem_cons, true_or, or_true, and_true]

theorem sourceAssignments_subset (layout : Layout) (slot : SourceSlot) (codes : SourceCodes) :
    (layout.sourceAssignments slot codes).map (·.range) ⊆ layout.operandRanges := by
  rw [sourceAssignments, List.map_append, List.append_subset]
  constructor
  · exact List.Subset.trans ((layout.source slot).assignments_subset codes)
      (layout.source_ranges_subset slot)
  · exact List.Subset.trans (layout.alignAssignments_subset_src1 slot codes)
      (layout.source_ranges_subset .src1)

theorem sourceAssignments_subset_of_register (layout : Layout) (slot : SourceSlot)
    {mode : AccessMode} {codes : SourceCodes} (register : codes.place.OfRegister mode) :
    (layout.sourceAssignments slot codes).map (·.range) ⊆ (layout.source slot).ranges := by
  rw [sourceAssignments, layout.alignAssignments_of_register slot register, List.append_nil]
  exact (layout.source slot).assignments_subset_of_register register

theorem src1Assignments_subset (layout : Layout) (codes : SourceCodes) :
    (layout.sourceAssignments .src1 codes).map (·.range) ⊆
      layout.src1.ranges ++ [immediateRange] := by
  have unaligned : layout.alignAssignments .src1 codes = [] := rfl
  rw [sourceAssignments, unaligned, List.append_nil]
  exact layout.src1.assignments_subset codes

theorem sizeAssignments_subset (layout : Layout) (width : Width) :
    (layout.sizeAssignments width).map (·.range) ⊆ [layout.header.execSize.toBitRange] := by
  unfold sizeAssignments
  split
  · exact List.Subset.refl _
  · exact List.nil_subset _

theorem destinationAssignments_subset_of_wide (layout : Layout) (codes : DestinationCodes)
    {width : Width} (wide : 8 ≤ width.elements) :
    (layout.destinationAssignments codes width).map (·.range) ⊆ layout.dst.ranges := by
  have unsized : layout.sizeAssignments width = [] := by
    cases width <;> first | rfl | exact absurd wide (by decide)
  rw [destinationAssignments, unsized, List.append_nil]
  exact layout.dst.assignments_subset codes

theorem destinationAssignments_subset (layout : Layout) (codes : DestinationCodes)
    (width : Width) :
    (layout.destinationAssignments codes width).map (·.range) ⊆
      layout.header.execSize.toBitRange :: layout.dst.ranges := by
  rw [destinationAssignments, List.map_append, List.append_subset]
  constructor
  · exact List.Subset.trans (layout.dst.assignments_subset codes) (List.subset_cons_self _ _)
  · exact List.Subset.trans (layout.sizeAssignments_subset width)
      (List.cons_subset_cons _ (List.nil_subset _))

end Layout

namespace LayoutKind

theorem header_agree_source (kind : LayoutKind) (slot : SourceSlot) (codes : SourceCodes)
    (bits : Encoding) :
    Agree kind.layout.header.ranges (bits.assign (kind.layout.sourceAssignments slot codes))
      bits :=
  Encoding.agree_assign (kind.header_apart_operands.mono (List.Subset.refl _)
    (kind.layout.sourceAssignments_subset slot codes)) bits

theorem source_agree_align (kind : LayoutKind) (slot : SourceSlot) (codes : SourceCodes)
    (bits : Encoding) :
    Agree ((kind.layout.source slot).ranges ++ [immediateRange])
      (bits.assign (kind.layout.alignAssignments slot codes)) bits := by
  cases slot with
  | src0 =>
      exact Encoding.agree_assign (kind.src0_apart_src1_type.mono (List.Subset.refl _)
        (kind.layout.alignAssignments_subset .src0 codes)) bits
  | src1 => exact fun range _ => rfl

-- Sources leave the destination alone, also where an immediate src0 types src1.
theorem dst_agree_source (kind : LayoutKind) (slot : SourceSlot) (codes : SourceCodes)
    (bits : Encoding) :
    Agree kind.layout.dst.ranges (bits.assign (kind.layout.sourceAssignments slot codes))
      bits := by
  have inDst := List.subset_cons_self kind.layout.header.execSize.toBitRange
    kind.layout.dst.ranges
  have ownWrites := (kind.dst_apart_source slot).mono inDst
    ((kind.layout.source slot).assignments_subset codes)
  have typeWrites := (kind.dst_apart_source .src1).mono inDst
    (kind.layout.alignAssignments_subset_src1 slot codes)
  rw [Layout.sourceAssignments, Encoding.assign_append]
  exact fun range member => (Encoding.agree_assign typeWrites _ range member).trans
    (Encoding.agree_assign ownWrites bits range member)

theorem dst_agree_size (kind : LayoutKind) (width : Width) (bits : Encoding) :
    Agree kind.layout.dst.ranges (bits.assign (kind.layout.sizeAssignments width)) bits := by
  have execSize : [kind.layout.header.execSize.toBitRange] ⊆ kind.layout.header.ranges :=
    List.cons_subset.mpr ⟨kind.layout.header.execSize_mem_ranges, List.nil_subset _⟩
  have apart := kind.header_apart_operands.mono
    (List.Subset.trans (kind.layout.sizeAssignments_subset width) execSize)
    kind.layout.dst_ranges_subset
  exact Encoding.agree_assign apart.symm bits

theorem header_agree_destination (kind : LayoutKind) (codes : DestinationCodes) (width : Width)
    (bits : Encoding) :
    Agree kind.layout.header.steeringRanges
      (bits.assign (kind.layout.destinationAssignments codes width)) bits :=
  Encoding.agree_assign (kind.steering_apart_dst.mono (List.Subset.refl _)
    (kind.layout.destinationAssignments_subset codes width)) bits

end LayoutKind

namespace Instruction

theorem writeSource_eq (slot : SourceSlot) (codes : SourceCodes) (instr : Instruction) :
    instr.writeSource slot codes =
      ⟨instr.gen, instr.bits.assign (instr.layout.sourceAssignments slot codes)⟩ := by
  rw [writeSource, SourceFields.write_eq_assign, Layout.sourceAssignments,
    Encoding.assign_append]
  cases slot <;> cases place : codes.place <;>
    simp only [alignSrc1, Layout.alignAssignments, place] <;> rfl

theorem writeDestination_fitExecSize_eq (codes : DestinationCodes) (width : Width)
    (instr : Instruction) :
    (instr.writeDestination codes).fitExecSize width =
      ⟨instr.gen, instr.bits.assign (instr.layout.destinationAssignments codes width)⟩ := by
  rw [writeDestination, DestinationFields.write_eq_assign, Layout.destinationAssignments,
    Encoding.assign_append, fitExecSize, Layout.sizeAssignments]
  split <;> rfl

end Instruction

end Writes

section Readers

namespace Instruction

variable {gen : Generation} {left right : Encoding}

theorem isSet_of_agree {field : Field} (agree : field.get left = field.get right) :
    isSet field ⟨gen, left⟩ = isSet field ⟨gen, right⟩ :=
  congrArg (fun number => decide (number ≠ 0)) agree

theorem accessMode_of_agree
    (agree : gen.layout.header.accessMode.get left = gen.layout.header.accessMode.get right) :
    accessMode ⟨gen, left⟩ = accessMode ⟨gen, right⟩ :=
  congrArg (if · = 0 then AccessMode.align1 else .align16) agree

theorem executesOneChannel_of_agree
    (agree : gen.layout.header.execSize.get left = gen.layout.header.execSize.get right) :
    executesOneChannel ⟨gen, left⟩ = executesOneChannel ⟨gen, right⟩ :=
  congrArg (fun number => decide (number = code ExecSize.e1)) agree

theorem source_of_agree (slot : SourceSlot)
    (mode : gen.layout.header.accessMode.get left = gen.layout.header.accessMode.get right)
    (agree : Agree (gen.layout.source slot).ranges left right)
    (value : (gen.layout.source slot).file.get right = code RegisterFile.immediate →
      immediateRange.get left = immediateRange.get right) :
    source slot ⟨gen, left⟩ = source slot ⟨gen, right⟩ := by
  rw [source, source, sourceCodes, sourceCodes, accessMode_of_agree mode]
  exact congrArg _ ((gen.layout.source slot).read_of_agree _ agree value)

theorem destination_of_agree
    (mode : gen.layout.header.accessMode.get left = gen.layout.header.accessMode.get right)
    (agree : Agree gen.layout.dst.ranges left right) :
    destination ⟨gen, left⟩ = destination ⟨gen, right⟩ := by
  rw [destination, destination, destinationCodes, destinationCodes, accessMode_of_agree mode]
  exact congrArg _ (gen.layout.dst.read_of_agree _ agree)

theorem isThreeSource_of_agree
    (opcode : gen.layout.header.opcode.get left = gen.layout.header.opcode.get right) :
    isThreeSource ⟨gen, left⟩ = isThreeSource ⟨gen, right⟩ := by
  have same : opcode? ⟨gen, left⟩ = opcode? ⟨gen, right⟩ := congrArg Coded.ofCode? opcode
  rw [isThreeSource, isThreeSource, same]

theorem flagRegister_of_agree (twoSource : isThreeSource ⟨gen, right⟩ = false)
    (agree : Agree gen.layout.header.steeringRanges left right) :
    flagRegister ⟨gen, left⟩ = flagRegister ⟨gen, right⟩ := by
  -- For instructions with up to two sources the header says it all.
  simp only [HeaderFields.steeringRanges, Agree.cons_iff] at agree
  obtain ⟨opcode, -, number, subreg, -⟩ := agree
  have twoSource' := (isThreeSource_of_agree opcode).trans twoSource
  simp only [flagRegister, flagFields, twoSource, twoSource', Bool.false_eq_true, ↓reduceIte]
  exact congr (congrArg Prod.mk number) subreg

theorem messageDescriptor_of_agree
    (agree : Agree gen.messageFields.descriptorRanges left right) :
    messageDescriptor ⟨gen, left⟩ = messageDescriptor ⟨gen, right⟩ := by
  simp only [MessageFields.descriptorRanges, Agree.append_iff, Agree.cons_iff] at agree
  obtain ⟨⟨atSfid, atLength, atResponse, atEot, -⟩, atHeader⟩ := agree
  have sfid : get gen.messageFields.sfid ⟨gen, left⟩ = get gen.messageFields.sfid ⟨gen, right⟩ :=
    atSfid
  have length : get gen.messageFields.length ⟨gen, left⟩ =
      get gen.messageFields.length ⟨gen, right⟩ := atLength
  have response : get gen.messageFields.responseLength ⟨gen, left⟩ =
      get gen.messageFields.responseLength ⟨gen, right⟩ := atResponse
  have eot : isSet gen.messageFields.eot ⟨gen, left⟩ =
      isSet gen.messageFields.eot ⟨gen, right⟩ := isSet_of_agree atEot
  -- Not every generation says whether there is a header.
  have header : gen.messageFields.headerPresent.any (isSet · ⟨gen, left⟩) =
      gen.messageFields.headerPresent.any (isSet · ⟨gen, right⟩) := by
    cases present : gen.messageFields.headerPresent with
    | none => rfl
    | some field =>
        rw [present] at atHeader
        exact isSet_of_agree (atHeader field.toBitRange List.mem_cons_self)
  unfold messageDescriptor
  dsimp only
  rw [sfid, length, response, eot, header]

end Instruction

end Readers

end ExecUnit
