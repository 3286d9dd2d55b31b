import ExecUnit.Layout.Coverage
import ExecUnit.Operand.Destination
import ExecUnit.Operand.Source
import ExecUnit.Proofs.Assignment

/-!
Which fields of the two layouts overlap, and how much they hold.

Fields of one operand share bits as long as no form of the operand uses both.
So separation is stated form by form, and `Apart` between whole operands.
-/

namespace ExecUnit

def LayoutKind.addressRegisters : LayoutKind → Nat
  | .gen4 => 8
  | .gen8 => 16

namespace AddressFields

def ranges (fields : AddressFields) : List BitRange :=
  fields.subreg.toBitRange :: fields.offset.ranges

-- Offsets have ten bits.
structure Sized (registers : Nat) (fields : AddressFields) : Prop where
  subreg : fields.subreg.capacity = registers
  offset : fields.offset.capacity = 1024

end AddressFields

namespace SourceFields

def commonRanges (fields : SourceFields) : List BitRange :=
  [fields.file.toBitRange, fields.type.toBitRange, fields.abs.toBitRange,
    fields.negate.toBitRange]

def regionRanges (fields : SourceFields) : List BitRange :=
  [fields.vstride.toBitRange, fields.width.toBitRange, fields.hstride.toBitRange]

def indirectRanges (fields : SourceFields) : List BitRange :=
  fields.commonRanges ++ fields.addressMode.toBitRange :: fields.regionRanges ++
    fields.address.ranges

def align1Ranges (fields : SourceFields) : List BitRange :=
  fields.commonRanges ++ [fields.addressMode.toBitRange, fields.number.toBitRange,
    fields.byteOffset.toBitRange] ++ fields.regionRanges

def align16Ranges (fields : SourceFields) : List BitRange :=
  fields.commonRanges ++ [fields.addressMode.toBitRange, fields.number.toBitRange,
    fields.halfOffset.toBitRange, fields.vstride.toBitRange, fields.swizzleX.toBitRange,
    fields.swizzleY.toBitRange, fields.swizzleZ.toBitRange, fields.swizzleW.toBitRange]

/-- Everything that a register in the slot uses. An immediate also takes word 3. -/
def ranges (fields : SourceFields) : List BitRange :=
  fields.address.ranges ++
    [fields.file.toBitRange, fields.type.toBitRange, fields.abs.toBitRange,
      fields.negate.toBitRange, fields.addressMode.toBitRange, fields.number.toBitRange,
      fields.byteOffset.toBitRange, fields.halfOffset.toBitRange, fields.vstride.toBitRange,
      fields.width.toBitRange, fields.hstride.toBitRange, fields.swizzleX.toBitRange,
      fields.swizzleY.toBitRange, fields.swizzleZ.toBitRange, fields.swizzleW.toBitRange]

theorem file_mem_ranges (fields : SourceFields) : fields.file.toBitRange ∈ fields.ranges := by
  simp only [ranges, List.mem_append, List.mem_cons, true_or, or_true]

structure Separated (fields : SourceFields) : Prop where
  indirect : Separate fields.indirectRanges
  align1 : Separate fields.align1Ranges
  align16 : Separate fields.align16Ranges
  immediate : Apart [fields.file.toBitRange, fields.type.toBitRange]
    [fields.abs.toBitRange, fields.negate.toBitRange, immediateRange]

-- Type numbers are below eight, so a type field may be wider than needed.
structure Sized (registers : Nat) (fields : SourceFields) : Prop where
  file : fields.file.capacity = 4
  type : 8 ≤ fields.type.capacity
  number : fields.number.capacity = 256
  byteOffset : fields.byteOffset.capacity = 32
  halfOffset : fields.halfOffset.capacity = 2
  vstride : fields.vstride.capacity = 16
  width : fields.width.capacity = 8
  hstride : fields.hstride.capacity = 4
  swizzleX : fields.swizzleX.capacity = 4
  swizzleY : fields.swizzleY.capacity = 4
  swizzleZ : fields.swizzleZ.capacity = 4
  swizzleW : fields.swizzleW.capacity = 4
  address : fields.address.Sized registers

end SourceFields

namespace DestinationFields

def commonRanges (fields : DestinationFields) : List BitRange :=
  [fields.file.toBitRange, fields.type.toBitRange, fields.addressMode.toBitRange]

def indirectRanges (fields : DestinationFields) : List BitRange :=
  fields.commonRanges ++ fields.hstride.toBitRange :: fields.address.ranges

def align1Ranges (fields : DestinationFields) : List BitRange :=
  fields.commonRanges ++ [fields.number.toBitRange, fields.byteOffset.toBitRange,
    fields.hstride.toBitRange]

def align16Ranges (fields : DestinationFields) : List BitRange :=
  fields.commonRanges ++ [fields.number.toBitRange, fields.halfOffset.toBitRange,
    fields.writeMask.toBitRange]

def ranges (fields : DestinationFields) : List BitRange :=
  fields.address.ranges ++
    [fields.file.toBitRange, fields.type.toBitRange, fields.addressMode.toBitRange,
      fields.number.toBitRange, fields.byteOffset.toBitRange, fields.halfOffset.toBitRange,
      fields.hstride.toBitRange, fields.writeMask.toBitRange]

structure Separated (fields : DestinationFields) : Prop where
  indirect : Separate fields.indirectRanges
  align1 : Separate fields.align1Ranges
  align16 : Separate fields.align16Ranges

structure Sized (registers : Nat) (fields : DestinationFields) : Prop where
  file : fields.file.capacity = 4
  type : 8 ≤ fields.type.capacity
  number : fields.number.capacity = 256
  byteOffset : fields.byteOffset.capacity = 32
  halfOffset : fields.halfOffset.capacity = 2
  hstride : fields.hstride.capacity = 4
  writeMask : fields.writeMask.capacity = 16
  address : fields.address.Sized registers

end DestinationFields

/-- The header, with the flag register of instructions with up to two sources. -/
def HeaderFields.ranges (fields : HeaderFields) : List BitRange :=
  [fields.opcode.toBitRange, fields.accessMode.toBitRange, fields.maskControl.toBitRange,
    fields.dependencyControl.toBitRange, fields.nibbleControl.toBitRange,
    fields.quarterControl.toBitRange, fields.threadControl.toBitRange,
    fields.predicateControl.toBitRange, fields.predicateInverse.toBitRange,
    fields.execSize.toBitRange, fields.modifier.toBitRange, fields.accWriteControl.toBitRange,
    fields.compactControl.toBitRange, fields.debugControl.toBitRange,
    fields.saturate.toBitRange, fields.flag.number.toBitRange, fields.flag.subreg.toBitRange]

/-- The header fields that readers of operands and of the flag register look at. -/
def HeaderFields.steeringRanges (fields : HeaderFields) : List BitRange :=
  [fields.opcode.toBitRange, fields.accessMode.toBitRange, fields.flag.number.toBitRange,
    fields.flag.subreg.toBitRange]

theorem HeaderFields.accessMode_mem_ranges (fields : HeaderFields) :
    fields.accessMode.toBitRange ∈ fields.ranges := by
  simp only [ranges, List.mem_cons, true_or, or_true]

theorem HeaderFields.execSize_mem_ranges (fields : HeaderFields) :
    fields.execSize.toBitRange ∈ fields.ranges := by
  simp only [ranges, List.mem_cons, true_or, or_true]

theorem HeaderFields.accessMode_mem_steeringRanges (fields : HeaderFields) :
    fields.accessMode.toBitRange ∈ fields.steeringRanges :=
  List.mem_cons_of_mem _ List.mem_cons_self

theorem HeaderFields.steeringRanges_subset (fields : HeaderFields) :
    fields.steeringRanges ⊆ fields.ranges := by
  simp only [steeringRanges, ranges, List.cons_subset, List.nil_subset, List.mem_cons, true_or,
    or_true, and_true]

/-- The header fields that decide whether three-source operands are accepted, and where
their flag register is. -/
def HeaderFields.formRanges (fields : HeaderFields) : List BitRange :=
  [fields.opcode.toBitRange, fields.accessMode.toBitRange]

/-- Everything that operands of instructions with up to two sources use. -/
def Layout.operandRanges (layout : Layout) : List BitRange :=
  layout.dst.ranges ++ layout.src0.ranges ++ layout.src1.ranges ++ [immediateRange]

theorem Layout.dst_ranges_subset (layout : Layout) :
    layout.dst.ranges ⊆ layout.operandRanges := by
  intro range member
  simp only [operandRanges, List.mem_append]
  exact Or.inl (Or.inl (Or.inl member))

theorem Layout.source_ranges_subset (layout : Layout) (slot : SourceSlot) :
    (layout.source slot).ranges ++ [immediateRange] ⊆ layout.operandRanges := by
  intro range member
  cases slot with
  | src0 =>
      simp only [source, operandRanges, List.mem_append] at member ⊢
      exact member.imp_left fun inSource => Or.inl (Or.inr inSource)
  | src1 =>
      simp only [source, operandRanges, List.mem_append] at member ⊢
      exact member.imp_left Or.inr

/-- What the operand of a slot may write, as long as src0 is not an immediate and
the destination not narrow. -/
def Layout.slotRanges (layout : Layout) : Slot → List BitRange
  | .dst => layout.dst.ranges
  | .source .src0 => layout.src0.ranges
  | .source .src1 => layout.src1.ranges ++ [immediateRange]

theorem Layout.slotRanges_subset (layout : Layout) (slot : Slot) :
    layout.slotRanges slot ⊆ layout.operandRanges := by
  rcases slot with - | slot
  · exact layout.dst_ranges_subset
  · cases slot with
    | src0 =>
        exact List.Subset.trans (List.subset_append_left _ _) (layout.source_ranges_subset .src0)
    | src1 => exact layout.source_ranges_subset .src1

namespace TripleSourceFields

def ranges (fields : TripleSourceFields) : List BitRange :=
  [fields.number.toBitRange] ++ fields.subreg.ranges ++
    [fields.swizzle.toBitRange, fields.replicate.toBitRange, fields.negate.toBitRange,
      fields.abs.toBitRange]

structure Sized (fields : TripleSourceFields) : Prop where
  number : fields.number.capacity = 256
  subreg : fields.subreg.capacity = 8
  swizzle : fields.swizzle.capacity = 256

end TripleSourceFields

namespace TripleFields

def destinationRanges (fields : TripleFields) : List BitRange :=
  [fields.number.toBitRange, fields.subreg.toBitRange, fields.writeMask.toBitRange]

def ranges (fields : TripleFields) : List BitRange :=
  [fields.flag.number.toBitRange, fields.flag.subreg.toBitRange] ++ fields.destinationRanges ++
    [fields.type.toBitRange] ++ [fields.sourceType.toBitRange] ++
    (List.finRange 3).flatMap fun index => (fields.source index).ranges

structure Sized (fields : TripleFields) : Prop where
  flagNumber : fields.flag.number.capacity = 2
  flagSubreg : fields.flag.subreg.capacity = 2
  number : fields.number.capacity = 256
  subreg : fields.subreg.capacity = 8
  writeMask : fields.writeMask.capacity = 16
  type : 4 ≤ fields.type.capacity
  sourceType : 4 ≤ fields.sourceType.capacity
  source : ∀ index, (fields.source index).Sized

end TripleFields

def MessageFields.descriptorRanges (fields : MessageFields) : List BitRange :=
  [fields.sfid.toBitRange, fields.length.toBitRange, fields.responseLength.toBitRange,
    fields.eot.toBitRange] ++ fields.headerPresent.toList.map (·.toBitRange)

namespace LayoutKind

theorem source_separated (kind : LayoutKind) (slot : SourceSlot) :
    (kind.layout.source slot).Separated := by
  cases kind <;> cases slot <;> constructor <;> decide

theorem source_sized (kind : LayoutKind) (slot : SourceSlot) :
    (kind.layout.source slot).Sized kind.addressRegisters := by
  have address : (kind.layout.source slot).address.Sized kind.addressRegisters := by
    cases kind <;> cases slot <;> constructor <;> decide
  cases kind <;> cases slot <;> constructor <;> first | exact address | decide

theorem dst_separated (kind : LayoutKind) : kind.layout.dst.Separated := by
  cases kind <;> constructor <;> decide

theorem dst_sized (kind : LayoutKind) :
    kind.layout.dst.Sized kind.addressRegisters := by
  have address : kind.layout.dst.address.Sized kind.addressRegisters := by
    cases kind <;> constructor <;> decide
  cases kind <;> constructor <;> first | exact address | decide

theorem header_apart_operands (kind : LayoutKind) :
    Apart kind.layout.header.ranges kind.layout.operandRanges := by
  cases kind <;> decide

-- A narrow destination also writes the execution size.
theorem steering_apart_dst (kind : LayoutKind) :
    Apart kind.layout.header.steeringRanges
      (kind.layout.header.execSize.toBitRange :: kind.layout.dst.ranges) := by
  cases kind <;> decide

theorem steering_apart_source (kind : LayoutKind) (slot : SourceSlot) :
    Apart kind.layout.header.steeringRanges
      ((kind.layout.source slot).ranges ++ [immediateRange]) :=
  kind.header_apart_operands.mono kind.layout.header.steeringRanges_subset
    (kind.layout.source_ranges_subset slot)

theorem dst_apart_source (kind : LayoutKind) (slot : SourceSlot) :
    Apart (kind.layout.header.execSize.toBitRange :: kind.layout.dst.ranges)
      ((kind.layout.source slot).ranges ++ [immediateRange]) := by
  cases kind <;> cases slot <;> decide

-- Word 3 belongs to src1, and to immediates in either slot.
theorem src0_apart_src1 (kind : LayoutKind) :
    Apart kind.layout.src0.ranges (kind.layout.src1.ranges ++ [immediateRange]) := by
  cases kind <;> decide

theorem slots_apart (kind : LayoutKind) {slot slot' : Slot} (different : slot ≠ slot') :
    Apart (kind.layout.slotRanges slot) (kind.layout.slotRanges slot') := by
  have dst : ∀ source, Apart kind.layout.dst.ranges (kind.layout.slotRanges (.source source)) := by
    intro source
    cases kind <;> cases source <;> decide
  rcases slot with - | slot <;> rcases slot' with - | slot'
  · exact absurd rfl different
  · exact dst slot'
  · exact (dst slot).symm
  · cases slot <;> cases slot'
    · exact absurd rfl different
    · exact kind.src0_apart_src1
    · exact kind.src0_apart_src1.symm
    · exact absurd rfl different

-- The type of src1 is apart from src0 even where an immediate src0 takes word 3.
theorem src0_apart_src1_type (kind : LayoutKind) :
    Apart (kind.layout.src0.ranges ++ [immediateRange])
      [kind.layout.src1.file.toBitRange, kind.layout.src1.type.toBitRange] := by
  cases kind <;> decide

theorem triple_separated (kind : LayoutKind) : Separate kind.layout.triple.ranges := by
  cases kind <;> decide

theorem triple_sized (kind : LayoutKind) : kind.layout.triple.Sized := by
  have source : ∀ index, (kind.layout.triple.source index).Sized := by
    intro index
    cases kind <;> match index with
      | 0 | 1 | 2 => constructor <;> decide
  cases kind <;> constructor <;> first | exact source | decide

theorem form_apart_triple (kind : LayoutKind) :
    Apart kind.layout.header.formRanges kind.layout.triple.ranges := by
  cases kind <;> decide

end LayoutKind

def Generation.descriptorOutside (gen : Generation) : List BitRange :=
  [gen.layout.src1.file.toBitRange, gen.layout.src1.type.toBitRange,
    gen.messageFields.sfid.toBitRange]

theorem Generation.descriptor_separate (gen : Generation) :
    Separate gen.messageFields.descriptorRanges := by
  cases gen <;> decide

theorem Generation.descriptor_sized (gen : Generation) :
    gen.messageFields.sfid.capacity = 16 ∧ gen.messageFields.length.capacity = 16 ∧
      gen.messageFields.responseLength.capacity = (if gen = .gen4 then 16 else 32) ∧
      gen.messageFields.headerPresent.isSome = decide (gen ≠ .gen4) := by
  cases gen <;> decide

-- The sign bits of src1 and all of the descriptor but the shared function lie in word 3.
theorem Generation.descriptor_inside (gen : Generation) :
    ∀ range ∈ gen.layout.src1.abs.toBitRange :: gen.layout.src1.negate.toBitRange ::
      gen.messageFields.descriptorRanges,
        range ∈ gen.descriptorOutside ∨ immediateRange.low ≤ range.low := by
  cases gen <;> decide

-- Only from Gen6 on does a descriptor reach into the header.
theorem Generation.descriptorOutside_past_header (gen : Generation) (early : gen.number < 6) :
    ∀ range ∈ gen.descriptorOutside, 32 ≤ range.low := by
  cases gen <;> first | decide | exact absurd early (by decide)

theorem Generation.accessMode_apart_descriptor (gen : Generation) :
    Apart [gen.layout.header.accessMode.toBitRange] gen.messageFields.descriptorRanges := by
  cases gen <;> decide

theorem Generation.descriptor_apart (gen : Generation) :
    Apart gen.messageFields.descriptorRanges
      (gen.layout.header.execSize.toBitRange :: gen.layout.dst.ranges ++
        gen.layout.src0.ranges) := by
  cases gen <;> decide

end ExecUnit
