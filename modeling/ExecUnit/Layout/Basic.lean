import ExecUnit.Field

/-!
What a layout is: the place of every part of an instruction. Encoding and
decoding are written once over these records.
-/

namespace ExecUnit

structure AddressFields where
  subreg : Field
  offset : SplitField

/-- `byteOffset` is the sub-register of Align1 operands; Align16 ones have the
single bit `halfOffset`. -/
structure SourceFields where
  file : Field
  type : Field
  addressMode : Field
  number : Field
  byteOffset : Field
  halfOffset : Field
  hstride : Field
  width : Field
  vstride : Field
  abs : Field
  negate : Field
  swizzleX : Field
  swizzleY : Field
  swizzleZ : Field
  swizzleW : Field
  address : AddressFields

structure DestinationFields where
  file : Field
  type : Field
  addressMode : Field
  number : Field
  byteOffset : Field
  halfOffset : Field
  hstride : Field
  writeMask : Field
  address : AddressFields

structure FlagFields where
  number : Field
  subreg : Field

/-- `modifier` is shared by the conditional modifier, the math function and
the shared function ID. -/
structure HeaderFields where
  opcode : Field
  accessMode : Field
  maskControl : Field
  dependencyControl : Field
  nibbleControl : Field
  quarterControl : Field
  threadControl : Field
  predicateControl : Field
  predicateInverse : Field
  execSize : Field
  modifier : Field
  accWriteControl : Field
  compactControl : Field
  debugControl : Field
  saturate : Field
  flag : FlagFields

/-- One source of a three-source instruction; `subreg` counts dwords. -/
structure TripleSourceFields where
  replicate : Field
  swizzle : Field
  subreg : SplitField
  number : Field
  abs : Field
  negate : Field

/-- The operands of three-source instructions, which may keep their flag
register elsewhere. -/
structure TripleFields where
  flag : FlagFields
  number : Field
  subreg : Field
  writeMask : Field
  type : Field
  sourceType : Field
  src0 : TripleSourceFields
  src1 : TripleSourceFields
  src2 : TripleSourceFields

structure Layout where
  title : String
  header : HeaderFields
  dst : DestinationFields
  src0 : SourceFields
  src1 : SourceFields
  triple : TripleFields

/-- An immediate takes the whole of word 3 in every layout. -/
def immediateRange : BitRange :=
  .span 127 96

inductive SourceSlot where
  | src0 | src1
  deriving DecidableEq, Repr

inductive Slot where
  | dst
  | source (slot : SourceSlot)
  deriving DecidableEq, Repr

namespace Layout

def source (layout : Layout) : SourceSlot → SourceFields
  | .src0 => layout.src0
  | .src1 => layout.src1

def address (layout : Layout) : Slot → AddressFields
  | .dst => layout.dst.address
  | .source slot => (layout.source slot).address

end Layout

namespace TripleFields

def source (triple : TripleFields) : Fin 3 → TripleSourceFields
  | 0 => triple.src0
  | 1 => triple.src1
  | 2 => triple.src2

end TripleFields

end ExecUnit
