import ExecUnit.Instruction.Header
import ExecUnit.Operand.Destination
import ExecUnit.Operand.Source
import ExecUnit.Operand.Triple

/-!
Reading and writing the operands of an instruction.

A setter first judges the operand against the instruction as it is, and then
writes. Judging the operand comes in a fixed order: its number, its region, its
type, and last the form that the access mode allows.
-/

namespace ExecUnit.Instruction

def sourceCodes (slot : SourceSlot) (instr : Instruction) : SourceCodes :=
  (instr.layout.source slot).read instr.accessMode instr.bits

def source (slot : SourceSlot) (instr : Instruction) : Except DecodeFault Register :=
  (instr.layout.source slot).decode (instr.sourceCodes slot)

def src0 (instr : Instruction) : Except DecodeFault Register :=
  instr.source .src0

def src1 (instr : Instruction) : Except DecodeFault Register :=
  instr.source .src1

def destinationCodes (instr : Instruction) : DestinationCodes :=
  instr.layout.dst.read instr.accessMode instr.bits

def destination (instr : Instruction) : Except DecodeFault Register :=
  instr.layout.dst.decode instr.destinationCodes

/-- The register-indirect reading of a slot, whatever its address mode. -/
def address (slot : Slot) (instr : Instruction) : Address :=
  (instr.layout.address slot).read instr.bits

def setAddress (slot : Slot) (address : Address) (instr : Instruction) : Instruction :=
  { instr with bits := (instr.layout.address slot).write address instr.bits }

def knownExecSize (instr : Instruction) : Except Refusal ExecSize :=
  let number := instr.get instr.layout.header.execSize
  orRefuse (.reservedExecSize number) (Coded.ofCode? number)

/-- Refuses a region that breaks the restrictions of the execution size.
Immediates and architecture registers are not judged. -/
def checkRegion (register : Register) (instr : Instruction) : Except Refusal Unit :=
  match register.file with
  | .immediate | .architecture => .ok ()
  | .general | .message => do
      let execSize ← instr.knownExecSize
      match register.region.fault? execSize with
      | none => pure ()
      | some fault => .error (.badRegion register.region execSize fault)

def executesOneChannel (instr : Instruction) : Bool :=
  instr.get instr.layout.header.execSize = code ExecSize.e1

def hasImmediateSrc0 (instr : Instruction) : Bool :=
  instr.get instr.layout.src0.file = code RegisterFile.immediate

-- Once src0 is an immediate it takes the room of src1.
def checkSlot (slot : SourceSlot) (instr : Instruction) : Except Refusal Unit :=
  match slot with
  | .src0 => .ok ()
  | .src1 => demand (instr.hasImmediateSrc0 = false) .secondImmediate

def judgeSource (slot : SourceSlot) (register : Register) (instr : Instruction) :
    Except Refusal SourceCodes := do
  let placed ← register.placed instr.gen
  instr.checkRegion placed
  let type ← placed.typeNumber
  instr.checkSlot slot
  let place ← placed.sourcePlace instr.accessMode instr.executesOneChannel
  pure ⟨code placed.file, type, placed.negate, placed.abs, place⟩

-- An immediate src0 takes the room of src1, which has to agree on the type.
def alignSrc1 (slot : SourceSlot) (codes : SourceCodes) (instr : Instruction) : Instruction :=
  match slot, codes.place with
  | .src0, .immediate _ =>
      instr
        |> set instr.layout.src1.file (code RegisterFile.architecture)
        |> set instr.layout.src1.type codes.type
  | _, _ => instr

def writeSource (slot : SourceSlot) (codes : SourceCodes) (instr : Instruction) : Instruction :=
  alignSrc1 slot codes
    { instr with bits := (instr.layout.source slot).write codes instr.bits }

def setSource (slot : SourceSlot) (register : Register) (instr : Instruction) :
    Except Refusal Instruction := do
  let codes ← instr.judgeSource slot register
  pure (instr.writeSource slot codes)

def setSrc0 (register : Register) (instr : Instruction) : Except Refusal Instruction :=
  instr.setSource .src0 register

def setSrc1 (register : Register) (instr : Instruction) : Except Refusal Instruction :=
  instr.setSource .src1 register

/-- A destination narrower than eight elements sets the execution size to its
width. -/
def fitExecSize (width : Width) (instr : Instruction) : Instruction :=
  if code width < code ExecSize.e8 then
    instr.set instr.layout.header.execSize (code width)
  else instr

def writeDestination (codes : DestinationCodes) (instr : Instruction) : Instruction :=
  { instr with bits := instr.layout.dst.write codes instr.bits }

def setDestination (register : Register) (instr : Instruction) : Except Refusal Instruction := do
  let placed ← register.placed instr.gen
  let codes ← placed.destinationCodes instr.accessMode
  pure ((instr.writeDestination codes).fitExecSize placed.region.width)

/-- The type that a field of a three-source instruction stands for; before the
fields existed all operands were floats. -/
def tripleType (field : Field) (instr : Instruction) : Except DecodeFault DataType :=
  if instr.gen.hasThreeSourceTypes then
    orFault field (instr.get field) (DataType.ofThreeSourceCode? (instr.get field))
  else .ok .f

def tripleSourceCodes (index : Fin 3) (instr : Instruction) : TripleSourceCodes :=
  (instr.layout.triple.source index).read instr.bits

def tripleSource (index : Fin 3) (instr : Instruction) : Except DecodeFault Register := do
  let type ← instr.tripleType instr.layout.triple.sourceType
  pure ((instr.tripleSourceCodes index).decode type)

def tripleDestination (instr : Instruction) : Except DecodeFault Register := do
  let type ← instr.tripleType instr.layout.triple.type
  pure ((instr.layout.triple.readDestination instr.bits).decode type)

def sourceIndex (index : Nat) : Except Refusal (Fin 3) :=
  if inside : index < 3 then .ok ⟨index, inside⟩ else .error (.noSuchSource index)

def checkTriple (register : Register) (instr : Instruction) : Except Refusal Unit := do
  demand instr.gen.hasThreeSource (.noThreeSource instr.gen)
  demand (instr.accessMode = .align16) .threeSourceAlign1
  demand (register.file = .general) .threeSourceFile
  demand (register.addressing = .direct) .threeSourceIndirect
  demand (register.offset % 4 = 0) (.threeSourceOffset register.offset)

def setTripleType (field : Field) (type : DataType) (instr : Instruction) :
    Except Refusal Instruction :=
  if instr.gen.hasThreeSourceTypes then do
    let number ← orRefuse (.typeNotThreeSource type) type.threeSourceCode?
    pure (instr.set field number)
  else do
    demand (type = .f) (.threeSourceFloatOnly instr.gen)
    pure instr

def setTripleDestination (register : Register) (instr : Instruction) :
    Except Refusal Instruction := do
  let placed ← register.placed instr.gen
  instr.checkTriple placed
  setTripleType instr.layout.triple.type placed.type
    { instr with
      bits := instr.layout.triple.writeDestination placed.tripleDestinationCodes instr.bits }

-- All sources share the type field, so the last one decides it.
def setTripleSource (index : Nat) (register : Register) (instr : Instruction) :
    Except Refusal Instruction := do
  let placed ← register.placed instr.gen
  instr.checkTriple placed
  let index ← sourceIndex index
  setTripleType instr.layout.triple.sourceType placed.type
    { instr with
      bits := (instr.layout.triple.source index).write placed.tripleSourceCodes instr.bits }

end ExecUnit.Instruction
