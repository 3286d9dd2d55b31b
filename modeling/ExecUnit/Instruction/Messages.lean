import ExecUnit.Instruction.Operands

/-!
Messages of SEND instructions. Every message starts with its descriptor, which
is written as a zero immediate in src1 and so clears the bits that belong to
the particular kind of message.
-/

namespace ExecUnit.Instruction

def messageDescriptor (instr : Instruction) : Except DecodeFault MessageDescriptor := do
  let fields := instr.gen.messageFields
  let sfid ← decodeCode fields.sfid (instr.get fields.sfid)
  pure {
    sfid
    length := instr.get fields.length
    responseLength := instr.get fields.responseLength
    headerPresent := fields.headerPresent.any instr.isSet
    endOfThread := instr.isSet fields.eot }

def writeDescriptor (descriptor : MessageDescriptor) (instr : Instruction) : Instruction :=
  let fields := instr.gen.messageFields
  instr
    |> set fields.sfid (code descriptor.sfid)
    |> set fields.length descriptor.length
    |> set fields.responseLength descriptor.responseLength
    |> setAny fields.headerPresent descriptor.headerPresent.toNat
    |> set fields.eot descriptor.endOfThread.toNat

def setMessageDescriptor (descriptor : MessageDescriptor) (instr : Instruction) :
    Except Refusal Instruction := do
  let cleared ← instr.setSrc1 (.immD 0)
  pure (cleared.writeDescriptor descriptor)

/-- A URB write of the payload from the first message register on. A zero
per-slot offset leaves the offsets in the message header unused. -/
def setUrbMessage (urb : UrbMessage) (length responseLength : Nat) (endOfThread : Bool)
    (instr : Instruction) : Except Refusal Instruction := do
  let fields := instr.gen.messageFields
  let described ← instr.setMessageDescriptor ⟨.urb, length, responseLength, true, endOfThread⟩
  let loaded ← described.setSrc0 (.message 1 0)
  pure (loaded
    |> set fields.urbOpcode urb.opcode
    |> set fields.urbOffset urb.offset
    |> setAny fields.urbInterleave urb.interleave.toNat
    |> setAny fields.urbPerSlotOffset 0
    |> setAny fields.urbComplete urb.complete.toNat)

def setSamplerMessage (sampler : SamplerMessage) (length responseLength : Nat)
    (headerPresent : Bool) (instr : Instruction) : Except Refusal Instruction := do
  let fields := instr.gen.messageFields
  let described ←
    instr.setMessageDescriptor ⟨.sampler, length, responseLength, headerPresent, false⟩
  pure (described
    |> set fields.samplerBindingTable sampler.bindingTable
    |> set fields.sampler sampler.sampler
    |> set fields.samplerType sampler.type
    |> set fields.samplerMode sampler.mode)

def setDataportMessage (dataport : DataportMessage) (length responseLength : Nat)
    (headerPresent endOfThread : Bool) (instr : Instruction) : Except Refusal Instruction := do
  demand (7 ≤ instr.gen.number) (.noDataportDescriptor instr.gen)
  demand dataport.sfid.isDataport (.notDataport dataport.sfid)
  demand (dataport.bindingTable ≤ 0xff) (.bindingTableTooLarge dataport.bindingTable)
  demand (dataport.type ≤ 0x1f) (.messageTypeTooWide dataport.type)
  demand (dataport.control ≤ 0x3f) (.messageControlTooWide dataport.control)
  let described ←
    instr.setMessageDescriptor
      ⟨dataport.sfid, length, responseLength, headerPresent, endOfThread⟩
  pure (described.set instr.gen.messageFields.functionControl dataport.functionControl)

/-- Extended math of the first generations is a message to the math unit. -/
def setMathMessage (function : MathFunction) (length responseLength : Nat)
    (instr : Instruction) : Except Refusal Instruction := do
  let field ← orRefuse (.noMathMessage instr.gen) instr.gen.messageFields.mathFunction
  let described ← instr.setMessageDescriptor ⟨.math, length, responseLength, false, false⟩
  pure (described.set field (code function))

/-- Only bits 31:16 of the extended descriptor are encoded. -/
def setExtendedDescriptor (value : Nat) (instr : Instruction) : Except Refusal Instruction := do
  demand (instr.gen = .gen9) (.noExtendedDescriptor instr.gen)
  pure { instr with
    bits := Gen8Message.extendedDescriptor.set (value >>> 16) instr.bits }

end ExecUnit.Instruction
