import ExecUnit.Proofs.AcrossLayouts.Header
import ExecUnit.Proofs.Operand.SlotIndependence

/-!
The calls that change an instruction, as data, and runs of them. A run ends with the first
call that is refused (`Ending.refused` says which one it is), or with the instruction that
the last call left.
-/

namespace ExecUnit

inductive HeaderCall where
  | opcode (opcode : Opcode)
  | setting (setting : HeaderSetting)

inductive MessageCall where
  | descriptor (descriptor : MessageDescriptor)
  | urb (message : UrbMessage) (length responseLength : Nat) (endOfThread : Bool)
  | sampler (message : SamplerMessage) (length responseLength : Nat) (headerPresent : Bool)
  | dataport (message : DataportMessage) (length responseLength : Nat)
      (headerPresent endOfThread : Bool)
  | math (function : MathFunction) (length responseLength : Nat)

/-- A write that asks nothing of the instruction. -/
inductive RawCall where
  | field (field : Field) (value : Nat)
  | bits (high low value : Nat)
  | address (slot : Slot) (address : Address)

inductive Call where
  | header (call : HeaderCall)
  | operand (slot : Slot) (register : Register)
  | tripleDestination (register : Register)
  | tripleSource (index : Nat) (register : Register)
  | message (call : MessageCall)
  | jumpTargets (jip uip : Int)
  | raw (call : RawCall)
  | extendedDescriptor (value : Nat)

def Call.isExtended : Call → Bool
  | .extendedDescriptor _ => true
  | _ => false

namespace Instruction

def setHeaderCall (call : HeaderCall) (instr : Instruction) : Except Refusal Instruction :=
  match call with
  | .opcode opcode => instr.setOpcode opcode
  | .setting setting => instr.setHeader setting

def setMessage (call : MessageCall) (instr : Instruction) : Except Refusal Instruction :=
  match call with
  | .descriptor descriptor => instr.setMessageDescriptor descriptor
  | .urb message length responseLength endOfThread =>
      instr.setUrbMessage message length responseLength endOfThread
  | .sampler message length responseLength headerPresent =>
      instr.setSamplerMessage message length responseLength headerPresent
  | .dataport message length responseLength headerPresent endOfThread =>
      instr.setDataportMessage message length responseLength headerPresent endOfThread
  | .math function length responseLength => instr.setMathMessage function length responseLength

def setRaw (call : RawCall) (instr : Instruction) : Except Refusal Instruction :=
  match call with
  | .field field value => .ok (instr.set field value)
  | .bits high low value => instr.setBits high low value
  | .address slot address => .ok (instr.setAddress slot address)

def perform (call : Call) (instr : Instruction) : Except Refusal Instruction :=
  match call with
  | .header call => instr.setHeaderCall call
  | .operand slot register => instr.setOperand slot register
  | .tripleDestination register => instr.setTripleDestination register
  | .tripleSource index register => instr.setTripleSource index register
  | .message call => instr.setMessage call
  | .jumpTargets jip uip => .ok (instr.setJumpTargets jip uip)
  | .raw call => instr.setRaw call
  | .extendedDescriptor value => instr.setExtendedDescriptor value

end Instruction

/-- How a run ends. `position` counts the calls that were accepted. -/
inductive Ending where
  | finished (instr : Instruction)
  | refused (position : Nat) (refusal : Refusal)

namespace Ending

def later : Ending → Ending
  | .finished instr => .finished instr
  | .refused position refusal => .refused (position + 1) refusal

end Ending

def Instruction.run (instr : Instruction) : List Call → Ending
  | [] => .finished instr
  | call :: rest =>
      match instr.perform call with
      | .ok after => (after.run rest).later
      | .error refusal => .refused 0 refusal

end ExecUnit
