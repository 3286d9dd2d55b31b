import ExecUnit.DecodeFault
import ExecUnit.Instruction.Basic

/-!
Reading and writing the header: opcode, execution size, modifier, flag
register and the plain settings.
-/

namespace ExecUnit.Instruction

/-- The opcode of the field's number, on any generation. -/
def opcode? (instr : Instruction) : Option Opcode :=
  Coded.ofCode? (instr.get instr.layout.header.opcode)

def opcode (instr : Instruction) : Except DecodeFault Opcode :=
  decodeCode instr.layout.header.opcode (instr.get instr.layout.header.opcode)

def accessMode (instr : Instruction) : AccessMode :=
  if instr.get instr.layout.header.accessMode = 0 then .align1 else .align16

def execSize (instr : Instruction) : Except DecodeFault ExecSize :=
  decodeCode instr.layout.header.execSize (instr.get instr.layout.header.execSize)

def modifier (instr : Instruction) : Except DecodeFault Modifier := do
  let opcode ← instr.opcode
  let number := instr.get instr.layout.header.modifier
  orFault instr.layout.header.modifier number
    (Modifier.ofNumber? opcode number instr.gen.hasHeaderSfid)

/-- Whether the opcode is a three-source one that the generation has. -/
def isThreeSource (instr : Instruction) : Bool :=
  instr.opcode?.any fun opcode => opcode.isThreeSource && opcode.availableOn instr.gen

-- Three-source instructions may keep their flag register elsewhere.
def flagFields (instr : Instruction) : FlagFields :=
  if instr.isThreeSource then instr.layout.triple.flag else instr.layout.header.flag

/-- Number and sub-register of the flag register in use. -/
def flagRegister (instr : Instruction) : Nat × Nat :=
  (instr.get instr.flagFields.number, instr.get instr.flagFields.subreg)

/-- The jump targets, in the order they are printed. -/
def jumpTargets (instr : Instruction) : Int × Int :=
  let fields := instr.gen.jumpFields
  (fields.jip.getSigned instr.bits,
    if fields.signedUip then fields.uip.getSigned instr.bits else fields.uip.get instr.bits)

def setOpcode (opcode : Opcode) (instr : Instruction) : Except Refusal Instruction := do
  demand (opcode.availableOn instr.gen) (.opcodeUnavailable instr.gen opcode)
  pure (instr.set instr.layout.header.opcode (code opcode))

def setAccessMode (mode : AccessMode) (instr : Instruction) : Instruction :=
  instr.set instr.layout.header.accessMode (code mode)

def setExecSize (execSize : ExecSize) (instr : Instruction) : Instruction :=
  instr.set instr.layout.header.execSize (code execSize)

def setPredicate (control : PredicateControl) (inverse : Bool) (instr : Instruction) :
    Instruction :=
  instr
    |> set instr.layout.header.predicateControl (code control)
    |> set instr.layout.header.predicateInverse inverse.toNat

/-- Selects the flag register of predication and conditional modifiers. The
opcode comes first, because it decides where the flag register is kept. -/
def setFlagRegister (number subreg : Nat) (instr : Instruction) :
    Except Refusal Instruction := do
  demand (number ≤ 1 ∧ subreg ≤ 1) (.noFlagRegister number subreg)
  demand (number = 0 ∨ instr.gen.hasSecondFlag) (.onlyFirstFlag instr.gen)
  pure (instr
    |> set instr.flagFields.number number
    |> set instr.flagFields.subreg subreg)

def setSaturate (saturate : Bool) (instr : Instruction) : Instruction :=
  instr.set instr.layout.header.saturate saturate.toNat

def setDebugControl (breakpoint : Bool) (instr : Instruction) : Instruction :=
  instr.set instr.layout.header.debugControl breakpoint.toNat

def setMaskControl (control : MaskControl) (instr : Instruction) : Instruction :=
  instr.set instr.layout.header.maskControl (code control)

def setDependencyControl (control : DependencyControl) (instr : Instruction) : Instruction :=
  instr.set instr.layout.header.dependencyControl (code control)

/-- Quarter control, or compression control on the first generations. -/
def setQuarterControl (control : Nat) (instr : Instruction) : Instruction :=
  instr.set instr.layout.header.quarterControl control

def setThreadControl (control : ThreadControl) (instr : Instruction) : Instruction :=
  instr.set instr.layout.header.threadControl (code control)

def setAccWriteControl (enable : Bool) (instr : Instruction) : Instruction :=
  instr.set instr.layout.header.accWriteControl enable.toNat

/-- The opcode comes first, because it decides which modifiers fit. -/
def setModifier (modifier : Modifier) (instr : Instruction) : Except Refusal Instruction := do
  let opcode ← orRefuse (.opcodeUnset (instr.get instr.layout.header.opcode)) instr.opcode?
  demand (modifier.fits opcode instr.gen.hasHeaderSfid)
    (.modifierMisplaced modifier opcode instr.gen)
  pure (instr.set instr.layout.header.modifier modifier.number)

def setJumpTargets (jip uip : Int) (instr : Instruction) : Instruction :=
  let fields := instr.gen.jumpFields
  { instr with bits := instr.bits |> fields.jip.setSigned jip |> fields.uip.setSigned uip }

end ExecUnit.Instruction
