import ExecUnit.Header.Control
import ExecUnit.Message
import ExecUnit.Opcode

/-!
Header bits 27:24. The opcode class decides what they mean, and for SEND the
place of the shared function does too.
-/

namespace ExecUnit

/-- `messageRegister` is the first message register of a payload. -/
inductive Modifier where
  | condition (modifier : ConditionalModifier)
  | mathFunction (function : MathFunction)
  | sharedFunction (sfid : Sfid)
  | messageRegister (number : Nat)
  deriving DecidableEq, Repr

namespace Modifier

def number : Modifier → Nat
  | .condition modifier => code modifier
  | .mathFunction function => code function
  | .sharedFunction sfid => code sfid
  | .messageRegister number => number

def ofNumber? (opcode : Opcode) (number : Nat) (headerSfid : Bool) : Option Modifier :=
  match opcode.opcodeClass with
  | .math => (Coded.ofCode? number).map mathFunction
  | .send =>
      if headerSfid then (Coded.ofCode? number).map sharedFunction
      else some (messageRegister number)
  | .other => (Coded.ofCode? number).map condition

def fits (opcode : Opcode) (headerSfid : Bool) (modifier : Modifier) : Bool :=
  match modifier, opcode.opcodeClass with
  | .condition _, .other => true
  | .mathFunction _, .math => true
  | .sharedFunction _, .send => headerSfid
  | .messageRegister _, .send => !headerSfid
  | _, _ => false

def describe : Modifier → String
  | .condition modifier => s!"Condition({label modifier})"
  | .mathFunction function => s!"MathFunction({label function})"
  | .sharedFunction sfid => s!"SharedFunction({label sfid})"
  | .messageRegister number => s!"MessageRegister({number})"

theorem ofNumber?_number (opcode : Opcode) (headerSfid : Bool) (modifier : Modifier)
    (fitting : modifier.fits opcode headerSfid = true) :
    ofNumber? opcode modifier.number headerSfid = some modifier := by
  cases modifier <;> cases family : opcode.opcodeClass <;>
    simp_all [fits, ofNumber?, number, Coded.ofCode?_code]

end Modifier

end ExecUnit
