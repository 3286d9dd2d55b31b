import ExecUnit.Coded
import ExecUnit.Field

/-!
Field values that the operand model has no meaning for.
-/

namespace ExecUnit

structure DecodeFault where
  field : String
  value : Nat
  deriving DecidableEq, Repr

def DecodeFault.message (fault : DecodeFault) : String :=
  s!"Invalid {fault.field} value {fault.value}"

def orFault {α : Type} (field : Field) (value : Nat) : Option α → Except DecodeFault α
  | some meaning => .ok meaning
  | none => .error ⟨field.name, value⟩

def decodeCode {α : Type} [Coded α] (field : Field) (value : Nat) : Except DecodeFault α :=
  orFault field value (Coded.ofCode? value)

theorem decodeCode_code {α : Type} [Coded α] (field : Field) (value : α) :
    decodeCode field (code value) = .ok value := by
  simp [decodeCode, orFault, Coded.ofCode?_code]

end ExecUnit
